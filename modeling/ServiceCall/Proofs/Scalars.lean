import ServiceCall.Json.Skip
import ServiceCall.Proofs.Layouts

/-!
# Scalars passed over

A number or a string that is read is also passed over, and what is left is the same
(`Json.skipNumber_of_number`, `Json.skipString_of_string`). Whatever is passed over takes at least
one character (`Json.length_of_skipNumber`, `Json.length_of_skipString`), which bounds the steps of
passing over a whole value.

## Numbers

The reader of numbers stops taking digits where the significand is full and drops the others. To the
other side all of them are digits alike, so the two meet again only behind the last digit of each
part (`Json.skipDigits_takeDigits`).
-/

namespace ServiceCall.Json

/-! ## Numbers -/

/-- An exponent, if one follows, is passed over. -/
def skipPower : List Char → Except Fault (List Char)
  | 'e' :: rest | 'E' :: rest => skipExponent rest
  | rest => .ok rest

/-- What follows the first digits of a number is passed over. -/
def skipTail : List Char → Except Fault (List Char)
  | '.' :: rest => skipFraction rest
  | rest => skipPower rest

theorem skipNumber_zero {rest : List Char} (h : ∀ d ∈ rest.head?, d.isDigit = false) :
    skipNumber ('0' :: rest) = skipTail rest := by
  unfold skipTail skipPower
  cases rest with
  | nil => rfl
  | cons d rest =>
    simp only [skipNumber, h d rfl]
    grind

theorem skipNumber_digit {c : Char} {rest : List Char} (hc : c ≠ '0')
    (hdigit : c.isDigit = true) : skipNumber (c :: rest) = skipTail (skipDigits rest) := by
  simp only [skipNumber, hdigit, hc]
  unfold skipTail skipPower
  grind

theorem skipFraction_digit {c : Char} {rest : List Char} (hdigit : c.isDigit = true) :
    skipFraction (c :: rest) = skipPower (skipDigits rest) := by
  simp only [skipFraction, hdigit]
  rfl

theorem skipExponent_digit {c : Char} {rest : List Char} (hdigit : c.isDigit = true) :
    skipExponent (c :: rest) = .ok (skipDigits rest) := by
  have hplus := ne_of_isDigit (e := '+') hdigit rfl
  have hminus := ne_of_isDigit (e := '-') hdigit rfl
  unfold skipExponent
  grind

theorem skipExponent_signed {sign c : Char} {rest : List Char} (hsign : sign = '+' ∨ sign = '-')
    (hdigit : c.isDigit = true) : skipExponent (sign :: c :: rest) = .ok (skipDigits rest) := by
  rcases hsign with rfl | rfl
  · exact if_pos hdigit
  · exact if_pos hdigit

theorem skipDigits_cons_of_isDigit {c : Char} (h : c.isDigit = true) (cs : List Char) :
    skipDigits (c :: cs) = skipDigits cs := by
  rw [skipDigits, List.dropWhile_cons_of_pos h, skipDigits]

theorem skipDigits_cons_of_not {c : Char} (h : ¬ c.isDigit = true) (cs : List Char) :
    skipDigits (c :: cs) = c :: cs := by
  rw [skipDigits, List.dropWhile_cons_of_neg h]

theorem skipDigits_takeDigits (s n : Nat) (cs : List Char) :
    skipDigits (takeDigits s n cs).2.2 = skipDigits cs := by
  induction cs generalizing s n with
  | nil => rfl
  | cons c cs ih =>
    rw [takeDigits]
    by_cases hc : c.isDigit = true
    · rw [if_pos hc]
      split
      · rw [ih, skipDigits_cons_of_isDigit hc]
      · rfl
    · rw [if_neg hc]

section Numbers

variable {negative : Bool} {s : Nat} {exponent : Int} {n : Number} {cs rest : List Char}

theorem eq_of_scaled (h : scaled negative s exponent cs = .ok (n, rest)) : rest = cs := by
  rw [scaled] at h
  split at h
  · cases h
    rfl
  · cases h

theorem eq_skipDigits_of_exponentDigits {down : Bool} {e : Nat}
    (h : exponentDigits negative s exponent down e cs = .ok (n, rest)) : rest = skipDigits cs := by
  induction cs generalizing e with
  | nil => exact eq_of_scaled h
  | cons c cs ih =>
    rw [exponentDigits] at h
    by_cases hc : c.isDigit = true
    · rw [if_pos hc] at h
      rw [skipDigits_cons_of_isDigit hc]
      split at h
      · exact ih h
      · split at h
        · cases h
        · cases h
          rfl
    · rw [if_neg hc] at h
      rw [skipDigits_cons_of_not hc]
      exact eq_of_scaled h

theorem skipExponent_of_exponentPart (h : exponentPart negative s exponent cs = .ok (n, rest)) :
    skipExponent cs = .ok rest := by
  -- Behind a sign, or where there is none, there must be a digit.
  have hfirst : ∀ (down : Bool) (c : Char) (cs : List Char),
      (if c.isDigit then exponentDigits negative s exponent down (digitValue c) cs
        else .error (.behindNext .badNumber (c :: cs))) = .ok (n, rest) →
      c.isDigit = true ∧ rest = skipDigits cs := by
    intro down c cs h
    by_cases hc : c.isDigit = true
    · rw [if_pos hc] at h
      exact ⟨hc, eq_skipDigits_of_exponentDigits h⟩
    · rw [if_neg hc] at h
      cases h
  cases cs with
  | nil => cases h
  | cons c cs =>
    by_cases hsign : c = '+' ∨ c = '-'
    · cases cs with
      | nil => rcases hsign with rfl | rfl <;> cases h
      | cons d cs =>
        obtain ⟨hd, rfl⟩ : d.isDigit = true ∧ rest = skipDigits cs := by
          rcases hsign with rfl | rfl
          · exact hfirst false d cs h
          · exact hfirst true d cs h
        exact skipExponent_signed hsign hd
    · rw [not_or] at hsign
      have hplain : exponentPart negative s exponent (c :: cs)
          = if c.isDigit then exponentDigits negative s exponent false (digitValue c) cs
            else .error (.behindNext .badNumber (c :: cs)) := by
        unfold exponentPart
        grind
      obtain ⟨hc, rfl⟩ := hfirst false c cs (hplain ▸ h)
      exact skipExponent_digit hc

theorem skipPower_of_withExponent (h : withExponent negative s exponent cs = .ok (n, rest)) :
    skipPower cs = .ok rest := by
  unfold withExponent at h
  split at h
  · exact skipExponent_of_exponentPart h
  · exact skipExponent_of_exponentPart h
  · rename_i hlower hupper
    unfold skipPower
    split
    · exact absurd rfl (hlower _)
    · exact absurd rfl (hupper _)
    · rw [eq_of_scaled h]

theorem skipFraction_of_fractionPart (h : fractionPart negative s exponent cs = .ok (n, rest)) :
    skipFraction cs = .ok rest := by
  cases cs with
  | nil => cases h
  | cons c cs =>
    by_cases hc : c.isDigit = true
    · have hdigits := skipDigits_takeDigits s 0 (c :: cs)
      rw [skipDigits_cons_of_isDigit hc] at hdigits
      rw [skipFraction_digit hc, ← hdigits]
      unfold fractionPart at h
      split at h
      · rename_i d more htake
        rw [htake]
        split at h
        · exact skipPower_of_withExponent h
        · rename_i hd
          split at h
          · cases h
          · rw [skipDigits_cons_of_not hd]
            exact skipPower_of_withExponent h
      · rename_i htake
        rw [htake]
        split at h
        · cases h
        · exact skipPower_of_withExponent h
    · rw [fractionPart, takeDigits, if_neg hc] at h
      simp only [if_neg hc] at h
      cases h

theorem skipTail_of_numberTail (h : numberTail negative s cs = .ok (n, rest)) :
    skipTail cs = .ok rest := by
  unfold numberTail at h
  unfold skipTail
  split at h
  · exact skipFraction_of_fractionPart h
  · exact skipExponent_of_exponentPart h
  · exact skipExponent_of_exponentPart h
  · cases h
    unfold skipPower
    grind

/-- The digits in front of a point or of an exponent are all passed over, also those that the reader
drops. -/
theorem skipTail_of_digits {c : Char} (hzero : c ≠ '0') (hc : c.isDigit = true)
    (h : number negative (c :: cs) = .ok (n, rest)) : skipTail (skipDigits cs) = .ok rest := by
  rw [← skipDigits_takeDigits (digitValue c) 0 cs]
  simp only [number, if_neg hzero, if_pos hc] at h
  split at h
  · rename_i htake
    rw [htake]
    exact skipTail_of_numberTail h
  · rename_i d more htake
    rw [htake]
    by_cases hd : d.isDigit = true
    · rw [if_pos hd] at h
      dsimp only
      rw [skipDigits]
      split at h
      · rename_i hpoint
        rw [hpoint]
        exact skipFraction_of_fractionPart h
      · rename_i hpoint
        rw [skipTail.eq_def]
        split
        · rename_i hmore
          exact absurd hmore (hpoint _)
        · exact skipPower_of_withExponent h
    · rw [if_neg hd] at h
      dsimp only
      rw [skipDigits_cons_of_not hd]
      exact skipTail_of_numberTail h

theorem skipNumber_of_number (h : number negative cs = .ok (n, rest)) :
    skipNumber cs = .ok rest := by
  cases cs with
  | nil => cases h
  | cons c cs =>
    by_cases hzero : c = '0'
    · subst hzero
      cases cs with
      | nil =>
        change numberTail negative 0 [] = _ at h
        exact skipTail_of_numberTail h
      | cons d cs =>
        by_cases hd : d.isDigit = true
        · simp [number, hd] at h
        · rw [skipNumber_zero (by simpa using hd)]
          simp only [number, hd] at h
          exact skipTail_of_numberTail h
    · by_cases hc : c.isDigit = true
      · rw [skipNumber_digit hzero hc]
        exact skipTail_of_digits hzero hc h
      · simp [number, hzero, hc] at h

end Numbers

/-! ## Strings -/

theorem exists_of_fourDigits {cs rest : List Char} {n : Nat}
    (h : fourDigits cs = .ok (n, rest)) : ∃ a b c d, cs = a :: b :: c :: d :: rest := by
  unfold fourDigits at h
  split at h
  · rename_i a b c d more
    split at h
    · cases h
      exact ⟨a, b, c, d, rfl⟩
    · cases h
  · split at h
    · cases h
    · cases h

theorem skipStringFrom_number {cs rest : List Char} {n : Nat} (h : fourDigits cs = .ok (n, rest))
    (bound : Nat) :
    skipStringFrom (bound + 1) ('\\' :: 'u' :: cs) = skipStringFrom bound rest := by
  rw [skipStringFrom, if_neg (by decide), if_pos rfl]
  simp only [h]

theorem exists_of_pairedWith {high : Nat} {c : Char} {cs rest : List Char}
    (h : pairedWith high cs = .ok (c, rest)) :
    ∃ ds low, cs = '\\' :: 'u' :: ds ∧ fourDigits ds = .ok (low, rest) := by
  unfold pairedWith at h
  split at h
  all_goals try cases h
  rename_i ds
  cases hdigits : fourDigits ds with
  | error f =>
    rw [hdigits] at h
    cases h
  | ok r =>
    obtain ⟨low, more⟩ := r
    rw [hdigits] at h
    change (if isLowSurrogate low then _ else _) = _ at h
    split at h
    · rw [Except.ok.injEq, Prod.mk.injEq] at h
      obtain ⟨-, rfl⟩ := h
      exact ⟨ds, low, rfl, hdigits⟩
    · cases h

/-- What is read as one escape is passed over as one, or as two if it is a pair. -/
theorem exists_skipStringFrom_escaped {c : Char} {cs rest : List Char}
    (h : escaped cs = .ok (c, rest)) {bound : Nat} (hbound : cs.length < bound) :
    ∃ bound', rest.length < bound' ∧
      skipStringFrom (bound + 1) ('\\' :: cs) = skipStringFrom bound' rest := by
  have hsimple : ∀ e ∈ ['"', '\\', '/', 'b', 'f', 'n', 'r', 't'],
      ∀ more : List Char, cs = e :: more → rest = more →
      ∃ bound', rest.length < bound' ∧
        skipStringFrom (bound + 1) ('\\' :: cs) = skipStringFrom bound' rest := by
    intro e he more hcs hrest
    subst hcs hrest
    rw [List.length_cons] at hbound
    have hu : e ≠ 'u' := by
      rintro rfl
      exact absurd he (by decide)
    refine ⟨bound, by omega, ?_⟩
    rw [skipStringFrom.eq_def]
    simp only [if_pos he]
    grind
  unfold escaped at h
  split at h
  · cases h
  all_goals try (cases h; exact hsimple _ (by decide) _ rfl rfl)
  · rename_i ds
    cases hdigits : fourDigits ds with
    | error f =>
      rw [hdigits] at h
      cases h
    | ok r =>
      obtain ⟨n, more⟩ := r
      rw [hdigits] at h
      obtain ⟨_, _, _, _, rfl⟩ := exists_of_fourDigits hdigits
      simp only [List.length_cons] at hbound
      change (if isLowSurrogate n then _ else if isHighSurrogate n then _ else _) = _ at h
      split at h
      · cases h
      · split at h
        · obtain ⟨es, low, rfl, hlow⟩ := exists_of_pairedWith h
          obtain ⟨_, _, _, _, rfl⟩ := exists_of_fourDigits hlow
          simp only [List.length_cons] at hbound
          obtain ⟨bound, rfl⟩ : ∃ b, bound = b + 1 := ⟨bound - 1, by omega⟩
          refine ⟨bound, by omega, ?_⟩
          rw [skipStringFrom_number hdigits, skipStringFrom_number hlow]
        · rw [Except.ok.injEq, Prod.mk.injEq] at h
          obtain ⟨-, rfl⟩ := h
          exact ⟨bound, by omega, skipStringFrom_number hdigits bound⟩
  · cases h

/-- A string is passed over up to the quote at which reading it ends. -/
theorem skipStringFrom_of_stringFrom {b : Nat} {done cs rest : List Char} {s : String}
    (h : stringFrom b done cs = .ok (s, rest)) {bound : Nat} (hbound : cs.length < bound) :
    skipStringFrom bound cs = .ok rest := by
  induction b generalizing done cs bound with
  | zero => cases h
  | succ b ih =>
    obtain ⟨bound, rfl⟩ := Nat.exists_eq_add_one.2 (Nat.zero_lt_of_lt hbound)
    cases cs with
    | nil => cases h
    | cons c cs =>
      rw [List.length_cons] at hbound
      rw [stringFrom] at h
      by_cases hquote : c = '"'
      · rw [if_pos hquote] at h
        cases h
        rw [skipStringFrom.eq_def]
        exact if_pos hquote
      · rw [if_neg hquote] at h
        by_cases hescape : c = '\\'
        · subst hescape
          rw [if_pos rfl] at h
          cases hescaped : escaped cs with
          | error f =>
            rw [hescaped] at h
            cases h
          | ok r =>
            obtain ⟨d, more⟩ := r
            rw [hescaped] at h
            obtain ⟨bound', hmore, hskip⟩ := exists_skipStringFrom_escaped hescaped
              (Nat.lt_of_succ_lt_succ hbound)
            rw [hskip]
            exact ih h hmore
        · rw [if_neg hescape] at h
          by_cases hcontrol : c.toNat < 0x20
          · rw [if_pos hcontrol] at h
            cases h
          · rw [if_neg hcontrol] at h
            rw [skipStringFrom.eq_def]
            simp only [if_neg hquote, if_neg hescape, if_neg hcontrol]
            exact ih h (Nat.lt_of_succ_lt_succ hbound)

theorem skipString_of_string {cs rest : List Char} {s : String} (h : string cs = .ok (s, rest)) :
    skipString cs = .ok rest :=
  skipStringFrom_of_stringFrom h (Nat.lt_succ_self _)

/-! ## What passing over takes -/

theorem length_skipGaps (cs : List Char) : (skipGaps cs).length ≤ cs.length :=
  (List.dropWhile_sublist isGap).length_le

theorem length_skipDigits (cs : List Char) : (skipDigits cs).length ≤ cs.length :=
  (List.dropWhile_sublist Char.isDigit).length_le

theorem length_of_word {ws cs rest : List Char} (h : word ws cs = .ok rest) :
    rest.length ≤ cs.length := by
  induction ws generalizing cs with
  | nil =>
    cases h
    exact Nat.le_refl _
  | cons w ws ih =>
    cases cs with
    | nil => cases h
    | cons c cs =>
      rw [word] at h
      split at h
      · exact Nat.le_succ_of_le (ih h)
      · cases h

section Numbers

variable {cs rest : List Char}

theorem length_of_skipExponent (h : skipExponent cs = .ok rest) : rest.length < cs.length := by
  have hfirst : ∀ (c : Char) (ds : List Char),
      (if c.isDigit then .ok (skipDigits ds) else .error (.behindNext .badNumber (c :: ds)))
        = (Except.ok rest : Except Fault (List Char)) → rest.length < (c :: ds).length := by
    intro c ds h
    split at h
    · cases h
      exact Nat.lt_succ_of_le (length_skipDigits ds)
    · cases h
  unfold skipExponent at h
  split at h
  · rename_i ds
    cases ds with
    | nil => cases h
    | cons c ds => exact Nat.lt_succ_of_lt (hfirst c ds h)
  · rename_i ds
    cases ds with
    | nil => cases h
    | cons c ds => exact Nat.lt_succ_of_lt (hfirst c ds h)
  · cases cs with
    | nil => cases h
    | cons c ds => exact hfirst c ds h

theorem length_of_skipPower (h : skipPower cs = .ok rest) : rest.length ≤ cs.length := by
  unfold skipPower at h
  split at h
  · exact Nat.le_succ_of_le (length_of_skipExponent h).le
  · exact Nat.le_succ_of_le (length_of_skipExponent h).le
  · cases h
    exact Nat.le_refl _

theorem length_of_skipFraction (h : skipFraction cs = .ok rest) : rest.length < cs.length := by
  cases cs with
  | nil => cases h
  | cons c cs =>
    by_cases hc : c.isDigit = true
    · rw [skipFraction_digit hc] at h
      exact Nat.lt_succ_of_le ((length_of_skipPower h).trans (length_skipDigits cs))
    · rw [skipFraction] at h
      simp only [if_neg hc] at h
      cases h

theorem length_of_skipTail (h : skipTail cs = .ok rest) : rest.length ≤ cs.length := by
  unfold skipTail at h
  split at h
  · exact Nat.le_succ_of_le (length_of_skipFraction h).le
  · exact length_of_skipPower h

theorem length_of_skipNumber (h : skipNumber cs = .ok rest) : rest.length < cs.length := by
  cases cs with
  | nil => cases h
  | cons c cs =>
    by_cases hzero : c = '0'
    · subst hzero
      have hdigit : ∀ d ∈ cs.head?, d.isDigit = false := by
        cases cs with
        | nil => simp
        | cons d cs =>
          intro e he
          cases he
          by_contra hd
          rw [Bool.not_eq_false] at hd
          simp [skipNumber, hd] at h
      rw [skipNumber_zero hdigit] at h
      exact Nat.lt_succ_of_le (length_of_skipTail h)
    · by_cases hc : c.isDigit = true
      · rw [skipNumber_digit hzero hc] at h
        exact Nat.lt_succ_of_le ((length_of_skipTail h).trans (length_skipDigits cs))
      · simp [skipNumber, hzero, hc] at h

end Numbers

theorem length_of_skipStringFrom {bound : Nat} {cs rest : List Char}
    (h : skipStringFrom bound cs = .ok rest) : rest.length < cs.length := by
  induction bound generalizing cs with
  | zero => cases h
  | succ bound ih =>
    unfold skipStringFrom at h
    split at h
    · rename_i heq
      cases heq
    · cases h
    · rename_i c cs heq
      cases heq
      split at h
      · cases h
        exact Nat.lt_succ_self _
      · split at h
        · split at h
          · cases h
          · rename_i ds _
            split at h
            · cases h
            · rename_i more hdigits
              obtain ⟨_, _, _, _, rfl⟩ := exists_of_fourDigits hdigits
              have hmore := ih h
              simp only [List.length_cons]
              omega
          · split at h
            · have hmore := ih h
              simp only [List.length_cons]
              omega
            · cases h
        · split at h
          · cases h
          · exact Nat.lt_succ_of_lt (ih h)

theorem length_of_skipString {cs rest : List Char} (h : skipString cs = .ok rest) :
    rest.length < cs.length :=
  length_of_skipStringFrom h

end ServiceCall.Json

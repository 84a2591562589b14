import ServiceCall.Json.Printer
import ServiceCall.Json.Reader

/-!
# Numbers and strings read back

What is written for an integer or a string is read back as the same integer or string, and what
stands behind it is left (`Json.number_digits`, `Json.string_flatMap_escapeChar`).

## What a number ends at

A string ends at its quote. A number has no such end: its reader goes on as long as it can, so
`12` followed by `3` is another number, and followed by `.` none. What follows the text of a number
must therefore not continue it. `Json.EndsNumber` says so, and it is the one condition on what
stands behind a printed value; the end of the text satisfies it, and so do blanks, commas and
brackets.

## What is read in one step

The reader of strings takes one character in a step, or one escape. Of every character exactly one
of the two was written (`Json.stringFrom_escapeChar`), so there is one step for each character of
the string, and the bound on the steps is never met.
-/

namespace ServiceCall.Json

/-! ## Digits -/

/-- A number goes on with this character. -/
def continuesNumber (c : Char) : Bool := c.isDigit || c = '.' || c = 'e' || c = 'E'

/-- A number that ends here is read as such. -/
def EndsNumber (rest : List Char) : Prop := ∀ c ∈ rest.head?, continuesNumber c = false

theorem endsNumber_nil : EndsNumber [] := by
  intro c hc
  cases hc

theorem endsNumber_cons {c : Char} (h : continuesNumber c = false) (rest : List Char) :
    EndsNumber (c :: rest) := by
  intro d hd
  cases hd
  exact h

theorem EndsNumber.isDigit_eq_false {c : Char} {rest : List Char} (h : EndsNumber (c :: rest)) :
    c.isDigit = false := by
  have hc : continuesNumber c = false := h c rfl
  simp only [continuesNumber, Bool.or_eq_false_iff] at hc
  exact hc.1.1.1

/-- The number that digits stand for, behind digits that stand for `s`. -/
def significandFrom (s : Nat) (ds : List Char) : Nat := ds.foldl (fun s c ↦ s * 10 + digitValue c) s

theorem le_significandFrom (s : Nat) (ds : List Char) : s ≤ significandFrom s ds := by
  induction ds generalizing s with
  | nil => exact Nat.le_refl s
  | cons c ds ih => exact Nat.le_trans (by omega) (ih (s * 10 + digitValue c))

theorem toNat_decimalDigit (n : Nat) : (Number.decimalDigit n).toNat = 48 + n % 10 := by
  have hvalid : (48 + n % 10).isValidChar := .inl (by omega)
  rw [Number.decimalDigit, Char.ofNat, dif_pos hvalid]
  rfl

theorem digitValue_decimalDigit (n : Nat) : digitValue (Number.decimalDigit n) = n % 10 := by
  rw [digitValue, toNat_decimalDigit]
  omega

theorem isDigit_decimalDigit (n : Nat) : (Number.decimalDigit n).isDigit = true := by
  have hlt : n % 10 < 10 := Nat.mod_lt n (by omega)
  have hall : ∀ k < 10, (Char.ofNat (48 + k)).isDigit = true := by decide
  exact hall _ hlt

theorem digits_of_lt {n : Nat} (h : n < 10) : Number.digits n = [Number.decimalDigit n] := by
  rw [Number.digits, if_pos h]

theorem digits_of_le {n : Nat} (h : 10 ≤ n) :
    Number.digits n = Number.digits (n / 10) ++ [Number.decimalDigit n] := by
  rw [Number.digits, if_neg (by omega)]

theorem isDigit_of_mem_digits {n : Nat} {c : Char} (h : c ∈ Number.digits n) :
    c.isDigit = true := by
  induction n using Number.digits.induct with
  | case1 n hlt =>
    rw [digits_of_lt hlt, List.mem_singleton] at h
    rw [h]
    exact isDigit_decimalDigit n
  | case2 n hge ih =>
    rw [digits_of_le (by omega), List.mem_append, List.mem_singleton] at h
    rcases h with h | h
    · exact ih h
    · rw [h]
      exact isDigit_decimalDigit n

theorem significandFrom_digits (n : Nat) : significandFrom 0 (Number.digits n) = n := by
  induction n using Number.digits.induct with
  | case1 n hlt =>
    rw [digits_of_lt hlt, significandFrom, List.foldl_cons, List.foldl_nil, digitValue_decimalDigit]
    omega
  | case2 n hge ih =>
    rw [significandFrom] at ih
    rw [digits_of_le (by omega), significandFrom, List.foldl_append, ih, List.foldl_cons,
      List.foldl_nil, digitValue_decimalDigit]
    omega

/-- Only zero starts with the digit zero. -/
theorem exists_digits_eq_cons (n : Nat) :
    ∃ c ds, Number.digits n = c :: ds ∧ (c = '0' → n = 0) := by
  induction n using Number.digits.induct with
  | case1 n hlt =>
    refine ⟨_, _, digits_of_lt hlt, fun hzero ↦ ?_⟩
    have hvalue : digitValue (Number.decimalDigit n) = digitValue '0' := congrArg digitValue hzero
    rw [digitValue_decimalDigit, Nat.mod_eq_of_lt hlt] at hvalue
    exact hvalue
  | case2 n hge ih =>
    obtain ⟨c, ds, hds, hc⟩ := ih
    refine ⟨c, ds ++ [Number.decimalDigit n], by rw [digits_of_le (by omega), hds]; rfl, ?_⟩
    intro hzero
    have := hc hzero
    omega

/-! ## Reading digits -/

theorem takeDigits_append {ds rest : List Char} (hds : ∀ c ∈ ds, c.isDigit = true)
    (hrest : EndsNumber rest) {s : Nat} (hfits : significandFrom s ds ≤ maxWord64) (k : Nat) :
    takeDigits s k (ds ++ rest) = (significandFrom s ds, k + ds.length, rest) := by
  induction ds generalizing s k with
  | nil =>
    cases rest with
    | nil => rfl
    | cons c rest =>
      rw [List.nil_append, takeDigits, hrest.isDigit_eq_false]
      rfl
  | cons c ds ih =>
    have hstep : s * 10 + digitValue c ≤ maxWord64 :=
      Nat.le_trans (le_significandFrom _ ds) hfits
    rw [List.cons_append, takeDigits, if_pos (hds c List.mem_cons_self), if_pos hstep,
      ih (fun d hd ↦ hds d (List.mem_cons_of_mem c hd)) hfits, List.length_cons]
    rw [show k + 1 + ds.length = k + (ds.length + 1) by omega]
    rfl

theorem numberTail_of_endsNumber (negative : Bool) (n : Nat) {rest : List Char}
    (h : EndsNumber rest) : numberTail negative n rest = .ok (integer negative n, rest) := by
  unfold numberTail
  split
  · exact absurd (h '.' rfl) (by decide)
  · exact absurd (h 'e' rfl) (by decide)
  · exact absurd (h 'E' rfl) (by decide)
  · rfl

/-- A zero stands alone. -/
theorem number_zero (negative : Bool) {rest : List Char} (h : EndsNumber rest) :
    number negative ('0' :: rest) = .ok (integer negative 0, rest) := by
  cases rest with
  | nil => rfl
  | cons c rest =>
    rw [number.eq_def]
    simp only [h.isDigit_eq_false]
    exact numberTail_of_endsNumber negative 0 h

theorem number_cons (negative : Bool) {c : Char} {ds rest : List Char} (hc : c ≠ '0')
    (hdigit : ∀ d ∈ c :: ds, d.isDigit = true) (hrest : EndsNumber rest)
    (hfits : significandFrom (digitValue c) ds ≤ maxWord64) :
    number negative (c :: (ds ++ rest))
      = .ok (integer negative (significandFrom (digitValue c) ds), rest) := by
  have htake := takeDigits_append (fun d hd ↦ hdigit d (List.mem_cons_of_mem c hd)) hrest hfits 0
  rw [number.eq_def]
  simp only [hc, hdigit c List.mem_cons_self, htake]
  cases rest with
  | nil => exact numberTail_of_endsNumber negative _ hrest
  | cons d rest =>
    simp only [hrest.isDigit_eq_false]
    exact numberTail_of_endsNumber negative _ hrest

theorem number_digits (negative : Bool) {n : Nat} (hn : n ≤ maxWord64) {rest : List Char}
    (hrest : EndsNumber rest) :
    number negative (Number.digits n ++ rest) = .ok (integer negative n, rest) := by
  by_cases hzero : n = 0
  · subst hzero
    rw [digits_of_lt (by omega), List.singleton_append]
    exact number_zero negative hrest
  · obtain ⟨c, ds, hds, hc⟩ := exists_digits_eq_cons n
    have hdigit : ∀ d ∈ c :: ds, d.isDigit = true := fun d hd ↦ isDigit_of_mem_digits (hds ▸ hd)
    have hvalue : significandFrom (digitValue c) ds = n := by
      have hwhole := significandFrom_digits n
      rw [hds, significandFrom, List.foldl_cons, Nat.zero_mul, Nat.zero_add] at hwhole
      exact hwhole
    have hnumber := number_cons negative (fun h ↦ hzero (hc h)) hdigit hrest (hvalue ▸ hn)
    rw [hds, List.cons_append, hnumber, hvalue]

/-! ## Strings -/

theorem hexValue?_hexDigit {n : Nat} (h : n < 16) : hexValue? (hexDigit n) = some n := by
  have hall : ∀ n < 16, hexValue? (hexDigit n) = some n := by decide
  exact hall n h

/-- A control character is read back from its number. -/
theorem escaped_control {c : Char} (h : c.toNat < 0x20) (cs : List Char) :
    escaped ('u' :: '0' :: '0' :: hexDigit (c.toNat / 16) :: hexDigit (c.toNat % 16) :: cs)
      = .ok (c, cs) := by
  have hhigh : hexValue? (hexDigit (c.toNat / 16)) = some (c.toNat / 16) :=
    hexValue?_hexDigit (by omega)
  have hlow : hexValue? (hexDigit (c.toNat % 16)) = some (c.toNat % 16) :=
    hexValue?_hexDigit (by omega)
  have hsum : ((0 * 16 + 0) * 16 + c.toNat / 16) * 16 + c.toNat % 16 = c.toNat := by omega
  have hfour : fourDigits ('0' :: '0' :: hexDigit (c.toNat / 16) :: hexDigit (c.toNat % 16) :: cs)
      = .ok (c.toNat, cs) := by
    rw [fourDigits, hhigh, hlow, show hexValue? '0' = some 0 from rfl]
    simp only [hsum]
  have hlowSurrogate : isLowSurrogate c.toNat = false := by
    rw [isLowSurrogate, decide_eq_false (by omega)]
    rfl
  have hhighSurrogate : isHighSurrogate c.toNat = false := by
    rw [isHighSurrogate, decide_eq_false (by omega)]
    rfl
  rw [escaped, hfour]
  simp only [bind, Except.bind, hlowSurrogate, hhighSurrogate, Char.ofNat_toNat]
  rfl

/-- However a character was written, one step reads it. -/
theorem stringFrom_escapeChar (bound : Nat) (done : List Char) (c : Char) (cs : List Char) :
    stringFrom (bound + 1) done (escapeChar c ++ cs) = stringFrom bound (c :: done) cs := by
  unfold escapeChar
  split
  all_goals try rfl
  rename_i hquote hbackslash _ _ _ _ _
  split
  · rename_i hcontrol
    simp only [List.cons_append, List.nil_append]
    rw [stringFrom, if_neg (by decide), if_pos rfl, escaped_control hcontrol]
  · rename_i hvisible
    rw [List.singleton_append, stringFrom, if_neg hquote, if_neg hbackslash, if_neg hvisible]

theorem escapeChar_ne_nil (c : Char) : escapeChar c ≠ [] := by
  unfold escapeChar
  split
  all_goals try exact List.cons_ne_nil _ _
  split <;> exact List.cons_ne_nil _ _

theorem length_le_length_flatMap_escapeChar (cs : List Char) :
    cs.length ≤ (cs.flatMap escapeChar).length := by
  induction cs with
  | nil => exact Nat.le_refl 0
  | cons c cs ih =>
    have hpos : 0 < (escapeChar c).length := List.length_pos_iff.2 (escapeChar_ne_nil c)
    rw [List.flatMap_cons, List.length_append, List.length_cons]
    omega

theorem stringFrom_flatMap_escapeChar {bound : Nat} {cs : List Char} (h : cs.length < bound)
    (done rest : List Char) :
    stringFrom bound done (cs.flatMap escapeChar ++ '"' :: rest)
      = .ok (String.ofList (done.reverse ++ cs), rest) := by
  induction cs generalizing bound done with
  | nil =>
    obtain ⟨bound, rfl⟩ := Nat.exists_eq_add_one.2 h
    rw [List.flatMap_nil, List.nil_append, stringFrom, if_pos rfl, List.append_nil]
  | cons c cs ih =>
    obtain ⟨bound, rfl⟩ := Nat.exists_eq_add_one.2 (Nat.zero_lt_of_lt h)
    rw [List.flatMap_cons, List.append_assoc, stringFrom_escapeChar,
      ih (Nat.lt_of_succ_lt_succ h), List.reverse_cons, List.append_assoc, List.singleton_append]

theorem string_flatMap_escapeChar (s : String) (rest : List Char) :
    string (s.toList.flatMap escapeChar ++ '"' :: rest) = .ok (s, rest) := by
  have hlength := length_le_length_flatMap_escapeChar s.toList
  have hbound : s.toList.length
      < (s.toList.flatMap escapeChar ++ '"' :: rest).length + 1 := by
    rw [List.length_append, List.length_cons]
    omega
  rw [string, stringFrom_flatMap_escapeChar hbound, List.reverse_nil, List.nil_append,
    String.ofList_toList]

end ServiceCall.Json

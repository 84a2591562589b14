import ServiceCall.Proofs.Skimming
import ServiceCall.Proofs.Unambiguous

/-!
# Printed values are passed over

Whatever value is printed, also one with doubles in it or nested deeper than readers go, its text is
passed over up to its end (`Json.skims_compactText`). So a record with unknown fields is read back
from its printed form no matter what these fields hold.

As with reading, the only condition is on what stands behind a number (`Json.EndsNumber`). A number
is followed here through its grammar: digits without a superfluous zero, a point with digits, an
exponent with digits.
-/

namespace ServiceCall.Json

/-! ## Numbers -/

section Numbers

variable {ds rest : List Char} (hds : ∀ c ∈ ds, c.isDigit = true)

/-- No digit stands in front. -/
def EndsDigits (rest : List Char) : Prop := ∀ c ∈ rest.head?, c.isDigit = false

theorem EndsNumber.endsDigits (h : EndsNumber rest) : EndsDigits rest := by
  intro c hc
  have hnot := h c hc
  simp only [continuesNumber, Bool.or_eq_false_iff] at hnot
  exact hnot.1.1.1

include hds in
theorem skipDigits_append (hrest : EndsDigits rest) : skipDigits (ds ++ rest) = rest := by
  rw [skipDigits, List.dropWhile_append_of_pos hds]
  cases rest with
  | nil => rfl
  | cons c rest => exact List.dropWhile_cons_of_neg (by rw [hrest c rfl]; exact Bool.false_ne_true)

theorem skipPower_of_endsNumber (h : EndsNumber rest) : skipPower rest = .ok rest := by
  unfold skipPower
  split
  · exact absurd (h 'e' rfl) (by decide)
  · exact absurd (h 'E' rfl) (by decide)
  · rfl

theorem skipTail_of_endsNumber (h : EndsNumber rest) : skipTail rest = .ok rest := by
  unfold skipTail
  split
  · exact absurd (h '.' rfl) (by decide)
  · exact skipPower_of_endsNumber h

include hds in
/-- Digits in front are passed over, if a zero among them stands alone or behind others. -/
theorem skipNumber_append (hne : ds ≠ []) (hzero : ds.head? = some '0' → ds = ['0'])
    (hrest : EndsDigits rest) : skipNumber (ds ++ rest) = skipTail rest := by
  cases ds with
  | nil => exact absurd rfl hne
  | cons c ds =>
    by_cases hc : c = '0'
    · subst hc
      obtain rfl : ds = [] := (List.cons.inj (hzero rfl)).2
      exact skipNumber_zero hrest
    · rw [List.cons_append, skipNumber_digit hc (hds c List.mem_cons_self),
        skipDigits_append (fun d hd ↦ hds d (List.mem_cons_of_mem c hd)) hrest]

include hds in
theorem skipTail_point (hne : ds ≠ []) (hrest : EndsDigits rest) :
    skipTail ('.' :: (ds ++ rest)) = skipPower rest := by
  cases ds with
  | nil => exact absurd rfl hne
  | cons c ds =>
    rw [skipTail, List.cons_append, skipFraction_digit (hds c List.mem_cons_self),
      skipDigits_append (fun d hd ↦ hds d (List.mem_cons_of_mem c hd)) hrest]

include hds in
theorem skipPower_exponent (hne : ds ≠ []) {sign : Char} (hsign : sign = '+' ∨ sign = '-')
    (hrest : EndsDigits rest) : skipPower ('e' :: sign :: (ds ++ rest)) = .ok rest := by
  cases ds with
  | nil => exact absurd rfl hne
  | cons c ds =>
    rw [skipPower, List.cons_append, skipExponent_signed hsign (hds c List.mem_cons_self),
      skipDigits_append (fun d hd ↦ hds d (List.mem_cons_of_mem c hd)) hrest]

end Numbers

section NumberTexts

open Number (digits plainText exponentText pointAfter magnitudeText)

theorem digits_ne_zeros (n : Nat) (h : (digits n).head? = some '0') : n = 0 := by
  obtain ⟨c, ds, hds, hzero⟩ := exists_digits_eq_cons n
  rw [hds] at h
  exact hzero (Option.some.inj h)

theorem digits_eq_of_head? {n : Nat} (h : (digits n).head? = some '0') : digits n = ['0'] := by
  rw [digits_ne_zeros n h, digits_of_lt (by decide)]
  rfl

theorem endsDigits_cons {c : Char} (h : c.isDigit = false) (cs : List Char) :
    EndsDigits (c :: cs) := by
  intro d hd
  cases hd
  exact h

variable {rest : List Char} (hrest : EndsNumber rest)

include hrest

theorem skipNumber_digits (n : Nat) : skipNumber (digits n ++ rest) = .ok rest := by
  rw [skipNumber_append (Number.forall_isDigit_digits n) (Number.digits_ne_nil n)
    digits_eq_of_head? hrest.endsDigits, skipTail_of_endsNumber hrest]

/-- Digits, a point and digits. -/
theorem skipNumber_decimal {whole fraction : List Char} (hwhole : ∀ c ∈ whole, c.isDigit = true)
    (hne : whole ≠ []) (hzero : whole.head? = some '0' → whole = ['0'])
    (hfraction : ∀ c ∈ fraction, c.isDigit = true) (hne' : fraction ≠ []) :
    skipNumber (whole ++ '.' :: (fraction ++ rest)) = .ok rest := by
  rw [skipNumber_append hwhole hne hzero (endsDigits_cons rfl _),
    skipTail_point hfraction hne' hrest.endsDigits, skipPower_of_endsNumber hrest]

theorem skipNumber_plainText {n : Nat} (hn : n ≠ 0) (exponent : Int) :
    skipNumber (plainText (digits n) exponent (pointAfter ⟨n, exponent⟩ (digits n)) ++ rest)
      = .ok rest := by
  have hdigits := Number.forall_isDigit_digits n
  have hne := Number.digits_ne_nil n
  have hfirst : (digits n).head? ≠ some '0' := fun h ↦ hn (digits_ne_zeros n h)
  have hlength : 0 < (digits n).length := List.length_pos_iff.2 hne
  -- The point stands behind the digits, among them or in front of them.
  rw [plainText, pointAfter]
  dsimp only
  split
  · have hhead : ∀ zeros : List Char, (digits n ++ zeros).head? = (digits n).head? :=
      fun zeros ↦ List.head?_append_of_ne_nil _ hne
    have htext : digits n ++ List.replicate exponent.toNat '0' ++ ['.', '0'] ++ rest
        = (digits n ++ List.replicate exponent.toNat '0') ++ '.' :: (['0'] ++ rest) := by simp
    rw [htext]
    refine skipNumber_decimal hrest
      (Number.forall_isDigit_append hdigits (Number.forall_isDigit_zeros _))
      (List.append_ne_nil_of_left_ne_nil hne _) ?_ (Number.forall_isDigit_zeros 1)
      (List.cons_ne_nil _ _)
    rw [hhead]
    exact fun h ↦ absurd h hfirst
  · split
    · obtain ⟨k, hk⟩ : ∃ k : Nat, ((digits n).length + exponent).toNat = k + 1 :=
        ⟨((digits n).length + exponent).toNat - 1, by omega⟩
      have htake : ∀ c ∈ (digits n).take (k + 1), c.isDigit = true :=
        fun c hc ↦ hdigits c (List.mem_of_mem_take hc)
      have hdrop : ∀ c ∈ (digits n).drop (k + 1), c.isDigit = true :=
        fun c hc ↦ hdigits c (List.mem_of_mem_drop hc)
      rw [hk, List.append_assoc, List.cons_append]
      refine skipNumber_decimal hrest htake ?_ ?_ hdrop ?_
      · exact fun h ↦ (List.take_eq_nil_iff.1 h).elim (by simp) hne
      · rw [List.head?_take, if_neg (by omega)]
        exact fun h ↦ absurd h hfirst
      · rw [Ne, List.drop_eq_nil_iff]
        omega
    · have htext : '0' :: '.' :: List.replicate (-((digits n).length + exponent)).toNat '0'
            ++ digits n ++ rest
          = ['0'] ++ '.' ::
            (List.replicate (-((digits n).length + exponent)).toNat '0' ++ digits n ++ rest) := by
        simp
      rw [htext]
      exact skipNumber_decimal hrest (Number.forall_isDigit_zeros 1) (List.cons_ne_nil _ _)
        (fun _ ↦ rfl) (Number.forall_isDigit_append (Number.forall_isDigit_zeros _) hdigits)
        (List.append_ne_nil_of_right_ne_nil _ hne)

theorem skipNumber_exponentText {n : Nat} (hn : n ≠ 0) (point : Int) :
    skipNumber (exponentText (digits n) point ++ rest) = .ok rest := by
  have hdigits := Number.forall_isDigit_digits n
  have hfirst : (digits n).head? ≠ some '0' := fun h ↦ hn (digits_ne_zeros n h)
  have hsign : (if point - 1 < 0 then '-' else '+') = '+' ∨
      (if point - 1 < 0 then '-' else '+') = '-' := by
    split
    · exact .inr rfl
    · exact .inl rfl
  have hpower : skipPower ('e' :: (if point - 1 < 0 then '-' else '+') ::
      (digits (point - 1).natAbs ++ rest)) = .ok rest :=
    skipPower_exponent (Number.forall_isDigit_digits _) (Number.digits_ne_nil _) hsign
      hrest.endsDigits
  obtain ⟨c, ds, hds, -⟩ := exists_digits_eq_cons n
  rw [hds] at hdigits hfirst ⊢
  have hc : ∀ d ∈ [c], d.isDigit = true := fun d hd ↦
    hdigits d (List.mem_singleton.1 hd ▸ List.mem_cons_self)
  have hzero : [c].head? = some '0' → [c] = ['0'] := fun h ↦ absurd h hfirst
  cases ds with
  | nil =>
    change skipNumber ([c] ++ 'e' :: (if point - 1 < 0 then '-' else '+') ::
      (digits (point - 1).natAbs ++ rest)) = .ok rest
    rw [skipNumber_append hc (List.cons_ne_nil _ _) hzero (endsDigits_cons rfl _)]
    exact hpower
  | cons d ds =>
    have hfraction : ∀ e ∈ d :: ds, e.isDigit = true :=
      fun e he ↦ hdigits e (List.mem_cons_of_mem c he)
    have htext : exponentText (c :: d :: ds) point ++ rest
        = [c] ++ '.' :: (d :: ds ++ 'e' :: (if point - 1 < 0 then '-' else '+') ::
          (digits (point - 1).natAbs ++ rest)) := by
      simp [exponentText]
    rw [htext, skipNumber_append hc (List.cons_ne_nil _ _) hzero (endsDigits_cons rfl _),
      skipTail_point hfraction (List.cons_ne_nil _ _) (endsDigits_cons rfl _), hpower]

omit hrest in
/-- The shortest decimal of a double has a digit other than zero, unless the double is zero. -/
theorem digits_shortest_ne_zero {x : Binary64} (h : ¬ x.isZero = true) :
    (Decimal.shortest x).digits ≠ 0 := by
  intro hzero
  have hvalue : (Decimal.shortest x).value = (Decimal.shortest (.zero false)).value := by
    have hnone : Decimal.shortest (.zero false) = ⟨0, 0⟩ := if_pos (decide_eq_true rfl)
    rw [hnone, Decimal.Scaled.value, Decimal.Scaled.value, hzero, Nat.cast_zero, zero_mul, zero_mul]
  have hcode : x.code = 0 := Decimal.code_eq_of_value_shortest_eq hvalue
  exact h (decide_eq_true hcode)

theorem skipNumber_magnitudeText (x : Binary64) :
    skipNumber (magnitudeText x ++ rest) = .ok rest := by
  rw [magnitudeText]
  split
  · exact skipNumber_decimal hrest (Number.forall_isDigit_zeros 1) (List.cons_ne_nil _ _)
      (fun _ ↦ rfl) (Number.forall_isDigit_zeros 1) (List.cons_ne_nil _ _)
  · rename_i hzero
    split
    · exact skipNumber_plainText hrest (digits_shortest_ne_zero hzero) _
    · exact skipNumber_exponentText hrest (digits_shortest_ne_zero hzero) _

end NumberTexts

/-! ## Values -/

theorem exists_digit_of_skipNumber {cs rest : List Char} (h : skipNumber cs = .ok rest) :
    ∃ c ds, cs = c :: ds ∧ c.isDigit = true := by
  cases cs with
  | nil => cases h
  | cons c ds =>
    refine ⟨c, ds, rfl, ?_⟩
    by_cases hzero : c = '0'
    · rw [hzero]
      rfl
    · by_contra hc
      unfold skipNumber at h
      simp only [if_neg hzero, if_neg hc] at h
      cases h

theorem skims_number (n : Number) {rest : List Char} (hrest : EndsNumber rest) :
    Skims (.value, [], n.text ++ rest) (.next, [], rest) := by
  have hminus : ∀ {text : List Char}, skipNumber (text ++ rest) = .ok rest →
      Skims (.value, [], '-' :: text ++ rest) (.next, [], rest) := fun h ↦ skims_scalar h rfl
  have hplain : ∀ {text : List Char}, skipNumber (text ++ rest) = .ok rest →
      Skims (.value, [], text ++ rest) (.next, [], rest) := by
    intro text h
    obtain ⟨c, cs, htext, hc⟩ := exists_digit_of_skipNumber h
    rw [htext] at h ⊢
    exact skims_scalar h (skipStep_digit hc cs)
  cases n with
  | int i =>
    have hdigits := skipNumber_digits hrest i.natAbs
    rw [Number.text, Number.intText]
    split
    · exact hminus hdigits
    · exact hplain hdigits
  | real x =>
    have hmagnitude := skipNumber_magnitudeText hrest x
    rw [Number.text, Number.realText_eq]
    split
    · exact hminus hmagnitude
    · exact hplain hmagnitude

theorem skims_string (s : String) (rest : List Char) :
    Skims (.value, [], quoteText s ++ rest) (.next, [], rest) := by
  rw [quoteText_append]
  exact skims_scalar (skipString_of_string (string_flatMap_escapeChar s rest)) rfl

theorem endsNumber_compactItems (items : List Json) (rest : List Char) :
    EndsNumber (compactItems items ++ ']' :: rest) := by
  cases items with
  | nil => exact endsNumber_cons rfl rest
  | cons x items =>
    rw [compactItems_cons_append]
    exact endsNumber_cons rfl _

theorem endsNumber_compactFields (fields : List (String × Json)) (rest : List Char) :
    EndsNumber (compactFields fields ++ '\x7d' :: rest) := by
  cases fields with
  | nil => exact endsNumber_cons rfl rest
  | cons e fields =>
    rw [compactFields_cons_append]
    exact endsNumber_cons rfl _

/-- No blank stands in front of a printed value. -/
theorem isGap_of_kindAt {c : Char} {kind : String} (h : kindAt c = some kind) :
    isGap c = false := by
  rw [← Bool.not_eq_true]
  intro hgap
  simp only [isGap, Bool.or_eq_true, decide_eq_true_eq] at hgap
  rcases hgap with ((rfl | rfl) | rfl) | rfl <;> cases h

section Items

variable (x : Json) (cs : List Char)

theorem nextItem_compactText_first :
    nextItem true (compactText x ++ cs) = .ok (some (compactText x ++ cs), []) := by
  obtain ⟨c, ds, htext, hkind⟩ := exists_compactText_eq_cons x
  rw [htext, List.cons_append, nextItem, skipGaps_cons (isGap_of_kindAt hkind)]
  simp [show c ≠ ']' by rintro rfl; cases hkind]

theorem nextItem_compactText_next :
    nextItem false (',' :: (compactText x ++ cs)) = .ok (some (compactText x ++ cs), []) := by
  obtain ⟨c, ds, htext, hkind⟩ := exists_compactText_eq_cons x
  rw [htext, List.cons_append, nextItem, skipGaps_cons rfl]
  simp [skipGaps_cons (isGap_of_kindAt hkind), show c ≠ ']' by rintro rfl; cases hkind]

end Items

mutual

/-- A printed value is passed over, and what stands behind it is left. -/
theorem skims_compactText (v : Json) {rest : List Char} (hrest : EndsNumber rest) :
    Skims (.value, [], compactText v ++ rest) (.next, [], rest) := by
  match v with
  | null =>
    rw [compactText]
    exact skims_scalar rfl rfl
  | bool true =>
    rw [compactText]
    exact skims_scalar rfl rfl
  | bool false =>
    rw [compactText]
    exact skims_scalar rfl rfl
  | num n =>
    rw [compactText]
    exact skims_number n hrest
  | str s =>
    rw [compactText]
    exact skims_string s rest
  | arr [] =>
    have hclose : nextItem true (']' :: rest) = .ok (none, rest) := rfl
    rw [compactText]
    exact skims_of_nextItem_none hclose
  | arr (x :: items) =>
    rw [compactText_arr_cons_append]
    exact (skims_of_item (nextItem_compactText_first x _)
      (skims_compactText x (endsNumber_compactItems items rest))).trans
        (skims_compactItems items rest)
  | obj [] =>
    have hclose : nextKey true ('\x7d' :: rest) = .ok (none, rest) := rfl
    rw [compactText]
    exact skims_of_nextKey_none hclose
  | obj (e :: fields) =>
    rw [compactText_obj_cons_append]
    exact (skims_of_field (nextKey_first (List.forall_mem_nil _) e.1 _) (colon_cons _)
      (skims_compactText e.2 (endsNumber_compactFields fields rest))).trans
        (skims_compactFields fields rest)

theorem skims_compactItems (items : List Json) (rest : List Char) :
    Skims (inList false (compactItems items ++ ']' :: rest)) (.next, [], rest) := by
  match items with
  | [] => exact skims_of_nextItem_none rfl
  | x :: items =>
    rw [compactItems_cons_append]
    exact (skims_of_item (nextItem_compactText_next x _)
      (skims_compactText x (endsNumber_compactItems items rest))).trans
        (skims_compactItems items rest)

theorem skims_compactFields (fields : List (String × Json)) (rest : List Char) :
    Skims (inObject false (compactFields fields ++ '\x7d' :: rest)) (.next, [], rest) := by
  match fields with
  | [] => exact skims_of_nextKey_none rfl
  | e :: fields =>
    rw [compactFields_cons_append]
    exact (skims_of_field (nextKey_comma (List.forall_mem_nil _) e.1 _) (colon_cons _)
      (skims_compactText e.2 (endsNumber_compactFields fields rest))).trans
        (skims_compactFields fields rest)

end

end ServiceCall.Json

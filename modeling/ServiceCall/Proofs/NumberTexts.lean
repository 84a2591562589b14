import Mathlib
import ServiceCall.Proofs.Doubles
import ServiceCall.Proofs.Layouts

/-!
# The texts of numbers

No two numbers are printed alike (`Number.text_injective`). An integer is printed in digits; a
double is printed with a point, or with an exponent, or with both, so the two kinds do not meet.
Among themselves the integers are told apart by their digits, and the doubles by the number that
their text denotes: that is the shortest decimal of the double, wherever its point stands, and the
shortest decimal belongs to one magnitude only.

## The number that a text denotes

`Number.denoted` reads a text without its sign as a rational number. It looks for the mark of an
exponent and for a point and takes everything else for digits, so it is defined on any text; only
what it yields on the texts of doubles matters.

## Signs

A sign is the first character or is not there at all, so it is compared before the rest. Zero has a
sign as well, and the two zeros are different doubles.
-/

namespace ServiceCall.Number

open Json (significandFrom)

/-! ## The number that a text denotes -/

/-- The number that digits denote, perhaps with a point among them. -/
def significand (mantissa : List Char) : ℚ :=
  significandFrom 0 (mantissa.filter (· ≠ '.')) / 10 ^ (mantissa.dropWhile (· ≠ '.')).tail.length

/-- The integer that a sign and digits denote. -/
def signedExponent : List Char → Int
  | [] => 0
  | sign :: ds => if sign = '-' then -significandFrom 0 ds else significandFrom 0 ds

/-- The number that a text without a sign denotes. -/
def denoted (text : List Char) : ℚ :=
  significand (text.takeWhile (· ≠ 'e')) * 10 ^ signedExponent (text.dropWhile (· ≠ 'e')).tail

/-! ## Digits -/

theorem significandFrom_append (n : Nat) (ds ds' : List Char) :
    significandFrom n (ds ++ ds') = significandFrom (significandFrom n ds) ds' :=
  List.foldl_append

theorem significandFrom_zeros (n k : Nat) :
    significandFrom n (List.replicate k '0') = n * 10 ^ k := by
  induction k generalizing n with
  | zero =>
    rw [List.replicate_zero, pow_zero, mul_one]
    rfl
  | succ k ih =>
    have hstep : significandFrom n (List.replicate (k + 1) '0')
        = significandFrom (n * 10) (List.replicate k '0') := rfl
    rw [hstep, ih, pow_succ]
    ring

theorem digits_ne_nil (n : Nat) : digits n ≠ [] := by
  obtain ⟨c, ds, hds, -⟩ := Json.exists_digits_eq_cons n
  rw [hds]
  exact List.cons_ne_nil c ds

theorem digits_injective : Function.Injective digits := by
  intro m n h
  rw [← Json.significandFrom_digits m, h, Json.significandFrom_digits]

section Digits

variable {ds ds' : List Char} (hds : ∀ c ∈ ds, c.isDigit = true)

include hds

theorem forall_ne_of_isDigit {mark : Char} (hmark : mark.isDigit = false) :
    ∀ c ∈ ds, decide (c ≠ mark) = true :=
  fun c hc ↦ decide_eq_true (Json.ne_of_isDigit (hds c hc) hmark)

theorem forall_isDigit_append (hds' : ∀ c ∈ ds', c.isDigit = true) :
    ∀ c ∈ ds ++ ds', c.isDigit = true :=
  fun c hc ↦ (List.mem_append.1 hc).elim (hds c) (hds' c)

theorem significand_digits : significand ds = significandFrom 0 ds := by
  have hne : ∀ c ∈ ds, decide (c ≠ '.') = true := forall_ne_of_isDigit hds rfl
  rw [significand, List.filter_eq_self.2 hne, List.dropWhile_eq_nil_iff.2 hne, List.tail_nil,
    List.length_nil, pow_zero, div_one]

theorem significand_point (hds' : ∀ c ∈ ds', c.isDigit = true) :
    significand (ds ++ '.' :: ds') = significandFrom 0 (ds ++ ds') / 10 ^ ds'.length := by
  have hne : ∀ c ∈ ds, decide (c ≠ '.') = true := forall_ne_of_isDigit hds rfl
  have hne' : ∀ c ∈ ds', decide (c ≠ '.') = true := forall_ne_of_isDigit hds' rfl
  rw [significand, List.filter_append, List.filter_cons_of_neg (by decide),
    List.filter_eq_self.2 hne, List.filter_eq_self.2 hne', List.dropWhile_append_of_pos hne,
    List.dropWhile_cons_of_neg (by decide), List.tail_cons]

end Digits

theorem forall_isDigit_digits (n : Nat) : ∀ c ∈ digits n, c.isDigit = true :=
  fun _ ↦ Json.isDigit_of_mem_digits

theorem forall_isDigit_zeros (k : Nat) : ∀ c ∈ List.replicate k '0', c.isDigit = true := by
  intro c hc
  rw [List.eq_of_mem_replicate hc]
  rfl

/-! ## Plain texts -/

theorem div_pow_eq_mul_zpow (q : ℚ) {k : Nat} {e : Int} (h : e = -(k : Int)) :
    q / 10 ^ k = q * 10 ^ e := by
  rw [h, zpow_neg, zpow_natCast, div_eq_mul_inv]

/-- Wherever the point stands, moving it behind the last digit gives the digits of the decimal. -/
theorem exists_plainText_eq (s : Decimal.Scaled) :
    ∃ whole fraction, plainText (digits s.digits) s.exponent (pointAfter s (digits s.digits))
        = whole ++ '.' :: fraction ∧
      (∀ c ∈ whole ++ fraction, c.isDigit = true) ∧
      (significandFrom 0 (whole ++ fraction) : ℚ) / 10 ^ fraction.length = s.value := by
  have hdigits := forall_isDigit_digits s.digits
  have hn : significandFrom 0 (digits s.digits) = s.digits := Json.significandFrom_digits s.digits
  rw [plainText, pointAfter, Decimal.Scaled.value]
  split
  · rename_i hexponent
    refine ⟨digits s.digits ++ List.replicate s.exponent.toNat '0', List.replicate 1 '0', rfl,
      ?_, ?_⟩
    · exact forall_isDigit_append
        (forall_isDigit_append hdigits (forall_isDigit_zeros _)) (forall_isDigit_zeros 1)
    · have hpow : (10 : ℚ) ^ s.exponent = 10 ^ s.exponent.toNat := by
        rw [← zpow_natCast, Int.toNat_of_nonneg hexponent]
      rw [significandFrom_append, significandFrom_append, hn, significandFrom_zeros,
        significandFrom_zeros, List.length_replicate, hpow]
      push_cast
      ring
  · split
    · refine ⟨_, _, rfl, ?_, ?_⟩
      · rwa [List.take_append_drop]
      · rw [List.take_append_drop, hn]
        refine div_pow_eq_mul_zpow _ ?_
        rw [List.length_drop]
        omega
    · refine ⟨List.replicate 1 '0',
        List.replicate (-((digits s.digits).length + s.exponent)).toNat '0' ++ digits s.digits,
        rfl, ?_, ?_⟩
      · exact forall_isDigit_append (forall_isDigit_zeros 1)
          (forall_isDigit_append (forall_isDigit_zeros _) hdigits)
      · rw [significandFrom_append, significandFrom_append, significandFrom_zeros,
          significandFrom_zeros, Nat.zero_mul, Nat.zero_mul, hn]
        refine div_pow_eq_mul_zpow _ ?_
        rw [List.length_append, List.length_replicate]
        omega

theorem denoted_plainText (s : Decimal.Scaled) :
    denoted (plainText (digits s.digits) s.exponent (pointAfter s (digits s.digits)))
      = s.value := by
  obtain ⟨whole, fraction, htext, hdigits, hvalue⟩ := exists_plainText_eq s
  have hwhole : ∀ c ∈ whole, c.isDigit = true := fun c hc ↦ hdigits c (List.mem_append_left _ hc)
  have hfraction : ∀ c ∈ fraction, c.isDigit = true :=
    fun c hc ↦ hdigits c (List.mem_append_right _ hc)
  have hmark : ∀ c ∈ whole ++ '.' :: fraction, decide (c ≠ 'e') = true := by
    intro c hc
    rcases List.mem_append.1 hc with hc | hc
    · exact forall_ne_of_isDigit hwhole rfl c hc
    · rcases List.mem_cons.1 hc with rfl | hc
      · rfl
      · exact forall_ne_of_isDigit hfraction rfl c hc
  rw [htext, denoted, List.takeWhile_eq_self_iff.2 hmark, List.dropWhile_eq_nil_iff.2 hmark,
    List.tail_nil, signedExponent, zpow_zero, mul_one, significand_point hwhole hfraction, hvalue]

/-! ## Texts with an exponent -/

theorem signedExponent_sign (e : Int) :
    signedExponent ((if e < 0 then '-' else '+') :: digits e.natAbs) = e := by
  rw [signedExponent, Json.significandFrom_digits]
  by_cases he : e < 0
  · rw [if_pos he, if_pos rfl]
    omega
  · rw [if_neg he, if_neg (by decide)]
    omega

theorem exists_exponentText_eq {ds : List Char} (hne : ds ≠ [])
    (hds : ∀ c ∈ ds, c.isDigit = true) (point : Int) :
    ∃ mantissa, exponentText ds point
        = mantissa ++ 'e' :: (if point - 1 < 0 then '-' else '+') :: digits (point - 1).natAbs ∧
      (∀ c ∈ mantissa, c.isDigit = true ∨ c = '.') ∧
      significand mantissa = significandFrom 0 ds / 10 ^ (ds.length - 1) := by
  match ds, hne with
  | [d], _ =>
    refine ⟨[d], rfl, fun c hc ↦ .inl (hds c hc), ?_⟩
    rw [significand_digits hds, List.length_singleton, Nat.sub_self, pow_zero, div_one]
  | d :: e :: rest, _ =>
    have hd : ∀ c ∈ [d], c.isDigit = true := by
      intro c hc
      rw [List.mem_singleton.1 hc]
      exact hds d List.mem_cons_self
    have hrest : ∀ c ∈ e :: rest, c.isDigit = true := fun c hc ↦ hds c (List.mem_cons_of_mem d hc)
    refine ⟨[d] ++ '.' :: (e :: rest), rfl, fun c hc ↦ ?_, significand_point hd hrest⟩
    rcases List.mem_append.1 hc with hc | hc
    · exact .inl (hd c hc)
    · rcases List.mem_cons.1 hc with rfl | hc
      · exact .inr rfl
      · exact .inl (hrest c hc)

theorem denoted_exponentText (s : Decimal.Scaled) :
    denoted (exponentText (digits s.digits) (pointAfter s (digits s.digits))) = s.value := by
  obtain ⟨mantissa, htext, hmantissa, hvalue⟩ :=
    exists_exponentText_eq (digits_ne_nil s.digits) (forall_isDigit_digits s.digits)
      (pointAfter s (digits s.digits))
  have hmark : ∀ c ∈ mantissa, decide (c ≠ 'e') = true := by
    intro c hc
    rcases hmantissa c hc with hdigit | rfl
    · exact decide_eq_true (Json.ne_of_isDigit hdigit rfl)
    · rfl
  have hpos : 0 < (digits s.digits).length := List.length_pos_iff.2 (digits_ne_nil s.digits)
  have hexponent :
      -(((digits s.digits).length - 1 : Nat) : Int) + (pointAfter s (digits s.digits) - 1)
        = s.exponent := by
    rw [pointAfter]
    omega
  rw [htext, denoted, List.takeWhile_append_of_pos hmark, List.dropWhile_append_of_pos hmark,
    List.takeWhile_cons_of_neg (by decide), List.dropWhile_cons_of_neg (by decide),
    List.append_nil, List.tail_cons, signedExponent_sign, hvalue, Json.significandFrom_digits,
    div_pow_eq_mul_zpow _ rfl, mul_assoc, ← zpow_add₀ (by norm_num), hexponent,
    Decimal.Scaled.value]

/-! ## Texts of doubles -/

/-- The text of a double without its sign. -/
def magnitudeText (x : Binary64) : List Char :=
  let s := Decimal.shortest x
  let point := pointAfter s (digits s.digits)
  if x.isZero then ['0', '.', '0']
  else if -5 < point && point ≤ 16 then plainText (digits s.digits) s.exponent point
  else exponentText (digits s.digits) point

theorem realText_eq (x : Binary64) :
    realText x = if x.negative then '-' :: magnitudeText x else magnitudeText x := rfl

/-- The character occurs in the text of some number. -/
def isNumeric (c : Char) : Bool := c.isDigit || c = '.' || c = 'e' || c = '+' || c = '-'

theorem isNumeric_of_isDigit {c : Char} (h : c.isDigit = true) : isNumeric c = true := by
  rw [isNumeric, h]
  rfl

/-- The text denotes the number, and a point or the mark of an exponent stands behind its first
digits. -/
structure IsMarked (text : List Char) (q : ℚ) : Prop where
  denoted_eq : denoted text = q
  parts : ∃ front mark back, text = front ++ mark :: back ∧ (mark = '.' ∨ mark = 'e') ∧
    (∀ c ∈ front, c.isDigit = true ∨ c = '.') ∧ ∀ c ∈ back, isNumeric c = true

theorem isMarked_plainText (s : Decimal.Scaled) :
    IsMarked (plainText (digits s.digits) s.exponent (pointAfter s (digits s.digits)))
      s.value where
  denoted_eq := denoted_plainText s
  parts := by
    obtain ⟨whole, fraction, htext, hdigits, -⟩ := exists_plainText_eq s
    refine ⟨whole, '.', fraction, htext, .inl rfl, fun c hc ↦ .inl ?_, fun c hc ↦ ?_⟩
    · exact hdigits c (List.mem_append_left _ hc)
    · exact isNumeric_of_isDigit (hdigits c (List.mem_append_right _ hc))

theorem isMarked_exponentText (s : Decimal.Scaled) :
    IsMarked (exponentText (digits s.digits) (pointAfter s (digits s.digits))) s.value where
  denoted_eq := denoted_exponentText s
  parts := by
    obtain ⟨mantissa, htext, hmantissa, -⟩ :=
      exists_exponentText_eq (digits_ne_nil s.digits) (forall_isDigit_digits s.digits)
        (pointAfter s (digits s.digits))
    refine ⟨mantissa, 'e', _, htext, .inr rfl, hmantissa, fun c hc ↦ ?_⟩
    rcases List.mem_cons.1 hc with rfl | hc
    · split <;> rfl
    · exact isNumeric_of_isDigit (Json.isDigit_of_mem_digits hc)

theorem isMarked_magnitudeText (x : Binary64) :
    IsMarked (magnitudeText x) (Decimal.shortest x).value := by
  rw [magnitudeText]
  split
  · rename_i hzero
    have htext : plainText (digits 0) 0 (pointAfter ⟨0, 0⟩ (digits 0)) = ['0', '.', '0'] := by
      rw [Json.digits_of_lt (by decide)]
      rfl
    rw [Decimal.shortest, if_pos hzero, ← htext]
    exact isMarked_plainText ⟨0, 0⟩
  · split
    · exact isMarked_plainText _
    · exact isMarked_exponentText _

theorem IsMarked.head?_ne {text : List Char} {q : ℚ} (h : IsMarked text q) :
    text.head? ≠ some '-' := by
  obtain ⟨front, mark, back, rfl, hmark, hfront, -⟩ := h.parts
  intro hhead
  cases front with
  | nil =>
    rcases hmark with rfl | rfl
    · cases hhead
    · cases hhead
  | cons c front =>
    rcases hfront c List.mem_cons_self with hdigit | rfl
    · exact Json.ne_of_isDigit hdigit rfl (Option.some.inj hhead)
    · cases hhead

theorem IsMarked.isNumeric_of_mem {text : List Char} {q : ℚ} (h : IsMarked text q) :
    ∀ c ∈ text, isNumeric c = true := by
  obtain ⟨front, mark, back, rfl, hmark, hfront, hback⟩ := h.parts
  intro c hc
  rcases List.mem_append.1 hc with hc | hc
  · rcases hfront c hc with hdigit | rfl
    · exact isNumeric_of_isDigit hdigit
    · rfl
  · rcases List.mem_cons.1 hc with rfl | hc
    · rcases hmark with rfl | rfl
      · rfl
      · rfl
    · exact hback c hc

theorem code_eq_of_magnitudeText_eq {x y : Binary64} (h : magnitudeText x = magnitudeText y) :
    x.code = y.code := by
  refine Decimal.code_eq_of_value_shortest_eq ?_
  rw [← (isMarked_magnitudeText x).denoted_eq, ← (isMarked_magnitudeText y).denoted_eq, h]

theorem head?_realText (x : Binary64) : (realText x).head? = some '-' ↔ x.negative = true := by
  rw [realText_eq]
  split
  · rename_i hnegative
    exact iff_of_true rfl hnegative
  · rename_i hnegative
    exact iff_of_false (isMarked_magnitudeText x).head?_ne hnegative

theorem realText_injective : Function.Injective realText := by
  intro x y h
  have hsign : x.negative = y.negative := by
    rw [Bool.eq_iff_iff, ← head?_realText, ← head?_realText, h]
  refine Binary64.eq_of_code_eq hsign (code_eq_of_magnitudeText_eq ?_)
  rw [realText_eq, realText_eq, hsign] at h
  split at h
  · exact (List.cons.inj h).2
  · exact h

theorem exists_mark_mem_realText (x : Binary64) : ∃ c ∈ realText x, c = '.' ∨ c = 'e' := by
  obtain ⟨front, mark, back, htext, hmark, -⟩ := (isMarked_magnitudeText x).parts
  have hmem : mark ∈ magnitudeText x := by
    rw [htext]
    exact List.mem_append_right _ List.mem_cons_self
  refine ⟨mark, ?_, hmark⟩
  rw [realText_eq]
  split
  · exact List.mem_cons_of_mem _ hmem
  · exact hmem

/-! ## Texts of integers -/

theorem isDigit_or_eq_of_mem_intText {i : Int} {c : Char} (h : c ∈ intText i) :
    c.isDigit = true ∨ c = '-' := by
  rw [intText] at h
  split at h
  · rcases List.mem_cons.1 h with rfl | h
    · exact .inr rfl
    · exact .inl (Json.isDigit_of_mem_digits h)
  · exact .inl (Json.isDigit_of_mem_digits h)

theorem head?_intText (i : Int) : (intText i).head? = some '-' ↔ i < 0 := by
  rw [intText]
  split
  · rename_i hnegative
    exact iff_of_true rfl hnegative
  · rename_i hnegative
    refine iff_of_false (fun hhead ↦ ?_) hnegative
    have hdigit := Json.isDigit_of_mem_digits (List.mem_of_mem_head? hhead)
    exact Json.ne_of_isDigit hdigit rfl rfl

theorem intText_injective : Function.Injective intText := by
  intro i j h
  have hsign : i < 0 ↔ j < 0 := by rw [← head?_intText, ← head?_intText, h]
  rw [intText, intText, if_congr hsign rfl rfl] at h
  split at h
  · have habs := digits_injective (List.cons.inj h).2
    omega
  · have habs := digits_injective h
    omega

theorem intText_ne_realText (i : Int) (x : Binary64) : intText i ≠ realText x := by
  intro h
  obtain ⟨c, hc, hmark⟩ := exists_mark_mem_realText x
  rw [← h] at hc
  have hint := isDigit_or_eq_of_mem_intText hc
  rcases hmark with rfl | rfl
  · exact absurd hint (by decide)
  · exact absurd hint (by decide)

/-! ## Texts of numbers -/

/-- Numbers with the same text are the same number. -/
theorem text_injective : Function.Injective text := by
  intro m n h
  cases m with
  | int i =>
    cases n with
    | int j => exact congrArg int (intText_injective h)
    | real y => exact absurd h (intText_ne_realText i y)
  | real x =>
    cases n with
    | int j => exact absurd h.symm (intText_ne_realText j x)
    | real y => exact congrArg real (realText_injective h)

theorem isNumeric_of_mem_text {n : Number} {c : Char} (h : c ∈ n.text) : isNumeric c = true := by
  cases n with
  | int i =>
    rcases isDigit_or_eq_of_mem_intText h with hdigit | rfl
    · exact isNumeric_of_isDigit hdigit
    · rfl
  | real x =>
    rw [text, realText_eq] at h
    split at h
    · rcases List.mem_cons.1 h with rfl | h
      · rfl
      · exact (isMarked_magnitudeText x).isNumeric_of_mem c h
    · exact (isMarked_magnitudeText x).isNumeric_of_mem c h

end ServiceCall.Number

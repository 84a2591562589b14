import Mathlib
import ServiceCall.Decimal.Shortest

/-!
# Which double a decimal stands for

The magnitudes of the doubles lie on the line in the order of their codes. Halfway between two
neighbours there is a border, and a number stands for the magnitude whose two borders enclose it; on
a border it stands for the one of even code. So every number stands for at most one magnitude
(`Binary64.Rounds.unique`).

The shortest decimal of a double stands for the magnitude of that double
(`Decimal.rounds_shortest`), and two doubles that share it have one code.

## Exactness

The definitions compute with quotients of naturals, as integers over a common denominator. Here they
are read as rational numbers, in which the powers of two and of ten have negative exponents as well,
and in which a number, a border and a decimal can be compared.

## Seventeen digits

The search for a shortest decimal stops after seventeen digits and would then fall back on another
number. It never does: one of the two points of the grid next to a number is at most half a step
away from it, and with seventeen digits this is less than the distance to either border
(`Decimal.Interval.exists_holds`). The closest call is just below a power of two, where the doubles
lie twice as close as above it.
-/

namespace ServiceCall

/-! ## Powers in two parts -/

theorem zpow_eq_pow_div_pow (b : ℚ) (e : Int) : b ^ e = b ^ e.toNat / b ^ (-e).toNat := by
  rcases le_total 0 e with he | he
  · have hneg : (-e).toNat = 0 := by omega
    have hpos : (e.toNat : Int) = e := Int.toNat_of_nonneg he
    rw [hneg, pow_zero, div_one, ← zpow_natCast, hpos]
  · have hpos : e.toNat = 0 := by omega
    have hneg : ((-e).toNat : Int) = -e := Int.toNat_of_nonneg (by omega)
    rw [hpos, pow_zero, one_div, ← zpow_natCast, hneg, zpow_neg, inv_inv]

/-! ## Magnitudes and the borders between them -/

namespace Binary64

theorem eq_of_code_eq {x y : Binary64} (hsign : x.negative = y.negative)
    (hcode : x.code = y.code) : x = y := by
  cases x
  cases y
  cases hsign
  cases hcode
  rfl

theorem leadingBit_eq : leadingBit = 4503599627370496 := rfl

theorem mantissaOf_of_lt {code : Nat} (h : code < leadingBit) : mantissaOf code = code := if_pos h

theorem mantissaOf_of_le {code : Nat} (h : leadingBit ≤ code) :
    mantissaOf code = code % leadingBit + leadingBit := if_neg (Nat.not_lt.2 h)

theorem exponentOf_of_lt {code : Nat} (h : code < leadingBit) : exponentOf code = -1074 := if_pos h

theorem exponentOf_of_le {code : Nat} (h : leadingBit ≤ code) :
    exponentOf code = (code / leadingBit : Nat) - 1075 := if_neg (Nat.not_lt.2 h)

theorem mantissaOf_lt (code : Nat) : mantissaOf code < 2 * leadingBit := by
  rcases Nat.lt_or_ge code leadingBit with h | h
  · rw [mantissaOf_of_lt h]
    omega
  · have hmod : code % leadingBit < leadingBit := Nat.mod_lt code (by decide)
    rw [mantissaOf_of_le h]
    omega

theorem mantissaOf_mod_two (code : Nat) : mantissaOf code % 2 = code % 2 := by
  rcases Nat.lt_or_ge code leadingBit with h | h
  · rw [mantissaOf_of_lt h]
  · rw [mantissaOf_of_le h, leadingBit_eq]
    omega

theorem mantissaOf_succ_pos (code : Nat) : 0 < mantissaOf (code + 1) := by
  rcases Nat.lt_or_ge (code + 1) leadingBit with h | h
  · rw [mantissaOf_of_lt h]
    omega
  · rw [mantissaOf_of_le h, leadingBit_eq]
    omega

/-- The distance to the border below, in quarters of the distance to the next magnitude above. -/
def lowGap (code : Nat) : Nat :=
  if mantissaOf code = leadingBit ∧ -1074 < exponentOf code then 1 else 2

theorem lowGap_le (code : Nat) : lowGap code ≤ 2 := by
  rw [lowGap]
  split <;> omega

/-- The next magnitude has the next mantissa under the same exponent, or the least one of all under
the next exponent. -/
theorem succ_cases (code : Nat) :
    (mantissaOf (code + 1) = mantissaOf code + 1 ∧ exponentOf (code + 1) = exponentOf code ∧
      lowGap (code + 1) = 2) ∨
    (mantissaOf code + 1 = 2 * leadingBit ∧ mantissaOf (code + 1) = leadingBit ∧
      exponentOf (code + 1) = exponentOf code + 1 ∧ lowGap (code + 1) = 1) := by
  rw [lowGap]
  rcases Nat.lt_or_ge code leadingBit with h | h
  · rw [mantissaOf_of_lt h, exponentOf_of_lt h]
    rcases Nat.lt_or_ge (code + 1) leadingBit with h' | h'
    · rw [mantissaOf_of_lt h', exponentOf_of_lt h', leadingBit_eq]
      split <;> omega
    · rw [mantissaOf_of_le h', exponentOf_of_le h']
      rw [leadingBit_eq] at *
      split <;> omega
  · have h' : leadingBit ≤ code + 1 := by omega
    rw [mantissaOf_of_le h, exponentOf_of_le h, mantissaOf_of_le h', exponentOf_of_le h']
    rw [leadingBit_eq] at *
    split <;> omega

/-- The magnitude with the given code. -/
def valueOf (code : Nat) : ℚ := mantissaOf code * 2 ^ exponentOf code

/-- The point halfway between a magnitude and the next one. -/
def border (code : Nat) : ℚ := valueOf code + 2 ^ exponentOf code / 2

theorem two_zpow_pos (e : Int) : (0 : ℚ) < 2 ^ e := zpow_pos (by norm_num) e

theorem valueOf_zero : valueOf 0 = 0 := by
  rw [valueOf, mantissaOf_of_lt (by decide), Nat.cast_zero, zero_mul]

theorem valueOf_succ (code : Nat) : valueOf (code + 1) = valueOf code + 2 ^ exponentOf code := by
  rcases succ_cases code with ⟨hm, he, -⟩ | ⟨hm, hm', he, -⟩
  · rw [valueOf, valueOf, hm, he]
    push_cast
    ring
  · have hlast : (mantissaOf code : ℚ) + 1 = 2 * leadingBit := by exact_mod_cast hm
    rw [valueOf, valueOf, hm', he, zpow_add_one₀ (by norm_num)]
    linear_combination (-(2 : ℚ) ^ exponentOf code) * hlast

theorem border_strictMono : StrictMono border := by
  refine strictMono_nat_of_lt_succ fun code ↦ ?_
  have hpos := two_zpow_pos (exponentOf code)
  have hpos' := two_zpow_pos (exponentOf (code + 1))
  rw [border, border, valueOf_succ]
  linarith

/-- The border seen from above. -/
theorem border_eq_sub (code : Nat) :
    border code = valueOf (code + 1) - lowGap (code + 1) * 2 ^ exponentOf (code + 1) / 4 := by
  rcases succ_cases code with ⟨-, he, hgap⟩ | ⟨-, -, he, hgap⟩
  · rw [border, valueOf_succ, hgap, he]
    push_cast
    ring
  · rw [border, valueOf_succ, hgap, he, zpow_add_one₀ (by norm_num)]
    push_cast
    ring

/-- The number lies between the two borders of the magnitude with the given code, and on one of them
only if the code is even. -/
structure Rounds (q : ℚ) (code : Nat) : Prop where
  above : ∀ lower, lower + 1 = code → border lower ≤ q
  below : q ≤ border code
  inside : code % 2 = 1 → q ≠ border code ∧ ∀ lower, lower + 1 = code → q ≠ border lower

theorem Rounds.not_lt {q : ℚ} {c d : Nat} (hc : Rounds q c) (hd : Rounds q d) : ¬ c < d := by
  intro hlt
  obtain ⟨lower, rfl⟩ := Nat.exists_eq_add_one.2 (Nat.zero_lt_of_lt hlt)
  have hle : border c ≤ border lower := border_strictMono.monotone (Nat.le_of_lt_succ hlt)
  have habove := hd.above lower rfl
  -- The number is squeezed onto a single border, whose two neighbours are not both even.
  have hborder : border c = border lower := le_antisymm hle (habove.trans hc.below)
  obtain rfl : c = lower := border_strictMono.injective hborder
  have hq : q = border c := le_antisymm hc.below habove
  rcases Nat.mod_two_eq_zero_or_one c with heven | hodd
  · exact (hd.inside (by omega)).2 c rfl hq
  · exact (hc.inside hodd).1 hq

theorem Rounds.unique {q : ℚ} {c d : Nat} (hc : Rounds q c) (hd : Rounds q d) : c = d :=
  Nat.le_antisymm (Nat.not_lt.1 (hd.not_lt hc)) (Nat.not_lt.1 (hc.not_lt hd))

end Binary64

namespace Decimal

open Binary64

/-- The number that digits and exponent denote. -/
def Scaled.value (s : Scaled) : ℚ := s.digits * 10 ^ s.exponent

/-! ## The interval of a double -/

namespace Interval

section Of

variable (x : Binary64)

theorem denominator_pos : (0 : ℚ) < (Interval.of x).denominator := by
  change (0 : ℚ) < ((4 * 2 ^ (-x.exponent).toNat : Nat) : ℚ)
  positivity

theorem over_denominator (n : Nat) :
    ((n * Nat.pow 2 x.exponent.toNat : Nat) : ℚ) / (Interval.of x).denominator
      = n * 2 ^ x.exponent / 4 := by
  have hden : (Interval.of x).denominator = 4 * Nat.pow 2 (-x.exponent).toNat := rfl
  have hne : ((2 ^ (-x.exponent).toNat : Nat) : ℚ) ≠ 0 := by positivity
  rw [hden, zpow_eq_pow_div_pow, Nat.pow_eq, Nat.pow_eq]
  push_cast at hne ⊢
  field_simp

theorem value_div : ((Interval.of x).value : ℚ) / (Interval.of x).denominator = valueOf x.code := by
  have hvalue : (Interval.of x).value = 4 * x.mantissa * Nat.pow 2 x.exponent.toNat := rfl
  rw [hvalue, over_denominator, valueOf]
  push_cast
  rw [mantissa, exponent]
  ring

theorem high_div : ((Interval.of x).high : ℚ) / (Interval.of x).denominator = border x.code := by
  have hhigh : (Interval.of x).high = (4 * x.mantissa + 2) * Nat.pow 2 x.exponent.toNat := rfl
  rw [hhigh, over_denominator, border, valueOf]
  push_cast
  rw [mantissa, exponent]
  ring

theorem low_div {lower : Nat} (h : lower + 1 = x.code) :
    ((Interval.of x).low : ℚ) / (Interval.of x).denominator = border lower := by
  have hlow : (Interval.of x).low = (4 * x.mantissa - lowGap x.code) * Nat.pow 2 x.exponent.toNat :=
    rfl
  have hle : lowGap x.code ≤ 4 * x.mantissa := by
    have hpos := mantissaOf_succ_pos lower
    have hgap := lowGap_le x.code
    rw [h] at hpos
    rw [mantissa]
    omega
  rw [hlow, over_denominator, border_eq_sub, h, valueOf, Nat.cast_sub hle]
  push_cast
  rw [mantissa, exponent]
  ring

end Of

section Holds

variable {i : Interval} (hden : (0 : ℚ) < i.denominator)

include hden

theorem mul_le_iff (n : Nat) (s : Scaled) :
    n * Nat.pow 10 (-s.exponent).toNat ≤ s.digits * Nat.pow 10 s.exponent.toNat * i.denominator ↔
      (n : ℚ) / i.denominator ≤ s.value := by
  have hpow : (0 : ℚ) < 10 ^ (-s.exponent).toNat := by positivity
  rw [Nat.pow_eq, Nat.pow_eq, Scaled.value, zpow_eq_pow_div_pow, mul_div_assoc',
    div_le_div_iff₀ hden hpow, ← Nat.cast_le (α := ℚ)]
  push_cast
  rfl

theorem le_mul_iff (n : Nat) (s : Scaled) :
    s.digits * Nat.pow 10 s.exponent.toNat * i.denominator ≤ n * Nat.pow 10 (-s.exponent).toNat ↔
      s.value ≤ (n : ℚ) / i.denominator := by
  have hpow : (0 : ℚ) < 10 ^ (-s.exponent).toNat := by positivity
  rw [Nat.pow_eq, Nat.pow_eq, Scaled.value, zpow_eq_pow_div_pow, mul_div_assoc',
    div_le_div_iff₀ hpow hden, ← Nat.cast_le (α := ℚ)]
  push_cast
  rfl

theorem holds_iff (s : Scaled) :
    i.holds s = true ↔
      if i.closed then
        (i.low : ℚ) / i.denominator ≤ s.value ∧ s.value ≤ (i.high : ℚ) / i.denominator
      else (i.low : ℚ) / i.denominator < s.value ∧ s.value < (i.high : ℚ) / i.denominator := by
  rw [Interval.holds]
  split
  · rw [Bool.and_eq_true, decide_eq_true_eq, decide_eq_true_eq, mul_le_iff hden, le_mul_iff hden]
  · rw [Bool.and_eq_true, decide_eq_true_eq, decide_eq_true_eq, ← not_le, ← not_le,
      mul_le_iff hden, le_mul_iff hden, not_le, not_le]

theorem holds_of_lt {s : Scaled} (hlow : (i.low : ℚ) / i.denominator < s.value)
    (hhigh : s.value < (i.high : ℚ) / i.denominator) : i.holds s = true := by
  rw [holds_iff hden]
  split
  · exact ⟨hlow.le, hhigh.le⟩
  · exact ⟨hlow, hhigh⟩

end Holds

theorem rounds_of_holds {x : Binary64} {s : Scaled} (h : (Interval.of x).holds s = true) :
    Rounds s.value x.code := by
  have hclosed : (Interval.of x).closed = decide (x.code % 2 = 0) := by
    rw [← mantissaOf_mod_two]
    rfl
  rw [holds_iff (denominator_pos x), hclosed, high_div] at h
  rcases Nat.mod_two_eq_zero_or_one x.code with heven | hodd
  · rw [decide_eq_true heven, if_pos rfl] at h
    refine ⟨fun lower hlower ↦ ?_, h.2, fun hodd ↦ by omega⟩
    rw [← low_div x hlower]
    exact h.1
  · rw [decide_eq_false (by omega), if_neg Bool.false_ne_true] at h
    refine ⟨fun lower hlower ↦ ?_, h.2.le, fun _ ↦ ⟨h.2.ne, fun lower hlower ↦ ?_⟩⟩
    · rw [← low_div x hlower]
      exact h.1.le
    · rw [← low_div x hlower]
      exact h.1.ne'

end Interval

/-! ## The size of a number -/

theorem digitCount_pos {n : Nat} (h : n ≠ 0) : 0 < digitCount n := by
  rw [digitCount, if_neg h]
  exact Nat.succ_pos _

theorem lt_pow_digitCount (n : Nat) : n < 10 ^ digitCount n := by
  induction n using digitCount.induct with
  | case1 =>
    rw [digitCount, if_pos rfl]
    norm_num
  | case2 n hne ih =>
    rw [digitCount, if_neg hne, pow_succ]
    omega

theorem pow_digitCount_le {n : Nat} (h : n ≠ 0) : 10 ^ (digitCount n - 1) ≤ n := by
  induction n using digitCount.induct with
  | case1 => exact absurd rfl h
  | case2 n hne ih =>
    rw [digitCount, if_neg hne, Nat.add_sub_cancel]
    by_cases hten : n / 10 = 0
    · rw [hten, digitCount, if_pos rfl, pow_zero]
      omega
    · have hpow : 10 ^ digitCount (n / 10) = 10 ^ (digitCount (n / 10) - 1) * 10 := by
        rw [← pow_succ, Nat.sub_add_cancel (digitCount_pos hten)]
      have hle := ih hten
      omega

theorem zpow_decimalPoint_le {num den : Nat} (hnum : 0 < num) (hden : 0 < den) :
    (10 : ℚ) ^ (decimalPoint num den - 1) ≤ num / den := by
  rw [decimalPoint]
  split
  · rename_i hle
    have hne : num / den ≠ 0 := Nat.ne_of_gt (Nat.div_pos hle hden)
    have hpow : (10 : ℚ) ^ ((digitCount (num / den) : Int) - 1)
        = (10 ^ (digitCount (num / den) - 1) : Nat) := by
      rw [← Nat.cast_one, ← Nat.cast_sub (digitCount_pos hne), zpow_natCast]
      push_cast
      rfl
    have hfloor : ((num / den : Nat) : ℚ) ≤ num / den := Nat.cast_div_le
    refine le_trans ?_ hfloor
    rw [hpow]
    exact_mod_cast pow_digitCount_le hne
  · have hden' : (0 : ℚ) < den := by exact_mod_cast hden
    have hmul : den ≤ num * 10 ^ digitCount (den / num) :=
      (Nat.lt_mul_of_div_lt (lt_pow_digitCount _) hnum).le.trans_eq (Nat.mul_comm ..)
    have hsub : (1 - (digitCount (den / num) : Int) - 1) = -(digitCount (den / num) : Int) := by
      omega
    rw [hsub, zpow_neg, zpow_natCast, inv_le_iff_one_le_mul₀ (by positivity), div_mul_eq_mul_div,
      le_div_iff₀ hden', one_mul]
    exact_mod_cast hmul

/-! ## The search -/

namespace Interval

/-- One of the points around the value is at most half a step of the grid away from it. -/
theorem exists_mem_around {i : Interval} (hden : (0 : ℚ) < i.denominator) (e : Int) :
    ∃ s ∈ i.around e, |s.value - (i.value : ℚ) / i.denominator| ≤ 10 ^ e / 2 := by
  set num := i.value * Nat.pow 10 (-e).toNat with hnum
  set den := i.denominator * Nat.pow 10 e.toNat with hdeneq
  have hpow : (0 : ℚ) < 10 ^ e := zpow_pos (by norm_num) e
  have hmem (s : Scaled) : s ∈ i.around e ↔ s = ⟨num / den, e⟩ ∨ s = ⟨num / den + 1, e⟩ := by
    rw [around]
    simp only [← hnum, ← hdeneq]
    split
    · simp
    · simp [or_comm]
  have hquotient : (i.value : ℚ) / i.denominator = num / den * 10 ^ e := by
    rw [hnum, hdeneq, Nat.pow_eq, Nat.pow_eq, zpow_eq_pow_div_pow 10 e]
    push_cast
    field_simp
  have hfloor : ((num / den : Nat) : ℚ) ≤ num / den := Nat.cast_div_le
  have hceil : (num : ℚ) / den < (num / den : Nat) + 1 := by
    rw [← Nat.floor_div_eq_div (K := ℚ)]
    exact Nat.lt_floor_add_one _
  rcases le_total ((num : ℚ) / den - (num / den : Nat)) (1 / 2) with hnear | hfar
  · refine ⟨_, (hmem _).2 (.inl rfl), ?_⟩
    rw [Scaled.value, hquotient, ← sub_mul, abs_mul, abs_of_pos hpow, abs_of_nonpos (by linarith)]
    nlinarith
  · refine ⟨_, (hmem _).2 (.inr rfl), ?_⟩
    rw [Scaled.value, hquotient, ← sub_mul, abs_mul, abs_of_pos hpow]
    push_cast
    rw [abs_of_nonneg (by linarith)]
    nlinarith

theorem exists_search_eq_some {i : Interval} {point : Int} {tries count k : Nat} (hk : count ≤ k)
    (hlt : k < count + tries) (h : ∃ s ∈ i.around (point - k), i.holds s = true) :
    ∃ s, i.search point tries count = some s := by
  induction tries generalizing count with
  | zero => omega
  | succ tries ih =>
    rw [search]
    split
    · exact ⟨_, rfl⟩
    · rename_i hnone
      refine ih ?_ (by omega)
      -- At the count itself the search would have ended.
      by_contra hstart
      obtain rfl : k = count := by omega
      obtain ⟨s, hs, hholds⟩ := h
      exact absurd hholds (List.find?_eq_none.1 hnone s hs)

/-- A step of the grid of seventeen digits is less than twice the distance to the lower border. -/
theorem two_mul_mantissaOf_lt (code : Nat) : 2 * mantissaOf code < lowGap code * 10 ^ 16 := by
  have hlt := mantissaOf_lt code
  rw [lowGap]
  rw [leadingBit_eq] at *
  split <;> omega

theorem exists_holds {x : Binary64} {lower : Nat} (h : lower + 1 = x.code) :
    ∃ s ∈ (Interval.of x).around
        (decimalPoint (Interval.of x).value (Interval.of x).denominator - 17),
      (Interval.of x).holds s = true := by
  set i := Interval.of x with hi
  have hden : (0 : ℚ) < i.denominator := denominator_pos x
  have hvalue : (i.value : ℚ) / i.denominator = valueOf x.code := value_div x
  have hpos : 0 < i.value := by
    have hmantissa : 0 < x.mantissa := by
      have hsucc := mantissaOf_succ_pos lower
      rwa [h] at hsucc
    change 0 < 4 * x.mantissa * 2 ^ x.exponent.toNat
    positivity
  obtain ⟨s, hs, hnear⟩ := exists_mem_around hden (decimalPoint i.value i.denominator - 17)
  refine ⟨s, hs, ?_⟩
  set step : ℚ := 10 ^ (decimalPoint i.value i.denominator - 17) with hstep
  have hhalf : step / 2 < lowGap x.code * 2 ^ exponentOf x.code / 4 := by
    have hpoint := zpow_decimalPoint_le hpos (by exact_mod_cast hden)
    have hten : (10 : ℚ) ^ (decimalPoint i.value i.denominator - 1) = step * 10 ^ 16 := by
      rw [hstep, ← zpow_natCast, ← zpow_add₀ (by norm_num)]
      congr 1
      push_cast
      ring
    have hgap : (2 * mantissaOf x.code : ℚ) < lowGap x.code * 10 ^ 16 := by
      exact_mod_cast two_mul_mantissaOf_lt x.code
    rw [hten, hvalue, valueOf] at hpoint
    nlinarith [two_zpow_pos (exponentOf x.code)]
  have hgap : (lowGap x.code : ℚ) ≤ 2 := by exact_mod_cast lowGap_le x.code
  have hborder := border_eq_sub lower
  rw [h] at hborder
  rw [hvalue] at hnear
  obtain ⟨hlow, hhigh⟩ := abs_le.1 hnear
  refine holds_of_lt hden ?_ ?_
  · rw [hi, low_div x h, hborder]
    linarith
  · rw [hi, high_div, border]
    nlinarith [two_zpow_pos (exponentOf x.code)]

end Interval

/-! ## Shortest decimals -/

theorem value_normalize (s : Scaled) : s.normalize.value = s.value := by
  induction s using Scaled.normalize.induct with
  | case1 s hzero =>
    rw [Scaled.normalize, dif_pos hzero, Scaled.value, Scaled.value, hzero]
    simp
  | case2 s hzero hten ih =>
    have hdigits : (s.digits : ℚ) = 10 * (s.digits / 10 : Nat) := by
      have hdiv := Nat.div_add_mod s.digits 10
      exact_mod_cast (by omega : s.digits = 10 * (s.digits / 10))
    rw [Scaled.normalize, dif_neg hzero, if_pos hten, ih, Scaled.value, Scaled.value, hdigits,
      zpow_add_one₀ (by norm_num)]
    ring
  | case3 s hzero hten => rw [Scaled.normalize, dif_neg hzero, if_neg hten]

/-- The decimal of a double stands for that double. -/
theorem rounds_shortest (x : Binary64) : Rounds (shortest x).value x.code := by
  by_cases hzero : x.code = 0
  · have hisZero : x.isZero = true := decide_eq_true hzero
    have hvalue : (shortest x).value = 0 := by
      rw [shortest, if_pos hisZero, Scaled.value, Nat.cast_zero, zero_mul]
    rw [hvalue, hzero]
    refine ⟨fun lower hlower ↦ by omega, ?_, fun hodd ↦ by omega⟩
    rw [border, valueOf_zero]
    linarith [two_zpow_pos (exponentOf 0)]
  · obtain ⟨lower, hlower⟩ := Nat.exists_eq_add_one.2 (Nat.pos_of_ne_zero hzero)
    have hnonzero : ¬ x.isZero = true := fun hx ↦ hzero (of_decide_eq_true hx)
    obtain ⟨s, hs⟩ := Interval.exists_search_eq_some (by decide : 1 ≤ 17) (by decide : 17 < 1 + 17)
      (Interval.exists_holds hlower.symm)
    have hvalue : (shortest x).value = s.value := by
      rw [shortest, if_neg hnonzero]
      simp only [hs, Option.getD_some, value_normalize]
    rw [hvalue]
    exact Interval.rounds_of_holds (Interval.holds_of_search hs)

theorem code_eq_of_value_shortest_eq {x y : Binary64}
    (h : (shortest x).value = (shortest y).value) : x.code = y.code := by
  have hx := rounds_shortest x
  rw [h] at hx
  exact hx.unique (rounds_shortest y)

end Decimal

end ServiceCall

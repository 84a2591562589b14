/-!
# Finite doubles

Numbers of the binary64 format without the infinities and the not-a-numbers, which no JSON text can
denote. The magnitude is its code, the integer that the exponent and fraction fields form together.
Codes are in the order of the numbers they stand for, rounding up across a power of two is adding
one to the code, and a code past the last finite one is exactly an overflow; so one bound on the
code is the only invariant.

All arithmetic is exact arithmetic on naturals followed by one rounding to nearest, ties to even.
-/

namespace ServiceCall

/-- The bit that a mantissa has in front of the stored fraction. -/
def Binary64.leadingBit : Nat := Nat.pow 2 52

/-- The number of codes of finite magnitudes. -/
def Binary64.codes : Nat := 2047 * Binary64.leadingBit

/-- A finite double. Zero has a sign. -/
structure Binary64 where
  negative : Bool
  code : Nat
  finite : code < Binary64.codes
  deriving DecidableEq, Repr

namespace Binary64

/-! ## Magnitudes as mantissa and exponent -/

def mantissaOf (code : Nat) : Nat :=
  if code < leadingBit then code else code % leadingBit + leadingBit

def exponentOf (code : Nat) : Int :=
  if code < leadingBit then -1074 else (code / leadingBit : Nat) - 1075

/-- The magnitude is `mantissa x * 2 ^ exponent x`. -/
def mantissa (x : Binary64) : Nat := mantissaOf x.code

def exponent (x : Binary64) : Int := exponentOf x.code

def isZero (x : Binary64) : Bool := x.code = 0

/-- The magnitude as a quotient of naturals. -/
def ratio (x : Binary64) : Nat × Nat :=
  (x.mantissa * Nat.pow 2 x.exponent.toNat, Nat.pow 2 (-x.exponent).toNat)

/-! ## Rounding -/

/-- The natural nearest to `num / den`; of two equally near ones, the even one. -/
def nearest (num den : Nat) : Nat :=
  let floor := num / den
  let rest := num % den
  if 2 * rest < den then floor
  else if den < 2 * rest then floor + 1
  else floor + floor % 2

/-- No natural is nearer to the quotient than half a unit. -/
theorem nearest_within_half {num den : Nat} (h : 0 < den) :
    2 * (nearest num den * den) ≤ 2 * num + den ∧ 2 * num ≤ 2 * (nearest num den * den) + den := by
  have hdiv := Nat.div_add_mod num den
  have hmod := Nat.mod_lt num h
  have hbit : num / den % 2 = 0 ∨ num / den % 2 = 1 := by omega
  simp only [nearest]
  generalize num / den = q at *
  generalize num % den = r at *
  have hq : q * den = den * q := Nat.mul_comm ..
  split
  · omega
  · split
    · rw [Nat.add_mul]
      omega
    · rcases hbit with hb | hb <;> rw [hb, Nat.add_mul] <;> omega

/-- The exponent at which `num / den` has a mantissa of fifty-three bits, or the least exponent. -/
def exponentFor (num den : Nat) : Int :=
  let low : Int := (num.log2 : Int) - den.log2 - 53
  let fits := num * Nat.pow 2 (-(low + 53)).toNat < den * Nat.pow 2 (low + 53).toNat
  max (if fits then low else low + 1) (-1074)

/-- The code of the magnitude nearest to `num / den`; it may lie past the finite ones. -/
def codeOf (num den : Nat) : Nat :=
  if num = 0 then 0
  else
    let e := exponentFor num den
    let m := nearest (num * Nat.pow 2 (-e).toNat) (den * Nat.pow 2 e.toNat)
    (e + 1074).toNat * leadingBit + m

/-- The double nearest to `num / den`, if that is finite. -/
def ofRatio? (negative : Bool) (num den : Nat) : Option Binary64 :=
  if h : codeOf num den < codes then some ⟨negative, codeOf num den, h⟩ else none

/-! ## Reading decimals

A number written with a fraction or an exponent is read in two roundings: its digits to a double,
and that double times or divided by a power of ten, itself a double. The result may differ from the
nearest double in the last place. -/

def times? (x y : Binary64) : Option Binary64 :=
  ofRatio? (x.negative != y.negative) (x.ratio.1 * y.ratio.1) (x.ratio.2 * y.ratio.2)

def over? (x y : Binary64) : Option Binary64 :=
  ofRatio? (x.negative != y.negative) (x.ratio.1 * y.ratio.2) (x.ratio.2 * y.ratio.1)

/-- Ten to the given power, the last finite one being the power 308. -/
def tenTo? (n : Nat) : Option Binary64 := ofRatio? false (Nat.pow 10 n) 1

/-- Divides by ten to the power `n`, in portions that are doubles. -/
def dividedByTenTo? (x : Binary64) (n : Nat) : Option Binary64 :=
  if n ≤ 308 then (tenTo? n).bind (x.over? ·)
  else if x.isZero then some x
  else ((tenTo? 308).bind (x.over? ·)).bind (dividedByTenTo? · (n - 308))
termination_by n

/-- Reads `significand * 10 ^ exponent`; `none` stands for an overflow. -/
def ofDecimal? (negative : Bool) (significand : Nat) (exponent : Int) : Option Binary64 := do
  let x ← ofRatio? negative significand 1
  if exponent < 0 then x.dividedByTenTo? (-exponent).toNat
  else if exponent ≤ 308 then x.times? (← tenTo? exponent.toNat)
  else if x.isZero then some x
  else none

def zero (negative : Bool) : Binary64 := ⟨negative, 0, by decide⟩

/-! ## Examples at the edges of the format -/

example : (ofRatio? false 1 1).map (fun x ↦ (x.mantissa, x.exponent)) =
    some (leadingBit, -52) := by decide +kernel
example : (ofDecimal? false 5 (-324)).map (·.code) = some 1 := by decide +kernel
example : (ofDecimal? false 1 309).isNone = true := by decide +kernel
example : (ofDecimal? true 0 999999).map (·.code) = some 0 := by decide +kernel
example : (ofRatio? false (2 * leadingBit + 1) 1).map (·.ratio) =
    some (2 * leadingBit, 1) := by decide +kernel

end Binary64

end ServiceCall

import ServiceCall.Decimal.Binary64

/-!
# Shortest decimals

The decimal with the fewest digits that reads back as a given double, and among those the one
nearest to it. A decimal reads back when it lies between the midpoints to the neighbouring doubles;
the midpoints themselves count when the mantissa is even, for ties go to the even neighbour.

The search tries one digit, two digits, and so on. On the grid of decimals with a given number of
digits only the two points around the number can lie nearest to it, so only those are tried.
-/

namespace ServiceCall.Decimal

/-- The number `digits * 10 ^ exponent`. -/
structure Scaled where
  digits : Nat
  exponent : Int
  deriving DecidableEq, Repr

/-- The number of decimal digits of a positive number; zero has none. -/
def digitCount (n : Nat) : Nat := if n = 0 then 0 else digitCount (n / 10) + 1

/-- The `p` with `10 ^ (p - 1) ≤ num / den < 10 ^ p`. -/
def decimalPoint (num den : Nat) : Int :=
  if den ≤ num then digitCount (num / den) else 1 - (digitCount (den / num) : Int)

/-- Four times a magnitude and four times its two midpoints, all over one denominator. -/
structure Interval where
  low : Nat
  value : Nat
  high : Nat
  denominator : Nat
  closed : Bool

def Interval.of (x : Binary64) : Interval :=
  let m := x.mantissa
  let q := x.exponent
  -- below a power of two the doubles lie twice as close as above it
  let lowGap := if m = Binary64.leadingBit ∧ -1074 < q then 1 else 2
  let up := Nat.pow 2 q.toNat
  { low := (4 * m - lowGap) * up
    value := 4 * m * up
    high := (4 * m + 2) * up
    denominator := 4 * Nat.pow 2 (-q).toNat
    closed := m % 2 = 0 }

/-- Whether `digits * 10 ^ exponent` lies in the interval. -/
def Interval.holds (i : Interval) (s : Scaled) : Bool :=
  let point := s.digits * Nat.pow 10 s.exponent.toNat * i.denominator
  let unit := Nat.pow 10 (-s.exponent).toNat
  if i.closed then i.low * unit ≤ point && point ≤ i.high * unit
  else i.low * unit < point && point < i.high * unit

/-- The points of the grid `10 ^ exponent` on both sides of the value, the nearer one first. -/
def Interval.around (i : Interval) (exponent : Int) : List Scaled :=
  let num := i.value * Nat.pow 10 (-exponent).toNat
  let den := i.denominator * Nat.pow 10 exponent.toNat
  let floor := num / den
  let below : Scaled := ⟨floor, exponent⟩
  let above : Scaled := ⟨floor + 1, exponent⟩
  let rest := num % den
  if 2 * rest < den ∨ (2 * rest = den ∧ floor % 2 = 0) then [below, above] else [above, below]

/-- Tries grids from `count` digits on, `tries` of them. -/
def Interval.search (i : Interval) (point : Int) : (tries count : Nat) → Option Scaled
  | 0, _ => none
  | tries + 1, count =>
    match (i.around (point - count)).find? i.holds with
    | some s => some s
    | none => i.search point tries (count + 1)

/-- Without the zeros at the end of the digits. -/
def Scaled.normalize (s : Scaled) : Scaled :=
  if h : s.digits = 0 then ⟨0, 0⟩
  else if s.digits % 10 = 0 then normalize ⟨s.digits / 10, s.exponent + 1⟩
  else s
termination_by s.digits
decreasing_by exact Nat.div_lt_self (Nat.pos_of_ne_zero h) (by decide)

/-- The shortest decimal of a magnitude; seventeen digits are always enough. -/
def shortest (x : Binary64) : Scaled :=
  if x.isZero then ⟨0, 0⟩
  else
    let i := Interval.of x
    ((i.search (decimalPoint i.value i.denominator) 17 1).getD ⟨x.mantissa, 0⟩).normalize

theorem Interval.holds_of_search {i : Interval} {point : Int} {tries count : Nat} {s : Scaled}
    (h : i.search point tries count = some s) : i.holds s = true := by
  induction tries generalizing count with
  | zero => simp [search] at h
  | succ n ih =>
    simp only [search] at h
    split at h
    · rename_i t ht
      cases h
      exact List.find?_some ht
    · exact ih h

example : (Binary64.ofDecimal? false 5 (-324)).map shortest = some ⟨5, -324⟩ := by decide +kernel
example : (Binary64.ofDecimal? false 3 (-1)).map shortest = some ⟨3, -1⟩ := by decide +kernel
example : (Binary64.ofRatio? false 9007199254740992 1).map shortest =
    some ⟨9007199254740992, 0⟩ := by decide +kernel

end ServiceCall.Decimal

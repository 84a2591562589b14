import ServiceCall.Decimal.Shortest

/-!
# Numbers of JSON texts

An integer that fits sixty-four bits, signed or unsigned, is kept exactly; every other number is a
double. The two kinds stay apart in the text: a double always shows a point or an exponent.
-/

namespace ServiceCall

inductive Number where
  | int (value : Int)
  | real (value : Binary64)
  deriving DecidableEq

namespace Number

def decimalDigit (n : Nat) : Char := Char.ofNat (48 + n % 10)

/-- Decimal digits, the least number of them; zero has one. -/
def digits (n : Nat) : List Char :=
  if n < 10 then [decimalDigit n] else digits (n / 10) ++ [decimalDigit n]

def intText (i : Int) : List Char := if i < 0 then '-' :: digits i.natAbs else digits i.natAbs

/-! ## The text of a double

Shortest digits. From 0.00001 up to ten thousand million millions the point is written at its place,
with a zero on the side that has no digit; outside that range one digit stands before the point, and
the exponent has a sign. -/

/-- The decimal point stands after this many digits. -/
def pointAfter (s : Decimal.Scaled) (ds : List Char) : Int := ds.length + s.exponent

def plainText (ds : List Char) (exponent point : Int) : List Char :=
  if 0 ≤ exponent then ds ++ List.replicate exponent.toNat '0' ++ ['.', '0']
  else if 0 < point then ds.take point.toNat ++ '.' :: ds.drop point.toNat
  else '0' :: '.' :: List.replicate (-point).toNat '0' ++ ds

def exponentText (ds : List Char) (point : Int) : List Char :=
  let mantissa := match ds with
    | d :: e :: rest => d :: '.' :: e :: rest
    | short => short
  mantissa ++ 'e' :: (if point - 1 < 0 then '-' else '+') :: digits (point - 1).natAbs

def realText (x : Binary64) : List Char :=
  let s := Decimal.shortest x
  let ds := digits s.digits
  let point := pointAfter s ds
  let body :=
    if x.isZero then ['0', '.', '0']
    else if -5 < point && point ≤ 16 then plainText ds s.exponent point
    else exponentText ds point
  if x.negative then '-' :: body else body

/-- The text of a number, in JSON texts and wherever a number stands for an identifier. -/
def text : Number → List Char
  | int i => intText i
  | real x => realText x

def isZero : Number → Bool
  | int i => i = 0
  | real x => x.isZero

example : (Binary64.ofDecimal? false 1 15).map realText = some "1000000000000000.0".toList := by
  decide +kernel
example : (Binary64.ofDecimal? false 1 16).map realText = some "1e+16".toList := by decide +kernel
example : (Binary64.ofDecimal? true 25 (-1)).map realText = some "-2.5".toList := by decide +kernel
example : (Binary64.ofDecimal? false 1 (-5)).map realText = some "0.00001".toList := by
  decide +kernel
example : (Binary64.ofDecimal? false 125 (-8)).map realText = some "1.25e-6".toList := by
  decide +kernel

end Number

end ServiceCall

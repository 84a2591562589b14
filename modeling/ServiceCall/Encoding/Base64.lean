import ServiceCall.Encoding.Utf8

/-!
# Base64

Three bytes as four characters, in the two usual alphabets: the standard one, whose last group is
filled up with equals signs, and the one that is safe in addresses, which is left short. Decoding
accepts exactly what encoding writes: the bits that a short group does not use must be zero, and the
filling must be there, or not be there, as the alphabet asks.
-/

namespace ServiceCall.Encoding

/-- The last two digits and the filling of short groups. -/
inductive Base64 where
  | standard
  | urlSafe
  deriving DecidableEq

namespace Base64

def digit (a : Base64) (n : Nat) : Char :=
  if n < 26 then Char.ofNat (65 + n)
  else if n < 52 then Char.ofNat (71 + n)
  else if n < 62 then Char.ofNat (n - 4)
  else if n = 62 then (match a with | standard => '+' | urlSafe => '-')
  else (match a with | standard => '/' | urlSafe => '_')

def value? (a : Base64) (c : Char) : Option Nat :=
  if c.isUpper then some (c.toNat - 65)
  else if c.isLower then some (c.toNat - 71)
  else if c.isDigit then some (c.toNat + 4)
  else if c = digit a 62 then some 62
  else if c = digit a 63 then some 63
  else none

def filling : Base64 → Nat → List Char
  | standard, n => List.replicate n '='
  | urlSafe, _ => []

def encode (a : Base64) : Bytes → List Char
  | x :: y :: z :: rest =>
    let n := x.toNat * 65536 + y.toNat * 256 + z.toNat
    digit a (n / 262144) :: digit a (n / 4096 % 64) :: digit a (n / 64 % 64) :: digit a (n % 64) ::
      encode a rest
  | [x, y] =>
    let n := (x.toNat * 256 + y.toNat) * 4
    [digit a (n / 4096), digit a (n / 64 % 64), digit a (n % 64)] ++ filling a 1
  | [x] =>
    let n := x.toNat * 16
    [digit a (n / 64), digit a (n % 64)] ++ filling a 2
  | [] => []

/-- The one byte of a last group of two digits. -/
def oneByte? (u v : Nat) : Option Bytes :=
  if v % 16 = 0 then some [UInt8.ofNat ((u * 64 + v) / 16)] else none

/-- The two bytes of a last group of three digits. -/
def twoBytes? (u v w : Nat) : Option Bytes :=
  if w % 4 = 0 then
    let n := ((u * 64 + v) * 64 + w) / 4
    some [UInt8.ofNat (n / 256), UInt8.ofNat (n % 256)]
  else none

def threeBytes (u v w x : Nat) : Bytes :=
  let n := ((u * 64 + v) * 64 + w) * 64 + x
  [UInt8.ofNat (n / 65536), UInt8.ofNat (n / 256 % 256), UInt8.ofNat (n % 256)]

def decode? (a : Base64) : List Char → Option Bytes
  | [] => some []
  | [c, d] => do
    guard (a = urlSafe)
    oneByte? (← value? a c) (← value? a d)
  | [c, d, e] => do
    guard (a = urlSafe)
    twoBytes? (← value? a c) (← value? a d) (← value? a e)
  | [c, d, '=', '='] => do
    guard (a = standard)
    oneByte? (← value? a c) (← value? a d)
  | [c, d, e, '='] => do
    guard (a = standard)
    twoBytes? (← value? a c) (← value? a d) (← value? a e)
  | c :: d :: e :: f :: rest => do
    let head := threeBytes (← value? a c) (← value? a d) (← value? a e) (← value? a f)
    return head ++ (← decode? a rest)
  | [_] => none

/-! ## Digits and their values -/

theorem value?_digit (a : Base64) {n : Nat} (h : n < 64) : value? a (digit a n) = some n := by
  have all : ∀ i : Fin 64, value? a (digit a i) = some i.val := by
    cases a <;> decide +kernel
  exact all ⟨n, h⟩

theorem digit_ne_equals (a : Base64) {n : Nat} (h : n < 64) : digit a n ≠ '=' := by
  have all : ∀ i : Fin 64, digit a i ≠ '=' := by cases a <;> decide +kernel
  exact all ⟨n, h⟩

end Base64

end ServiceCall.Encoding

import ServiceCall.Signature.Der

/-!
# Signing with a private key

Private keys of the factoring scheme are read from their binary form and checked for what can be
checked cheaply: the modulus divides the product of two numbers of half its length, and the
exponents and the coefficient lie where they must. A signature is the digest of the message, filled
up to the length of the modulus and raised to the private exponent; the power is put together from
the powers modulo the two primes, and checked against the public exponent before it is given out.
-/

namespace ServiceCall.Signature.Rsa

open Encoding (Bytes)

/-- What is wrong with a key. -/
inductive Flaw where
  | encoding
  | version
  | unexpected
  | tooSmall
  | tooLarge
  | component
  | inconsistent
  | primeLength
  deriving DecidableEq

def Flaw.message : Flaw → String
  | encoding => "InvalidEncoding"
  | version => "VersionNotSupported"
  | unexpected => "UnexpectedError"
  | tooSmall => "TooSmall"
  | tooLarge => "TooLarge"
  | component => "InvalidComponent"
  | inconsistent => "InconsistentComponents"
  | primeLength => "PrivateModulusLenNotMultipleOf512Bits"

structure PrivateKey where
  modulus : Nat
  publicExponent : Nat
  exponent : Nat
  p : Nat
  q : Nat
  exponentP : Nat
  exponentQ : Nat
  /-- The inverse of `q` modulo `p`. -/
  coefficient : Nat

/-! ## Arithmetic -/

/-- The number of bits of a number. -/
def bitLength (n : Nat) : Nat := if n = 0 then 0 else n.log2 + 1

/-- A power modulo `m`, by squaring. -/
def powMod (b e m : Nat) : Nat :=
  if e = 0 then 1 % m
  else
    let half := powMod (b * b % m) (e / 2) m
    if e % 2 = 1 then b * half % m else half

theorem powMod_eq (b e m : Nat) : powMod b e m = Nat.pow b e % m := by
  induction e using Nat.strongRecOn generalizing b with
  | _ e ih =>
    rw [powMod]
    split
    · simp_all
    · rename_i h
      have hhalf : powMod (b * b % m) (e / 2) m = Nat.pow (b * b) (e / 2) % m := by
        rw [ih (e / 2) (by omega)]
        exact (Nat.pow_mod ..).symm
      have hb : Nat.pow (b * b) (e / 2) = Nat.pow b (2 * (e / 2)) := by
        simp only [Nat.pow_eq, ← Nat.pow_two, ← Nat.pow_mul]
      simp only [hhalf]
      split
      · have he : e = 2 * (e / 2) + 1 := by omega
        rw [Nat.mul_mod_mod, hb]
        exact congrArg (· % m) ((Nat.pow_succ'.symm).trans (congrArg (Nat.pow b) he.symm))
      · have he : e = 2 * (e / 2) := by omega
        rw [hb, ← he]

/-! ## Reading a key -/

/-- The components of a key, as they follow one another. -/
def integers? : (count : Nat) → Bytes → Option (List Bytes × Bytes)
  | 0, rest => some ([], rest)
  | count + 1, bytes => do
    let (n, rest) ← Der.integer? bytes
    let (ns, rest) ← integers? count rest
    return (n :: ns, rest)

/-- A number that can be reckoned modulo: odd, and neither short nor long. -/
def checkSize (m : Nat) : Except Flaw Unit := do
  if bitLength m ≤ 192 then throw .unexpected
  if 8192 < bitLength m then throw .tooLarge
  if m % 2 = 0 then throw .component

def checkModulus (n : Nat) : Except Flaw Unit := do
  checkSize n
  if (bitLength n + 7) / 8 * 8 < 2048 then throw .tooSmall
  if 4096 < bitLength n then throw .tooLarge

def checkPublicExponent (e : Nat) : Except Flaw Unit := do
  if Nat.pow 256 5 ≤ e then throw .tooLarge
  if e = 0 then throw .encoding
  if e < 65537 then throw .tooSmall
  if Nat.pow 2 33 - 1 < e then throw .tooLarge
  if e % 2 = 0 then throw .component

/-- A prime of a key has half the length of the modulus, which is a multiple of 512 bits. That it
is a prime is not looked into. -/
def checkPrime (half p : Nat) : Except Flaw Unit := do
  checkSize p
  if bitLength p ≠ half then throw .inconsistent
  if half % 512 ≠ 0 then throw .primeLength

def checkExponent (half n d : Nat) : Except Flaw Unit := do
  if (checkSize d).toOption.isNone then throw .component
  if bitLength d ≤ half ∨ n ≤ d then throw .inconsistent

/-- The inverse of `q` modulo `p`. -/
def checkCoefficient (p q coefficient : Nat) : Except Flaw Unit := do
  if p ≤ coefficient then throw .component
  if coefficient * q % p ≠ 1 then throw .inconsistent

/-- The exponent that belongs to a prime is odd and below it. -/
def checkPrimeExponent (p exponent : Nat) : Except Flaw Unit :=
  if p ≤ exponent ∨ exponent % 2 = 0 then throw .inconsistent else pure ()

/-- The first fault of a key counts. The product of the primes need only be a multiple of the
modulus; which prime is the larger does not matter. -/
def check (k : PrivateKey) : Except Flaw Unit := do
  checkModulus k.modulus
  checkPublicExponent k.publicExponent
  let half := (bitLength k.modulus + 1) / 2
  checkPrime half k.p
  checkPrime half k.q
  if k.p * k.q % k.modulus ≠ 0 then throw .inconsistent
  checkExponent half k.modulus k.exponent
  checkCoefficient k.p k.q k.coefficient
  checkPrimeExponent k.p k.exponentP
  checkPrimeExponent k.q k.exponentQ

/-- Reads a private key from its binary form. -/
def read (bytes : Bytes) : Except Flaw PrivateKey := do
  let some (body, rest) := Der.sequence? bytes | throw .encoding
  let some (version, body) := Der.integer? body | throw .encoding
  if version.length ≠ 1 then throw .encoding
  if version ≠ [0] then throw .version
  let some (components, left) := integers? 8 body | throw .encoding
  match components.map Digest.number with
  | [n, e, d, p, q, dp, dq, qInv] =>
    let key : PrivateKey := ⟨n, e, d, p, q, dp, dq, qInv⟩
    check key
    if left ≠ [] ∨ rest ≠ [] then throw .encoding
    return key
  | _ => throw .encoding

/-! ## Signing -/

/-- The bytes that announce a digest of 256 bits. -/
def digestHeader : Bytes :=
  [0x30, 0x31, 0x30, 0x0d, 0x06, 0x09, 0x60, 0x86, 0x48, 0x01, 0x65, 0x03, 0x04, 0x02, 0x01, 0x05,
    0x00, 0x04, 0x20]

/-- The digest of a message filled up to `length` bytes. -/
def padded (length : Nat) (message : Bytes) : Bytes :=
  let tail := digestHeader ++ Digest.digest message
  0x00 :: 0x01 :: List.replicate (length - tail.length - 3) 0xff ++ 0x00 :: tail

/-- The number whose public power is `c`, from its residues modulo the two primes. -/
def root (k : PrivateKey) (c : Nat) : Nat :=
  let x := powMod (c % k.p) k.exponentP k.p
  let y := powMod (c % k.q) k.exponentQ k.q
  let h := k.coefficient * (x + k.p - y % k.p) % k.p
  (y + h * k.q) % k.modulus

/-- The signature of a message, if the key is one with which signatures can be checked. -/
def sign? (k : PrivateKey) (message : Bytes) : Option Bytes :=
  let length := (bitLength k.modulus + 7) / 8
  let c := Digest.number (padded length message)
  let s := root k c
  if powMod s k.publicExponent k.modulus = c then some (Digest.bytes length s) else none

end ServiceCall.Signature.Rsa

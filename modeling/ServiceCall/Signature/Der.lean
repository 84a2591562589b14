import ServiceCall.Encoding.Utf8
import ServiceCall.Signature.Digest
import ServiceCall.Signature.Moment

/-!
# Tagged binary values

Key files hold values in the distinguished encoding: a tag, a length, and as many bytes, which for
sequences are again values. Two readers are given. `Value.readAll?` reads any such data into a tree,
so that a key can be looked for in it; `integer?` and `sequence?` take one value of a known kind off
the front and insist on the shortest form of its length.
-/

namespace ServiceCall.Signature.Der

open Encoding (Bytes)

/-- What a value is, as far as looking for a key goes. -/
inductive Value where
  | sequence (values : List Value)
  /-- The bytes of a bit string, without the count of unused bits, or those of an octet string. -/
  | string (bytes : Bytes)
  | identifier (arcs : List Nat)
  | other

/-! ## Any values -/

/-- A number in groups of seven bits, the last one marked by a clear top bit. -/
def groups? : (done : Nat) → Bytes → Option (Nat × Bytes)
  | _, [] => none
  | done, b :: rest =>
    let n := done * 128 + b.toNat % 128
    if b < 0x80 then some (n, rest) else groups? n rest

/-- The number of a tag, with whether it is of the universal class. -/
def tag? : Bytes → Option ((Nat × Bool) × Bytes)
  | [] => none
  | b :: rest =>
    let universal := b < 0x40
    if b &&& 0x1f = 0x1f then (groups? 0 rest).map fun r ↦ ((r.1, universal), r.2)
    else some (((b &&& 0x1f).toNat, universal), rest)

/-- A length, in one byte or behind a byte that counts its bytes, eight at the most. -/
def length? : Bytes → Option (Nat × Bytes)
  | [] => none
  | b :: rest =>
    if b < 0x80 then some (b.toNat, rest)
    else
      let count := b.toNat - 128
      if count ≤ 8 ∧ count ≤ rest.length then
        some (Digest.number (rest.take count), rest.drop count)
      else none

/-- The arcs of an object identifier behind the first two. -/
def arcs? : (bound : Nat) → Bytes → Option (List Nat)
  | _, [] => some []
  | 0, _ => none
  | bound + 1, bytes => do
    let (n, rest) ← groups? 0 bytes
    return n :: (← arcs? bound rest)

/-- The first byte of an identifier holds its first two arcs. -/
def identifier? : Bytes → Option Value
  | [] => none
  | b :: rest => do
    let first := min 2 (b.toNat / 40)
    return .identifier (first :: (b.toNat - 40 * first) :: (← arcs? rest.length rest))

def bitString? : Bytes → Option Value
  | [] => some (.string [])
  | unused :: bits => if unused.toNat ≤ 8 * bits.length then some (.string bits) else none

def isPrintable (b : UInt8) : Bool :=
  let c := Char.ofNat b.toNat
  b < 0x80 && (c.isAlphanum || " '()+,-./:=?".toList.contains c)

/-- The bytes as characters of the same numbers. -/
def characters (bytes : Bytes) : List Char := bytes.map fun b ↦ Char.ofNat b.toNat

/-- Reads values one after the other up to the end; there must be at least one. -/
def readAll? : (bound : Nat) → Bytes → Option (List Value)
  | 0, _ => none
  | bound + 1, bytes => do
    let ((number, universal), rest) ← tag? bytes
    let (length, rest) ← length? rest
    guard (length ≤ rest.length)
    let body := rest.take length
    let rest := rest.drop length
    let value ←
      if !universal then some .other
      else match number with
        | 0x01 => if length = 1 then some .other else none
        | 0x03 => bitString? body
        | 0x04 => some (.string body)
        | 0x06 => identifier? body
        | 0x0c | 0x14 | 0x1c | 0x1e => (Encoding.ofUtf8? body).map fun _ ↦ .other
        | 0x10 => (readAll? bound body).map .sequence
        | 0x11 => (readAll? bound body).map fun _ ↦ .other
        | 0x13 => if body.all isPrintable then some .other else none
        | 0x17 => if Moment.isShort (characters body) then some .other else none
        | 0x18 => if Moment.isLong (characters body) then some .other else none
        | _ => some .other
    if rest.isEmpty then return [value] else return value :: (← readAll? bound rest)

def Value.readAll? (bytes : Bytes) : Option (List Value) := Der.readAll? (bytes.length + 1) bytes

/-! ## Looking for a key -/

mutual

/-- The first of the given identifiers, in depth-first order. -/
def identifierIn? (known : List (List Nat)) : List Value → Option (List Nat)
  | [] => none
  | v :: vs => (identifierOf? known v).or (identifierIn? known vs)

def identifierOf? (known : List (List Nat)) : Value → Option (List Nat)
  | .sequence vs => identifierIn? known vs
  | .identifier arcs => known.find? (· = arcs)
  | _ => none

end

mutual

/-- The first bit or octet string, in depth-first order. -/
def stringIn? : List Value → Option Bytes
  | [] => none
  | v :: vs => (stringOf? v).or (stringIn? vs)

def stringOf? : Value → Option Bytes
  | .sequence vs => stringIn? vs
  | .string bytes => some bytes
  | _ => none

end

/-! ## Values of a known kind -/

/-- A length in its shortest form, of two bytes at the most. -/
def shortLength? : Bytes → Option (Nat × Bytes)
  | b :: rest =>
    if b < 0x80 then some (b.toNat, rest)
    else match b, rest with
      | 0x81, h :: rest => if h < 0x80 then none else some (h.toNat, rest)
      | 0x82, h :: l :: rest => if h = 0 then none else some (Digest.number [h, l], rest)
      | _, _ => none
  | [] => none

/-- The bytes of a value with the given tag, and what follows it. -/
def expect? (tag : UInt8) : Bytes → Option (Bytes × Bytes)
  | [] => none
  | b :: rest => do
    guard (b = tag)
    let (length, rest) ← shortLength? rest
    guard (length ≤ rest.length)
    return (rest.take length, rest.drop length)

def sequence? (bytes : Bytes) : Option (Bytes × Bytes) := expect? 0x30 bytes

/-- The bytes of an integer that is not negative, without the zero in front of a set top bit. -/
def integer? (bytes : Bytes) : Option (Bytes × Bytes) := do
  let (body, rest) ← expect? 0x02 bytes
  match body with
  | [] => none
  | [0] => return ([0], rest)
  | 0 :: b :: more => if b < 0x80 then none else return (b :: more, rest)
  | b :: more => if b < 0x80 then return (b :: more, rest) else none

end ServiceCall.Signature.Der

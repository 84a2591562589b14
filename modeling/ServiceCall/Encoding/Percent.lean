import ServiceCall.Encoding.Utf8

/-!
# Percent encoding

Bytes of a text in the two forms of addresses. In a query or a form body, letters, digits and `*-._`
stand for themselves, a space is a plus sign, and every other byte is a percent sign with two
hexadecimal digits. In a path segment the space is written like the other bytes, so a plus sign
never occurs there and decoding needs no second rule.
-/

namespace ServiceCall.Encoding.Percent

def hexDigit (n : Nat) : Char := "0123456789ABCDEF".toList.getD n '0'

def escape (b : UInt8) : List Char :=
  ['%', hexDigit (b.toNat / 16), hexDigit (b.toNat % 16)]

/-- The bytes that stand for themselves. -/
def isPlain (b : UInt8) : Bool :=
  let c := Char.ofNat b.toNat
  b.toNat < 0x80 && (c.isAlphanum || c = '*' || c = '-' || c = '.' || c = '_')

def formByte (b : UInt8) : List Char :=
  if isPlain b then [Char.ofNat b.toNat] else if b = 0x20 then ['+'] else escape b

def segmentByte (b : UInt8) : List Char :=
  if isPlain b then [Char.ofNat b.toNat] else escape b

/-- A name or value of a query or form. -/
def form (s : String) : String := String.ofList ((utf8 s).flatMap formByte)

/-- One path segment. -/
def segment (s : String) : String := String.ofList ((utf8 s).flatMap segmentByte)

/-- Name and value pairs, as a query or a form body lists them. -/
def formPairs (pairs : List (String × String)) : String :=
  String.intercalate "&" (pairs.map fun p ↦ form p.1 ++ "=" ++ form p.2)

/-! ## Decoding -/

def hexValue? (c : Char) : Option Nat :=
  if c.isDigit then some (c.toNat - 48)
  else if 'A' ≤ c && c ≤ 'F' then some (c.toNat - 55)
  else if 'a' ≤ c && c ≤ 'f' then some (c.toNat - 87)
  else none

/-- The bytes of a path segment. A percent sign without two hexadecimal digits stands for itself. -/
def decode : List Char → Bytes
  | '%' :: h :: l :: rest =>
    match hexValue? h, hexValue? l with
    | some h, some l => UInt8.ofNat (h * 16 + l) :: decode rest
    | _, _ => 0x25 :: decode (h :: l :: rest)
  | c :: rest => String.utf8EncodeChar c ++ decode rest
  | [] => []

example : form "a b&c=d+%é" = "a+b%26c%3Dd%2B%25%C3%A9" := by decide +kernel
example : segment "a b/é" = "a%20b%2F%C3%A9" := by decide +kernel
example : decode "a%20b%2F%C3%A9".toList = utf8 "a b/é" := by decide +kernel

end ServiceCall.Encoding.Percent

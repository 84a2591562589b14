import ServiceCall.HostName.Folding
import ServiceCall.HostName.Punycode
import ServiceCall.Text.Composition
import ServiceCall.Text.Direction
import ServiceCall.Text.Joining

/-!
# Host names

A host name is labels with dots between them. On the network it consists of ASCII characters alone:
a label with others is written in a form that begins with `xn--`. A name may come in either form or
in a mixture, and the labels are checked in their readable form. A label that is in its written form
already has to stand for one that could be read in no other way.
-/

namespace ServiceCall.HostName

open Text (Direction Joining)

def isAscii (c : Char) : Bool := c.toNat < 0x80

/-- A label as it is read, and as it goes over the network. -/
structure Label where
  readable : List Char
  written : List Char

namespace Label

def mark : List Char := "xn--".toList

/-- Longer labels are not taken into the written form. -/
def maxLength : Nat := 1000

/-- Longer written forms are not read. -/
def maxWritten : Nat := 2000

/-- Whether a text is one that reading leaves as it is. -/
def isPlain (cs : List Char) : Bool := foldAll? cs = some cs && Text.compose cs = cs

/-- Reads a label. -/
def read? (cs : List Char) : Option Label := do
  match mark.isPrefixOf? cs with
  | some rest =>
    guard (rest.length ≤ maxWritten)
    let readable ← Punycode.decode? rest
    guard (!readable.all isAscii && isPlain readable)
    return ⟨readable, cs⟩
  | none =>
    if cs.all isAscii then return ⟨cs, cs⟩
    guard (cs.length ≤ maxLength)
    return ⟨cs, mark ++ Punycode.encode cs⟩

/-- A label does not begin with a mark, and letters are joined or parted only where that shows. -/
def isFit (l : Label) : Bool :=
  !l.readable.head?.any Text.isMark && Joining.allStand [] l.readable

def directions (l : Label) : List Direction := l.readable.map Direction.ofChar

end Label

/-- Whether labels can be shown in a row. If one of them has characters that are written from right
to left, all are looked at. -/
def areSettled (labels : List Label) : Bool :=
  !labels.any (·.directions.any (·.isRightToLeft)) || labels.all (Direction.isSettled ·.directions)

/-- The form of a name that goes over the network. -/
def ascii? (cs : List Char) : Option (List Char) := do
  let folded ← foldAll? cs
  let labels ← (List.splitOn '.' (Text.compose folded)).mapM Label.read?
  guard (labels.all (·.isFit) && areSettled labels)
  return List.intercalate ['.'] (labels.map (·.written))

example : ascii? "BÜCHER.example".toList = some "xn--bcher-kva.example".toList := by decide +kernel
example : ascii? "xn--a".toList = none := by decide +kernel
example : ascii? "1א".toList = none := by decide +kernel
example : ascii? "\u0301a".toList = none := by decide +kernel

end ServiceCall.HostName

import ServiceCall.Encoding.Base64
import ServiceCall.Text.Blank

/-!
# Armoured text

Binary data in text: base64 between a line that says what it is and a line that says so again.
Around the two markers any text may stand. Between them there may first be header lines, each with a
colon and all set off by an empty line.
-/

namespace ServiceCall.Signature

open Encoding (Bytes)

/-- What the text between the markers is said to be, and the bytes it stands for. -/
structure Armor where
  label : String
  content : Bytes

namespace Armor

/-- How far the first mark reaches, when `left` is what is still to come of a mark that has begun. A
character that breaks off a mark does not begin one itself. -/
def markEnd? (mark : List Char) : (left : List Char) → List Char → Option Nat
  | [], _ => some 0
  | _, [] => none
  | l :: left, c :: cs => (markEnd? mark (if c = l then left else mark) cs).map (· + 1)

/-- What stands in front of the first mark, and what stands behind it. -/
def splitAt? (mark cs : List Char) : Option (List Char × List Char) :=
  (markEnd? mark mark cs).map fun n ↦ (cs.take (n - mark.length), cs.drop n)

example : splitAt? "--A".toList "x--Ay".toList = some (['x'], ['y']) := by decide
example : splitAt? "--A".toList "x---Ay".toList = none := by decide

def isGap (c : Char) : Bool := c = ' ' || c = '\t' || c = '\n' || c = '\r'

/-- The lines of a text; the end of the last one may be missing. -/
def lines : List Char → List (List Char)
  | [] => []
  | '\n' :: cs => [] :: lines cs
  | c :: cs =>
    match lines cs with
    | [] => [[c]]
    | line :: rest => (c :: line) :: rest

/-- Headers and data of what stands between the markers. -/
def splitHeaders (body : List Char) : List Char × List Char :=
  ((splitAt? ['\n', '\n'] body).or (splitAt? ['\r', '\n', '\r', '\n'] body)).getD ([], body)

/-- The data in front of which every header line has a colon. -/
def data? (body : List Char) : Option Bytes := do
  let (headers, data) := splitHeaders body
  guard ((lines headers).all (·.contains ':'))
  Encoding.Base64.standard.decode? (data.filter fun c ↦ !Text.isSpace c)

/-- Reads the first armoured data of a text. -/
def read? (text : String) : Option Armor := do
  let dashes := "-----".toList
  let (_, rest) ← splitAt? "-----BEGIN ".toList text.toList
  let (label, rest) ← splitAt? dashes rest
  let (body, rest) ← splitAt? "-----END ".toList (rest.dropWhile isGap)
  let (again, _) ← splitAt? dashes rest
  guard (!label.isEmpty && label = again)
  return ⟨String.ofList label, ← data? body⟩

end Armor

end ServiceCall.Signature

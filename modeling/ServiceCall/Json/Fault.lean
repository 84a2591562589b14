import ServiceCall.Json.Basic
import ServiceCall.Text.Description

/-!
# What can be wrong with a JSON text

A fault is a cause together with the place where it was noticed. The place is given by the number of
bytes of the text behind it, which is what a reader knows; `Fault.message` turns it into a line and
a column. Lines count from one. The column counts bytes since the last line break, so a character
outside ASCII counts as often as it has bytes.

Some faults are noticed on a byte that is only looked at. They are placed behind that byte.
-/

namespace ServiceCall.Json

inductive Cause where
  | endInList
  | endInObject
  | endInString
  | endInValue
  | colonExpected
  | listCommaOrEnd
  | objectCommaOrEnd
  | wordExpected
  | valueExpected
  | badEscape
  | badNumber
  | numberOutOfRange
  | controlCharacter
  | keyNotString
  | loneSurrogate
  | surrogateUnpaired
  | trailingComma
  | trailingCharacters
  | tooDeep
  | wrongType (found expected : String)
  | wrongValue (found expected : String)
  | wrongLength (length : Nat) (expected : String)
  | missingField (name : String)
  | duplicateField (name : String)
  | unknownName (name : String) (known : List String)
  deriving DecidableEq

def backquoted (s : String) : String := "`" ++ s ++ "`"

def Cause.message : Cause → String
  | endInList => "EOF while parsing a list"
  | endInObject => "EOF while parsing an object"
  | endInString => "EOF while parsing a string"
  | endInValue => "EOF while parsing a value"
  | colonExpected => "expected `:`"
  | listCommaOrEnd => "expected `,` or `]`"
  | objectCommaOrEnd => "expected `,` or `\x7d`"
  | wordExpected => "expected ident"
  | valueExpected => "expected value"
  | badEscape => "invalid escape"
  | badNumber => "invalid number"
  | numberOutOfRange => "number out of range"
  | controlCharacter => "control character (\\u0000-\\u001F) found while parsing a string"
  | keyNotString => "key must be a string"
  | loneSurrogate => "lone leading surrogate in hex escape"
  | surrogateUnpaired => "unexpected end of hex escape"
  | trailingComma => "trailing comma"
  | trailingCharacters => "trailing characters"
  | tooDeep => "recursion limit exceeded"
  | wrongType found expected => "invalid type: " ++ found ++ ", expected " ++ expected
  | wrongValue found expected => "invalid value: " ++ found ++ ", expected " ++ expected
  | wrongLength n expected =>
    "invalid length " ++ String.ofList (Number.digits n) ++ ", expected " ++ expected
  | missingField name => "missing field " ++ backquoted name
  | duplicateField name => "duplicate field " ++ backquoted name
  | unknownName name known =>
    "unknown variant " ++ backquoted name ++ ", expected one of " ++
      String.intercalate ", " (known.map backquoted)

/-- How a value that was not asked for is named. -/
def found : Json → String
  | null => "null"
  | bool b => "boolean " ++ backquoted (Text.Description.bool b)
  | num (.int i) => "integer " ++ backquoted (String.ofList (Number.intText i))
  | num (.real x) => "floating point " ++ backquoted (String.ofList (Number.realText x))
  | str s => "string " ++ Text.Description.quote s
  | arr _ => "sequence"
  | obj _ => "map"

/-! ## Places -/

/-- The number of bytes of a text. -/
def byteCount (cs : List Char) : Nat := cs.foldr (fun c n ↦ c.utf8Size + n) 0

structure Fault where
  cause : Cause
  /-- The number of bytes behind the fault. -/
  left : Nat
  deriving DecidableEq

/-- A fault in front of what is left of the text. -/
def Fault.before (cause : Cause) (rest : List Char) : Fault := ⟨cause, byteCount rest⟩

/-- A fault behind the first byte of what is left of the text, if there is one. -/
def Fault.behindNext (cause : Cause) (rest : List Char) : Fault := ⟨cause, byteCount rest - 1⟩

/-- Line and column of a byte offset. -/
def place : (line column offset : Nat) → List Char → Nat × Nat
  | line, column, _, [] => (line, column)
  | line, column, offset, c :: cs =>
    if offset = 0 then (line, column)
    else if offset < c.utf8Size then (line, column + offset)
    else if c = '\n' then place (line + 1) 0 (offset - 1) cs
    else place line (column + c.utf8Size) (offset - c.utf8Size) cs

def Fault.message (text : String) (f : Fault) : String :=
  let cs := text.toList
  let (line, column) := place 1 0 (byteCount cs - f.left) cs
  f.cause.message ++ " at line " ++ String.ofList (Number.digits line) ++ " column " ++
    String.ofList (Number.digits column)

example : Fault.message "\x7b\n\"é\" 1" ⟨.colonExpected, 0⟩ =
    "expected `:` at line 2 column 6" := by decide +kernel

end ServiceCall.Json

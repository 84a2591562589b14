import ServiceCall.Text.Visible

/-!
# Descriptions

One-line descriptions of values: `Name { field: value, other: "text" }`. Texts stand between quotes
with everything escaped that would break the line or could not be seen, optional values as
`Some(..)` or `None`, and `..` at the end of a record says that it has fields which are not shown.
-/

namespace ServiceCall.Text.Description

def hexDigit (n : Nat) : Char := "0123456789abcdef".toList.getD n '0'

/-- Digits in base sixteen, the least number of them. -/
def hex (n : Nat) : List Char :=
  if n < 16 then [hexDigit n] else hex (n / 16) ++ [hexDigit (n % 16)]

def escape (c : Char) : List Char :=
  match c with
  | '"' => ['\\', '"']
  | '\\' => ['\\', '\\']
  | '\n' => ['\\', 'n']
  | '\r' => ['\\', 'r']
  | '\t' => ['\\', 't']
  | '\x00' => ['\\', '0']
  | c => if isVisible c then [c] else ['\\', 'u', '\x7b'] ++ hex c.toNat ++ ['\x7d']

def quote (s : String) : String := String.ofList ('"' :: s.toList.flatMap escape ++ ['"'])

def option : Option String → String
  | none => "None"
  | some shown => "Some(" ++ shown ++ ")"

def list (shown : List String) : String := "[" ++ String.intercalate ", " shown ++ "]"

def bool (b : Bool) : String := if b then "true" else "false"

/-- `more` says that the record has further fields. -/
def record (name : String) (fields : List (String × String)) (more : Bool) : String :=
  let shown := fields.map fun f ↦ f.1 ++ ": " ++ f.2
  name ++ " \x7b " ++ String.intercalate ", " (shown ++ if more then [".."] else []) ++ " \x7d"

example : quote "a\"b\\c\n\x01é" = "\"a\\\"b\\\\c\\n\\u\x7b1\x7dé\"" := by decide +kernel

end ServiceCall.Text.Description

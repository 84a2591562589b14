import ServiceCall.Json.Basic

/-!
# Writing JSON

Two layouts of one text: compact, without any blank, and indented, with two spaces per level and
every entry on a line of its own. Both write the fields of an object in the order in which the value
lists them, and escape in strings what the grammar asks for and nothing else.
-/

namespace ServiceCall.Json

/-! ## Strings -/

def hexDigit (n : Nat) : Char := "0123456789abcdef".toList.getD n '0'

/-- The quote, the backslash and the controls have an escaped form, all else stands for itself. -/
def escapeChar (c : Char) : List Char :=
  match c with
  | '"' => ['\\', '"']
  | '\\' => ['\\', '\\']
  | '\x08' => ['\\', 'b']
  | '\x0c' => ['\\', 'f']
  | '\n' => ['\\', 'n']
  | '\r' => ['\\', 'r']
  | '\t' => ['\\', 't']
  | c =>
    if c.toNat < 0x20 then ['\\', 'u', '0', '0', hexDigit (c.toNat / 16), hexDigit (c.toNat % 16)]
    else [c]

def quoteText (s : String) : List Char := '"' :: s.toList.flatMap escapeChar ++ ['"']

/-! ## Compact layout -/

mutual

def compactText : Json → List Char
  | null => ['n', 'u', 'l', 'l']
  | bool true => ['t', 'r', 'u', 'e']
  | bool false => ['f', 'a', 'l', 's', 'e']
  | num n => n.text
  | str s => quoteText s
  | arr [] => ['[', ']']
  | arr (x :: items) => '[' :: compactText x ++ compactItems items ++ [']']
  | obj [] => ['\x7b', '\x7d']
  | obj ((k, v) :: fields) =>
    '\x7b' :: quoteText k ++ ':' :: compactText v ++ compactFields fields ++ ['\x7d']

/-- Items after the first, each with its comma. -/
def compactItems : List Json → List Char
  | [] => []
  | x :: items => ',' :: compactText x ++ compactItems items

def compactFields : List (String × Json) → List Char
  | [] => []
  | (k, v) :: fields => ',' :: quoteText k ++ ':' :: compactText v ++ compactFields fields

end

/-! ## Indented layout -/

def newLine (depth : Nat) : List Char := '\n' :: List.replicate (2 * depth) ' '

mutual

/-- The text of a value that stands `depth` levels deep. -/
def indentedText (depth : Nat) : Json → List Char
  | null => ['n', 'u', 'l', 'l']
  | bool true => ['t', 'r', 'u', 'e']
  | bool false => ['f', 'a', 'l', 's', 'e']
  | num n => n.text
  | str s => quoteText s
  | arr [] => ['[', ']']
  | arr (x :: items) =>
    '[' :: newLine (depth + 1) ++ indentedText (depth + 1) x ++ indentedItems (depth + 1) items ++
      newLine depth ++ [']']
  | obj [] => ['\x7b', '\x7d']
  | obj ((k, v) :: fields) =>
    '\x7b' :: newLine (depth + 1) ++ quoteText k ++ ':' :: ' ' :: indentedText (depth + 1) v ++
      indentedFields (depth + 1) fields ++ newLine depth ++ ['\x7d']

def indentedItems (depth : Nat) : List Json → List Char
  | [] => []
  | x :: items => ',' :: newLine depth ++ indentedText depth x ++ indentedItems depth items

def indentedFields (depth : Nat) : List (String × Json) → List Char
  | [] => []
  | (k, v) :: fields =>
    ',' :: newLine depth ++ quoteText k ++ ':' :: ' ' :: indentedText depth v ++
      indentedFields depth fields

end

def compact (v : Json) : String := String.ofList v.compactText

def indented (v : Json) : String := String.ofList (v.indentedText 0)

/-! ## Scalars as plain text -/

/-- The text of a string, number or truth value; lists and objects have none. -/
def scalarText? : Json → Option String
  | str s => some s
  | num n => some (String.ofList n.text)
  | bool b => some (if b then "true" else "false")
  | _ => none

end ServiceCall.Json

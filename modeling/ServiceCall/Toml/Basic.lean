/-!
# Values of settings files

The values that a settings file can hold. Numbers with a fraction or an exponent and moments in time
are kept as they are written, since no setting takes them.
-/

namespace ServiceCall

inductive Toml where
  | str (value : String)
  | int (value : Int)
  | decimal (written : String)
  | moment (written : String)
  | bool (value : Bool)
  | list (items : List Toml)
  | table (entries : List (String × Toml))
  deriving Inhabited

namespace Toml

/-- Reads from the front of a text and returns what it leaves. -/
abbrev Reader (α : Type) := List Char → Option (α × List Char)

/-- White space within a line. -/
def isGap (c : Char) : Bool := c = ' ' || c = '\t'

def skipGaps (cs : List Char) : List Char := cs.dropWhile isGap

/-- The end of a line, of which there are two forms. -/
def newline? : List Char → Option (List Char)
  | '\n' :: rest => some rest
  | '\r' :: '\n' :: rest => some rest
  | _ => none

/-- Characters that may stand in a comment or between quotes: the tab, and all that are no
controls. -/
def isPrintable (c : Char) : Bool := c = '\t' || (' ' ≤ c && c ≠ '\x7f')

/-- Passes over a comment, if there is one, up to the end of its line. -/
def skipComment : List Char → List Char
  | '#' :: rest => rest.dropWhile isPrintable
  | cs => cs

/-- The rest of a line holds nothing but white space and a comment. -/
def endOfLine? (cs : List Char) : Option (List Char) :=
  match skipComment (skipGaps cs) with
  | [] => some []
  | rest => newline? rest

def mark? (c : Char) : List Char → Option (List Char)
  | d :: rest => if c = d then some rest else none
  | [] => none

end Toml

end ServiceCall

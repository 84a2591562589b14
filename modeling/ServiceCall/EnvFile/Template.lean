import ServiceCall.Text.Word

/-!
# Values of an environment file

A value is a template: text with references to variables. Between single quotes every character
stands for itself. Elsewhere a dollar sign starts a reference, whose name goes as far as letters and
digits go or stands in braces, and a backslash takes away what the next character means. Outside of
quotes a blank ends the value, and only a comment may follow.

A name without braces ends at the first character that cannot belong to it. This one then stands for
itself, be it a quote, unless it is a dollar sign.
-/

namespace ServiceCall.EnvFile

inductive Piece where
  | char (c : Char)
  /-- The value of the variable of that name. -/
  | reference (name : String)
  deriving DecidableEq

namespace Template

/-- Where a reader stands within a value. The flags tell whether a double quote is open. -/
inductive Mode where
  | bare
  | ended
  | single
  | double
  | escape (inner : Bool)
  /-- Within a name, of which the given characters are read. -/
  | name (begun : List Char) (inner : Bool)
  /-- Within a name in braces. -/
  | braced (begun : List Char) (inner : Bool)

/-- Back to where a reader stood before an escape or a reference. -/
def Mode.outer (inner : Bool) : Mode := if inner then .double else .bare

/-- What a character stands for behind a backslash. -/
def escaped? (c : Char) : Option Char :=
  if c = 'n' then some '\n'
  else if c = '\\' || c = '\'' || c = '"' || c = '$' || c = ' ' then some c
  else none

/-- A reference; the empty name refers to nothing. -/
def refer (name : List Char) : List Piece :=
  if name.isEmpty then [] else [.reference (String.ofList name)]

/-- Reads a value. A quote or a brace that stays open is refused, as are unknown escapes and what
follows the end of the value. -/
def read? : Mode → List Char → Option (List Piece)
  | .bare, [] | .ended, [] | .escape false, [] => some []
  | .name begun false, [] => some (refer begun)
  | _, [] => none
  | .ended, c :: cs =>
    if c = ' ' || c = '\t' then read? .ended cs
    else if c = '#' then some []
    else none
  | .escape inner, c :: cs =>
    match escaped? c with
    | some x => (read? (.outer inner) cs).map (.char x :: ·)
    | none => none
  | .single, c :: cs =>
    if c = '\'' then read? .bare cs else (read? .single cs).map (.char c :: ·)
  | .name begun inner, c :: cs =>
    if Text.isWordChar c then read? (.name (begun ++ [c]) inner) cs
    else if c = '\x7b' ∧ begun = [] then read? (.braced [] inner) cs
    else if c = '$' then (read? (.name [] inner) cs).map (refer begun ++ ·)
    else (read? (.outer inner) cs).map (refer begun ++ .char c :: ·)
  | .braced begun inner, c :: cs =>
    if c = '\x7d' then (read? (.outer inner) cs).map (refer begun ++ ·)
    else read? (.braced (begun ++ [c]) inner) cs
  | .double, c :: cs =>
    if c = '$' then read? (.name [] true) cs
    else if c = '"' then read? .bare cs
    else if c = '\\' then read? (.escape true) cs
    else (read? .double cs).map (.char c :: ·)
  | .bare, c :: cs =>
    if c = '$' then read? (.name [] false) cs
    else if c = '\'' then read? .single cs
    else if c = '"' then read? .double cs
    else if c = '\\' then read? (.escape false) cs
    else if c = ' ' || c = '\t' then read? .ended cs
    else (read? .bare cs).map (.char c :: ·)

/-- Fills in the references. -/
def fill (lookup : String → String) (pieces : List Piece) : String :=
  String.ofList (pieces.flatMap fun
    | .char c => [c]
    | .reference name => (lookup name).toList)

example : (read? .bare "a\"$B \\$C\"'$D' # e".toList).map (fill fun name ↦ "<" ++ name ++ ">") =
    some "a<B> $C$D" := by decide +kernel
example : read? .bare "a b".toList = none := by decide +kernel

end Template

end ServiceCall.EnvFile

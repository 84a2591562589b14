import ServiceCall.EnvFile.Line
import ServiceCall.EnvFile.Template
import ServiceCall.Table

/-!
# Environment files

An environment file gives values to variables, one on a line. It adds to the environment and changes
nothing in it: a variable that has a value already keeps it. A line that cannot be understood ends
the file, and what stands above it counts.
-/

namespace ServiceCall.EnvFile

/-! ## Reading a line -/

/-- What a line of the file says. -/
inductive Line where
  | nothing
  | entry (name : String) (value : List Piece)
  | malformed
  deriving DecidableEq

def skipSpace (cs : List Char) : List Char := cs.dropWhile Text.isSpace

def isNameStart (c : Char) : Bool := c.isAlpha || c = '_'

def isNameChar (c : Char) : Bool := c.isAlphanum || c = '_' || c = '.'

/-- Reads a name, and the white space behind it. -/
def name? : List Char → Option (String × List Char)
  | [] => none
  | c :: cs =>
    if isNameStart c then
      some (String.ofList (c :: cs.takeWhile isNameChar), skipSpace (cs.dropWhile isNameChar))
    else none

/-- Reads the name of an entry and the equals sign. The word `export` may stand before the name, and
is a name itself if the equals sign follows. -/
def head? (cs : List Char) : Option (String × List Char) := do
  match ← name? cs with
  | (name, '=' :: rest) => return (name, rest)
  | ("export", rest) =>
    match ← name? rest with
    | (name, '=' :: rest) => return (name, rest)
    | _ => none
  | _ => none

/-- Reads what stands behind the equals sign. -/
def value? (cs : List Char) : Option (List Piece) :=
  match skipSpace cs with
  | [] | '#' :: _ => some []
  | rest => Template.read? .bare rest

def Line.read (l : List Char) : Line :=
  match skipSpace (l.reverse.dropWhile Text.isSpace).reverse with
  | [] | '#' :: _ => .nothing
  | rest =>
    match (do
      let (name, rest) ← head? rest
      return (name, ← value? rest)) with
    | some (name, value) => .entry name value
    | none => .malformed

/-! ## Adding to the environment -/

/-- The environment as far as it is made, and the values that the file gave so far. -/
structure Loading where
  environment : Table String
  given : Table String

/-- Splits a name at its first equals sign. -/
def splitName (name : String) : List Char × Option (List Char) :=
  let key := name.toList.takeWhile (· ≠ '=')
  (key, (name.toList.drop key.length).tail?)

/-- The value of a variable. An environment holds texts in which the name, an equals sign and the
value follow one another, and what stands in the name behind an equals sign is looked for in the
value: in an environment where `A` is `B=C` the name `A=B` finds `C`. -/
def valueIn? (environment : Table String) (name : String) : Option String :=
  match splitName name with
  | (_, none) => environment.get? name
  | (key, some start) => do
    let value ← environment.get? (String.ofList key)
    return String.ofList (← (start ++ ['=']).isPrefixOf? value.toList)

example : valueIn? (.ofList [("A", "B=C")]) "A=B" = some "C" := by decide +kernel

namespace Loading

/-- The value that a reference stands for: that of the environment before that of the file. -/
def lookup (s : Loading) (name : String) : String :=
  ((valueIn? s.environment name).or (s.given.get? name)).getD ""

def enter (s : Loading) (name : String) (value : List Piece) : Loading :=
  let text := Template.fill s.lookup value
  { environment := if s.environment.contains name then s.environment
      else s.environment.insert name text
    given := s.given.insert name text }

/-- Enters what the lines say up to one that cannot be understood. -/
def run (s : Loading) : List Line → Loading
  | [] | .malformed :: _ => s
  | .nothing :: ls => s.run ls
  | .entry name value :: ls => (s.enter name value).run ls

end Loading

/-- What the lines of a file say. A byte order mark at its start means nothing. -/
def read (text : String) : List Line :=
  let cs := match text.toList with
    | '\uFEFF' :: cs => cs
    | cs => cs
  (lines cs).map fun
    | some l => .read l
    | none => .malformed

/-- The variables that a line gives a value or refers to. -/
def Line.names : Line → List String
  | .entry name value => name :: value.filterMap fun
    | .reference name => some (String.ofList (splitName name).1)
    | .char _ => none
  | .nothing | .malformed => []

/-- The environment with what the lines of a file add. -/
def load (environment : Table String) (ls : List Line) : Table String :=
  (Loading.run ⟨environment, .empty⟩ ls).environment

theorem get?_environment_enter {s : Loading} {name k v : String} {value : List Piece}
    (h : s.environment.get? k = some v) : (s.enter name value).environment.get? k = some v := by
  by_cases hn : s.environment.contains name
  · simp [Loading.enter, hn, h]
  · have : k ≠ name := by
      rintro rfl
      simp [Table.contains, h] at hn
    simp [Loading.enter, hn, Table.get?_insert, this, h]

theorem get?_environment_run {s : Loading} {k v : String} (ls : List Line)
    (h : s.environment.get? k = some v) : (s.run ls).environment.get? k = some v := by
  induction ls generalizing s with
  | nil => exact h
  | cons l ls ih =>
    cases l with
    | nothing => exact ih h
    | malformed => exact h
    | entry name value => exact ih (get?_environment_enter h)

/-- No variable loses its value. -/
theorem get?_load {environment : Table String} {ls : List Line} {k v : String}
    (h : environment.get? k = some v) : (load environment ls).get? k = some v :=
  get?_environment_run ls h

end ServiceCall.EnvFile

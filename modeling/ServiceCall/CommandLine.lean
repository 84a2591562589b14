import ServiceCall.Table

/-!
# Command lines

A command line names a command and the options and words that belong to it. Every command has a
level of its own, and so has what stands in front of the command. Help ends the reading wherever it
is asked for; everything that does not fit is refused.

An option is set at most once on a level. The settings file may be named on both levels, and then
the name that stands with the command counts.
-/

namespace ServiceCall

/-- What the program is asked to do. -/
inductive Command where
  /-- Name the connectors. -/
  | list
  /-- Name the operations of a connector. -/
  | operations (connector : String)
  /-- Run one operation. Arguments that are not given here come from the input. -/
  | call (connector : String) (args context : Option String) (dryRun : Bool)
  deriving DecidableEq

/-- What a command line asks for. -/
inductive CommandLine where
  | help
  | version
  /-- A command, with the settings file named for it. -/
  | run (settings : Option String) (command : Command)
  deriving DecidableEq

namespace CommandLine

/-! ## Parts of a command line -/

inductive Part where
  /-- Two dashes; only words follow. -/
  | divider
  /-- An option, perhaps with a value behind an equals sign. -/
  | long (name : String) (value : Option String)
  /-- A letter behind a single dash. -/
  | short (letter : Char)
  | word
  deriving DecidableEq

/-- The kind of a part. A single dash is a word. -/
def Part.ofText (s : String) : Part :=
  match s.toList with
  | ['-', '-'] => .divider
  | '-' :: '-' :: cs =>
    .long (String.ofList (cs.takeWhile (· ≠ '=')))
      (match cs.dropWhile (· ≠ '=') with
        | [] => none
        | _ :: value => some (String.ofList value))
  | '-' :: c :: _ => .short c
  | _ => .word

/-! ## Levels -/

/-- What may stand on a level. -/
structure Level where
  /-- Options that take a value. -/
  valued : List String := ["config"]
  switches : List String := []
  /-- The number of words. -/
  words : Nat := 0
  /-- Whether the level is in front of the command. -/
  outer : Bool := false

namespace Level

def front : Level := { outer := true }

def list : Level := {}

def operations : Level := { words := 1 }

def call : Level := { valued := ["config", "args", "context"], switches := ["dry-run"], words := 1 }

end Level

/-- What is given on a level. -/
structure Given where
  values : List (String × String) := []
  switches : List String := []
  words : List String := []

/-- Why the reading ends before the end of the command line. -/
inductive Stop where
  | help
  | version
  | refused
  deriving DecidableEq

namespace Given

/-- Sets an option that takes a value. The name of a settings file is not empty. -/
def set (g : Given) (level : Level) (name value : String) : Except Stop Given :=
  if name ∉ level.valued then .error .refused
  else if (g.values.lookup name).isSome then .error .refused
  else if name = "config" ∧ value = "" then .error .refused
  else .ok { g with values := (name, value) :: g.values }

def turnOn (g : Given) (level : Level) (name : String) : Except Stop Given :=
  if name ∉ level.switches ∨ name ∈ g.switches then .error .refused
  else .ok { g with switches := name :: g.switches }

def addWord (g : Given) (level : Level) (word : String) : Except Stop Given :=
  if g.words.length < level.words then .ok { g with words := g.words ++ [word] }
  else .error .refused

def addWords (g : Given) (level : Level) (words : List String) : Except Stop Given :=
  words.foldlM (fun g w ↦ g.addWord level w) g

end Given

/-- Reads one level, and returns what is left of the command line: in front of the command, the
command and what follows it. -/
def readLevel (level : Level) (g : Given) : List String → Except Stop (Given × List String)
  | [] => .ok (g, [])
  | s :: rest =>
    match Part.ofText s with
    | .divider =>
      if level.outer then .error .refused else do return (← g.addWords level rest, [])
    | .word =>
      if level.outer then .ok (g, s :: rest)
      else do
        let g ← g.addWord level s
        readLevel level g rest
    | .short c =>
      if c = 'h' then .error .help
      else if c = 'V' ∧ level.outer then .error .version
      else .error .refused
    | .long name (some value) => do
      let g ← g.set level name value
      readLevel level g rest
    | .long name none =>
      if name = "help" then .error .help
      else if name = "version" ∧ level.outer then .error .version
      else if name ∈ level.switches then do
        let g ← g.turnOn level name
        readLevel level g rest
      else
        match rest with
        | value :: rest =>
          if Part.ofText value = .word then do
            let g ← g.set level name value
            readLevel level g rest
          else .error .refused
        | [] => .error .refused

/-! ## Commands -/

/-- The command of that name with its level, and what it is with all that is given on it. -/
def command? : String → Option (Level × (Given → Option Command))
  | "list" => some (.list, fun _ ↦ some .list)
  | "operations" => some (.operations, fun g ↦
      match g.words with
      | [connector] => some (.operations connector)
      | _ => none)
  | "call" => some (.call, fun g ↦
      match g.words with
      | [connector] => some (.call connector (g.values.lookup "args") (g.values.lookup "context")
          (g.switches.contains "dry-run"))
      | _ => none)
  | _ => none

/-- Whether there is help on what the words name. -/
def hasHelp : List String → Bool
  | [] => true
  | [name] => name = "help" || (command? name).isSome
  | _ => false

/-- Reads the command and what belongs to it. -/
def readCommand (settings : Option String) : List String → Except Stop CommandLine
  | [] => .error .refused
  | name :: rest =>
    if name = "help" then .error (if hasHelp rest then .help else .refused)
    else
      match command? name with
      | none => .error .refused
      | some (level, make) => do
        let (g, _) ← readLevel level {} rest
        match make g with
        | some command => .ok (.run ((g.values.lookup "config").or settings) command)
        | none => .error .refused

/-- Reads a command line; none means that it is refused. -/
def read? (parts : List String) : Option CommandLine :=
  let reading : Except Stop CommandLine := do
    let (g, rest) ← readLevel .front {} parts
    readCommand (g.values.lookup "config") rest
  match reading with
  | .ok line => some line
  | .error .help => some .help
  | .error .version => some .version
  | .error .refused => none

example : read? ["--config", "a", "list", "--config=b"] = some (.run (some "b") .list) := by
  decide +kernel
example : read? ["call", "--dry-run", "--args", "\x7b\x7d", "x"] =
    some (.run none (.call "x" (some "\x7b\x7d") none true)) := by decide +kernel
example : read? ["call", "x", "--args", "--dry-run"] = none := by decide +kernel
example : read? ["operations", "--", "--config"] = some (.run none (.operations "--config")) := by
  decide +kernel

end CommandLine

end ServiceCall

import ServiceCall.Toml.Draft
import ServiceCall.Toml.Quoted
import ServiceCall.Toml.Scalar

/-!
# Settings files

A file is a sequence of lines: comments, headers that declare a table, and values under a key. Keys
may be dotted. Lists may run over several lines and end in a comma, tables between braces may not.
Values may be nested less than eighty deep, and a dotted key has less than eighty parts.
-/

namespace ServiceCall.Toml

/-- Nesting stays below this. -/
def maxDepth : Nat := 80

/-! ## Keys -/

def isBareChar (c : Char) : Bool := c.isAlphanum || c = '-' || c = '_'

/-- Reads one part of a key, and white space around it. -/
def keyPart? (cs : List Char) : Option (String × List Char) := do
  let cs := skipGaps cs
  let (part, rest) ← (string? false cs).or
    (let bare := cs.takeWhile isBareChar
     if bare.isEmpty then none else some (String.ofList bare, cs.dropWhile isBareChar))
  return (part, skipGaps rest)

/-- Reads a key of at most `count` parts. -/
def keyParts? : (count : Nat) → Reader (List String)
  | 0, _ => none
  | count + 1, cs => do
    let (part, rest) ← keyPart? cs
    match rest with
    | '.' :: rest =>
      let (parts, rest) ← keyParts? count rest
      return (part :: parts, rest)
    | _ => return ([part], rest)

/-- Reads a dotted key: the parts in front of the last one, and the last one. -/
def key? (cs : List Char) : Option ((List String × String) × List Char) := do
  let (parts, rest) ← keyParts? (maxDepth - 1) cs
  return ((parts.dropLast, parts.getLastD ""), rest)

/-! ## Values -/

/-- Passes over white space, line breaks and comments. -/
def skipLines : (bound : Nat) → List Char → List Char
  | 0, cs => cs
  | bound + 1, cs =>
    match skipComment (skipGaps cs) with
    | [] => if (skipGaps cs).isEmpty then [] else cs
    | rest =>
      match newline? rest with
      | some rest => skipLines bound rest
      | none => if rest.length = (skipGaps cs).length then rest else cs

/-- Reads the items of a list, behind its opening bracket. -/
def items? (item : Reader Toml) : (bound : Nat) → Reader (List Toml)
  | 0, _ => none
  | bound + 1, cs =>
    let cs := skipLines cs.length cs
    match cs with
    | ']' :: rest => some ([], rest)
    | _ => do
      let (v, rest) ← item cs
      match skipLines rest.length rest with
      | ',' :: rest =>
        let (vs, rest) ← items? item bound rest
        return (v :: vs, rest)
      | ']' :: rest => return ([v], rest)
      | _ => none

/-- Reads the entries of a table between braces. -/
def entries? (item : Reader Toml) : (bound : Nat) → Draft.Entries → Reader Draft.Entries
  | 0, _, _ => none
  | bound + 1, done, cs => do
    let ((path, key), rest) ← key? cs
    let (v, rest) ← item (skipGaps (← mark? '=' rest))
    let done ← Draft.addValue path key v done
    match skipGaps rest with
    | ',' :: rest => entries? item bound done rest
    | '\x7d' :: rest => return (done, rest)
    | _ => none

/-- Reads a value in which lists and tables may be nested `depth` deep. -/
def value? (depth : Nat) (cs : List Char) : Option (Toml × List Char) :=
  match cs with
  | [] => none
  | c :: rest =>
    if c = '"' || c = '\'' then (string? true cs).map fun r ↦ (.str r.1, r.2)
    else if c = '[' then
      match depth with
      | 0 => none
      | d + 1 => (items? (value? d) cs.length rest).map fun r ↦ (.list r.1, r.2)
    else if c = '\x7b' then
      match depth with
      | 0 => none
      | d + 1 =>
        match skipGaps rest with
        | '\x7d' :: rest => some (.table [], rest)
        | _ => (entries? (value? d) cs.length [] rest).map fun r ↦
          (.table (Draft.finishEntries r.1), r.2)
    else scalar cs

/-! ## Lines -/

structure Progress where
  root : Draft.Entries
  /-- The header under which lines stand. -/
  header : List String

/-- Reads a header, behind its opening bracket. -/
def header? (p : Progress) (cs : List Char) : Option (Progress × List Char) := do
  match cs with
  | '[' :: cs =>
    let ((path, key), rest) ← key? cs
    let rest ← endOfLine? (← mark? ']' (← mark? ']' rest))
    return (⟨← Draft.declareNext path key p.root, path ++ [key]⟩, rest)
  | _ =>
    let ((path, key), rest) ← key? cs
    let rest ← endOfLine? (← mark? ']' rest)
    return (⟨← Draft.declare path key p.root, path ++ [key]⟩, rest)

/-- Reads a value under its key. -/
def entry? (p : Progress) (cs : List Char) : Option (Progress × List Char) := do
  let ((path, key), rest) ← key? cs
  let (v, rest) ← value? (maxDepth - 1) (skipGaps (← mark? '=' rest))
  let rest ← endOfLine? rest
  return (⟨← Draft.addUnder p.header path key v p.root, p.header⟩, rest)

def lines? : (bound : Nat) → Progress → List Char → Option Progress
  | 0, _, _ => none
  | bound + 1, p, cs =>
    match skipGaps cs with
    | [] => some p
    | '#' :: rest => do lines? bound p (← endOfLine? ('#' :: rest))
    | '[' :: rest => do
      let (p, rest) ← header? p rest
      lines? bound p rest
    | '\n' :: rest => lines? bound p rest
    | '\r' :: rest => do lines? bound p (← newline? ('\r' :: rest))
    | cs => do
      let (p, rest) ← entry? p cs
      lines? bound p rest

/-- The entries of a settings file, if it is one. A byte order mark at its start does not count. -/
def read? (text : String) : Option (List (String × Toml)) :=
  let cs := match text.toList with
    | '\uFEFF' :: cs => cs
    | cs => cs
  (lines? (cs.length + 1) ⟨[], []⟩ cs).map fun p ↦ Draft.finishEntries p.root

end ServiceCall.Toml

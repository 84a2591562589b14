import ServiceCall.Json.Skip

/-!
# Reading records

A record has named fields in a declared order, each with the kind of value it takes. It is read
straight from the text, either from an object, whose unknown fields are passed over, or from a list
of the field values in their order. A field may have a value that stands in for it when it is left
out; where it has none, leaving it out is a fault. Giving a field of an object twice is a fault too.

Faults that concern the record as a whole are placed behind it.
-/

namespace ServiceCall.Json

/-- The kinds of values a field takes. -/
inductive Slot where
  | text
  | optionalText
  | anything
  /-- An integer of sixteen bits, or null. -/
  | optionalCode
  deriving DecidableEq

structure Field where
  name : String
  slot : Slot
  /-- What stands for the field when an object leaves it out. -/
  inObject : Option Json := none
  /-- What stands for the field when a list ends before it. -/
  inList : Option Json := none

structure Shape where
  name : String
  fields : List Field

namespace Shape

/-- Refuses the value that comes next, which is of another kind than expected. -/
def refuse {α : Type} (expected : String) (cs : List Char) : Except Fault α :=
  let here (v : Json) (rest : List Char) : Fault := .before (.wrongType (found v) expected) rest
  match cs with
  | [] => .error (.behindNext .valueExpected [])
  | c :: rest =>
    if c = 'n' then do .error (here .null (← word ['u', 'l', 'l'] rest))
    else if c = 't' then do .error (here (.bool true) (← word ['r', 'u', 'e'] rest))
    else if c = 'f' then do .error (here (.bool false) (← word ['a', 'l', 's', 'e'] rest))
    else if c = '-' then do
      let (n, rest) ← number true rest
      .error (here (.num n) rest)
    else if c.isDigit then do
      let (n, rest) ← number false cs
      .error (here (.num n) rest)
    else if c = '"' then do
      let (s, rest) ← string rest
      .error (here (.str s) rest)
    else if c = '[' then .error (here (.arr []) cs)
    else if c = '\x7b' then .error (here (.obj []) cs)
    else .error (.behindNext .valueExpected cs)

def readText : Reader Json := fun cs ↦
  match skipGaps cs with
  | [] => .error (.behindNext .endInValue [])
  | '"' :: rest => (string rest).map fun r ↦ (.str r.1, r.2)
  | cs => refuse "a string" cs

/-- Reads an integer of sixteen bits. -/
def readCode : Reader Json := fun cs ↦ do
  let expected := "u16"
  let (n, rest) ← match cs with
    | [] => .error (.behindNext .endInValue [])
    | c :: rest =>
      if c = '-' then number true rest
      else if c.isDigit then number false cs
      else refuse expected cs
  match n with
  | .real _ => .error (.before (.wrongType (found (.num n)) expected) rest)
  | .int i =>
    if 0 ≤ i ∧ i < 65536 then .ok (.int i, rest)
    else .error (.before (.wrongValue (found (.num n)) expected) rest)

/-- Reads null, or what the reader reads. -/
def orNull (r : Reader Json) : Reader Json := fun cs ↦
  match skipGaps cs with
  | 'n' :: rest => (word ['u', 'l', 'l'] rest).map fun rest ↦ (.null, rest)
  | cs => r cs

/-- Reads the value of a field; the record itself is one level of nesting. -/
def readSlot : Slot → Reader Json
  | .text => readText
  | .optionalText => orNull readText
  | .anything => value (maxDepth - 1)
  | .optionalCode => orNull readCode

/-! ## From a list -/

/-- The end of a list behind the last field. -/
def closeList (cs : List Char) : Except Fault (List Char) :=
  match skipGaps cs with
  | [] => .error (.behindNext .endInList [])
  | ']' :: rest => .ok rest
  | ',' :: rest =>
    match skipGaps rest with
    | ']' :: rest => .error (.behindNext .trailingComma (']' :: rest))
    | rest => .error (.behindNext .trailingCharacters rest)
  | rest => .error (.behindNext .trailingCharacters rest)

/-- The values that stand for fields which a list leaves out. -/
def restOfList (expected : String) (rest : List Char) : (index : Nat) → List Field →
    Except Fault (List Json)
  | _, [] => .ok []
  | index, f :: fields =>
    match f.inList with
    | none => .error (.before (.wrongLength index expected) rest)
    | some v => (restOfList expected rest (index + 1) fields).map (v :: ·)

def listFrom (expected : String) : (index : Nat) → List Field → Reader (List Json)
  | _, [], cs => (closeList cs).map fun rest ↦ ([], rest)
  | index, f :: fields, cs => do
    match ← nextItem (index = 0) cs with
    | (none, rest) => return (← restOfList expected rest index (f :: fields), rest)
    | (some cs, _) =>
      let (v, rest) ← readSlot f.slot cs
      let (vs, rest) ← listFrom expected (index + 1) fields rest
      return (v :: vs, rest)

/-! ## From an object -/

/-- Where the fault of a record stands when a key was the last thing read. -/
def behindKey (cs : List Char) : List Char :=
  match skipGaps cs with
  | '\x7d' :: rest => rest
  | rest => rest

/-- Reads fields up to the closing brace; `done` holds the known ones. -/
def objectFrom (fields : List Field) : (bound : Nat) → (first : Bool) → (done : Table Json) →
    Reader (Table Json)
  | 0, _, _, _ => .error (.before .endInObject [])
  | bound + 1, first, done, cs =>
    match nextKey first cs with
    | .error f => .error f
    | .ok (none, rest) => .ok (done, rest)
    | .ok (some key, rest) =>
      match fields.find? (·.name = key) with
      | none =>
        match colon rest with
        | .error f => .error f
        | .ok rest =>
          match skipValue rest with
          | .error f => .error f
          | .ok rest => objectFrom fields bound false done rest
      | some field =>
        if done.contains key then .error (.before (.duplicateField key) (behindKey rest))
        else
          match colon rest with
          | .error f => .error f
          | .ok rest =>
            match readSlot field.slot rest with
            | .error f => .error f
            | .ok (v, rest) => objectFrom fields bound false (done.insert key v) rest

/-- The values of all fields in declared order. -/
def collect (done : Table Json) (rest : List Char) : List Field → Except Fault (List Json)
  | [] => .ok []
  | f :: fields =>
    match (done.get? f.name).or f.inObject with
    | none => .error (.before (.missingField f.name) rest)
    | some v => (collect done rest fields).map (v :: ·)

/-! ## Whole texts -/

def expectation (shape : Shape) : String := "struct " ++ shape.name

def readRecord (shape : Shape) : Reader (List Json) := fun cs ↦
  match skipGaps cs with
  | [] => .error (.behindNext .endInValue [])
  | '[' :: rest =>
    listFrom (shape.expectation ++ " with " ++
      String.ofList (Number.digits shape.fields.length) ++ " elements") 0 shape.fields rest
  | '\x7b' :: rest => do
    let (done, rest) ← objectFrom shape.fields (rest.length + 1) true .empty rest
    return (← collect done rest shape.fields, rest)
  | cs => refuse shape.expectation cs

/-- The values of the fields, in declared order, of the record that the text holds. -/
def read (shape : Shape) (text : String) : Except Fault (List Json) := do
  let (vs, rest) ← shape.readRecord text.toList
  finish rest
  return vs

end Shape

end ServiceCall.Json

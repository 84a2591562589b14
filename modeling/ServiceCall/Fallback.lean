import ServiceCall.Args
import ServiceCall.Text.Upper

/-!
# Credentials from the environment

A credential that the caller left out is looked up under a name made of the service and the
argument. What the caller supplied is never replaced, and an empty value fills nothing.
-/

namespace ServiceCall.Fallback

/-- Answers what is known under a name. -/
abbrev Lookup := String → Option String

/-- The name of the variable for an argument of a service. -/
def variableName (service field : String) : String :=
  "RELAYCALL_" ++ Text.upper service ++ "_" ++ Text.upper field

/-- The value found for an argument; an empty one counts as none. -/
def find? (lookup : Lookup) (service field : String) : Option String :=
  (lookup (variableName service field)).filter (· ≠ "")

/-- Fills one argument, and tells whether it did. -/
def fillField (lookup : Lookup) (service : String) (args : Args) (field : String) : Args × Bool :=
  if args.isPresent field then (args, false)
  else
    match find? lookup service field with
    | none => (args, false)
    | some value => (args.insert field (.str value), true)

/-- Fills the arguments that are not present, and counts how many it filled. -/
def fill (lookup : Lookup) (service : String) : (fields : List String) → Args → Args × Nat
  | [], args => (args, 0)
  | field :: fields, args =>
    let (args, filled) := fillField lookup service args field
    let (args, count) := fill lookup service fields args
    (args, if filled then count + 1 else count)

end ServiceCall.Fallback

import ServiceCall.Json.Fault

/-!
# Request methods

The five methods a call may use. They are written in capitals, in requests as in JSON texts.
-/

namespace ServiceCall.Http

inductive Method where
  | get
  | post
  | put
  | patch
  | delete
  deriving DecidableEq

namespace Method

def all : List Method := [get, post, put, patch, delete]

def name : Method → String
  | get => "GET"
  | post => "POST"
  | put => "PUT"
  | patch => "PATCH"
  | delete => "DELETE"

def ofName? (s : String) : Option Method := all.find? (·.name = s)

/-- The name used in descriptions. -/
def describe : Method → String
  | get => "Get"
  | post => "Post"
  | put => "Put"
  | patch => "Patch"
  | delete => "Delete"

theorem ofName?_name (m : Method) : ofName? m.name = some m := by cases m <;> decide

def ofNameOr (s : String) : Except Json.Cause Method :=
  match ofName? s with
  | some m => .ok m
  | none => .error (.unknownName s (all.map name))

/-- Reads a method from its name, or from an object with the name as its only key and nothing under
it. -/
def ofJson : Json → Except Json.Cause Method
  | .str s => ofNameOr s
  | .obj [(key, value)] => do
    let m ← ofNameOr key
    match value with
    | .null => return m
    | v => .error (.wrongType (Json.found v) "unit")
  | .obj _ => .error (.wrongValue "map" "map with a single key")
  | v => .error (.wrongType (Json.found v) "string or map")

end Method

end ServiceCall.Http

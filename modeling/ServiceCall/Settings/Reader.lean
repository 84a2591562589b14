import ServiceCall.Failure
import ServiceCall.Settings
import ServiceCall.Toml.Document

/-!
# Reading settings

Settings are read by name from tables, or by position from lists. Names that mean nothing here are
passed over, but what means something must have the right kind. A moment in time counts as a table
without any name that is known.
-/

namespace ServiceCall.Settings

/-- The values of a record in the order of the names, as far as they are given. -/
def slots? (names : List String) : Toml → Option (List (Option Toml))
  | .table entries => some (names.map fun name ↦ entries.lookup name)
  | .moment _ => some (names.map fun _ ↦ none)
  | .list items => some (names.mapIdx fun i _ ↦ items[i]?)
  | _ => none

def text? : Toml → Option String
  | .str s => some s
  | _ => none

def count? : Toml → Option Nat
  | .int i => if 0 ≤ i then some i.toNat else none
  | _ => none

def switch? : Toml → Option Bool
  | .bool b => some b
  | _ => none

/-- A value of the right kind, or the usual one if none is given. -/
def given? {α : Type} (read : Toml → Option α) (usual : α) : Option Toml → Option α
  | none => some usual
  | some v => read v

/-- The time allowed and the name under which requests are sent. -/
def http? (usual : Settings) (v : Toml) : Option (Nat × String) := do
  match ← slots? ["timeout_secs", "user_agent"] v with
  | [timeout, userAgent] =>
    return (← given? count? usual.timeout timeout, ← given? text? usual.userAgent userAgent)
  | _ => none

def service? (v : Toml) : Option ServiceSettings := do
  match ← slots? ["base_url", "timeout_secs", "enabled"] v with
  | [base, timeout, enabled] =>
    return {
      base := ← given? (fun v ↦ (text? v).map some) none base
      timeout := ← given? (fun v ↦ (count? v).map some) none timeout
      enabled := ← given? switch? true enabled }
  | _ => none

/-- Settings for each service under its name. -/
def services? : Toml → Option (Table ServiceSettings)
  | .table entries => do
    return .ofList (← entries.mapM fun e ↦ (service? e.2).map (e.1, ·))
  | _ => none

def ofToml? (entries : List (String × Toml)) : Option Settings := do
  let usual : Settings := {}
  let (timeout, userAgent) ←
    given? (http? usual) (usual.timeout, usual.userAgent) (entries.lookup "http")
  let services ← given? services? .empty (entries.lookup "connectors")
  return { timeout, userAgent, services }

/-- Reads the text of a settings file. -/
def read (text : String) : Except Failure Settings :=
  match (Toml.read? text).bind ofToml? with
  | some s => .ok s
  | none => .error .toml

end ServiceCall.Settings

import ServiceCall.Call
import ServiceCall.Catalog
import ServiceCall.Failure
import ServiceCall.Fallback
import ServiceCall.Settings

/-!
# Registries

A registry offers connectors under their names. Of two registered under one name the later is
offered. An invocation names a connector, which is run with the settings that apply to it, after the
credentials that the caller left out have been looked up.
-/

namespace ServiceCall

structure Registry where
  connectors : Table Connector
  settings : Settings

namespace Registry

/-- A registry that offers nothing yet. -/
def start (settings : Settings) : Registry := ⟨.empty, settings⟩

def register (r : Registry) (c : Connector) : Registry :=
  { r with connectors := r.connectors.insert c.name c }

def registerAll (r : Registry) (cs : List Connector) : Registry := cs.foldl register r

/-- The whole catalog but for what the settings disable. -/
def ofCatalog (settings : Settings) : Registry :=
  (start settings).registerAll (Catalog.all.filter fun c ↦ settings.isEnabled c.name)

def get? (r : Registry) (name : String) : Option Connector := r.connectors.get? name

/-- The connector of that name. -/
def get (r : Registry) (name : String) : Except Failure Connector :=
  match r.get? name with
  | some c => .ok c
  | none => .error (.unknownConnector name)

/-- The names offered, in order. -/
def names (r : Registry) : List String := r.connectors.keys

/-- How calls to the service are made. -/
def options (r : Registry) (name : String) : CallOptions where
  timeout := r.settings.timeoutFor name
  base := r.settings.baseFor? name

/-- The arguments with the credentials that are not present looked up. -/
def withCredentials (lookup : Fallback.Lookup) (name : String) (c : Connector) (args : Args) :
    Args :=
  if c.credentialFields.all args.isPresent then args
  else (Fallback.fill lookup name c.credentialFields args).1

/-- Runs one invocation. A name that is not offered is refused. -/
def invoke {σ : Type} (r : Registry) (client : Http.Client σ) (lookup : Fallback.Lookup)
    (now : Int) (name : String) (args : Args) : StateM σ Envelope :=
  match r.get? name with
  | none => pure (.badInput (Failure.unknownConnector name).message (some "connector"))
  | some c => c.run client (r.options name) now (withCredentials lookup name c args)

@[simp] theorem connectors_register (r : Registry) (c : Connector) :
    (r.register c).connectors = r.connectors.insert c.name c := rfl

end Registry

end ServiceCall

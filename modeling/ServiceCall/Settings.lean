import ServiceCall.Table
import ServiceCall.Text.Blank

/-!
# Settings

What a settings file can say: the time allowed for requests and the name under which they are sent,
and for each service another base address, a time of its own, and whether it is offered at all.
Whatever is not said has its usual value.
-/

namespace ServiceCall

/-- Settings for one service. -/
structure ServiceSettings where
  /-- Takes the place of the address that the service computes. -/
  base : Option String := none
  /-- Seconds allowed for a request. -/
  timeout : Option Nat := none
  enabled : Bool := true
  deriving DecidableEq

structure Settings where
  /-- Seconds allowed for a request, where a service does not say otherwise. -/
  timeout : Nat := 30
  userAgent : String := "relaycall/0.1.0"
  services : Table ServiceSettings := .empty

namespace Settings

/-- Seconds allowed for a request to the service. -/
def timeoutFor (s : Settings) (name : String) : Nat :=
  ((s.services.get? name).bind (·.timeout)).getD s.timeout

/-- The base address set for the service, without slashes at its end. -/
def baseFor? (s : Settings) (name : String) : Option String :=
  ((s.services.get? name).bind (·.base)).map (Text.trimEndOf '/')

def isEnabled (s : Settings) (name : String) : Bool :=
  ((s.services.get? name).map (·.enabled)).getD true

end Settings

end ServiceCall

import ServiceCall.Envelope

/-!
# Refusals

Why a call is not made. Each cause has one wording and one envelope: a missing credential is a
matter of authorization, every other cause names the argument that is to blame.
-/

namespace ServiceCall

inductive Refusal where
  | missing (field : String)
  | invalid (field : String)
  | unsupported (operation : String)
  | noCredential (field : String)
  deriving DecidableEq

namespace Refusal

def message : Refusal → String
  | missing field => "Missing required " ++ field
  | invalid field => "Invalid " ++ field
  | unsupported operation => "Unsupported operation: " ++ operation
  | noCredential field => "Missing credentials: " ++ field

/-- The argument to blame. -/
def field : Refusal → String
  | missing field | invalid field | noCredential field => field
  | unsupported _ => "operation"

def envelope : Refusal → Envelope
  | noCredential field => .unauthorized (message (noCredential field))
  | r => .badInput r.message (some r.field)

end Refusal

end ServiceCall

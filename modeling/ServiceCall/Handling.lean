import ServiceCall.Envelope
import ServiceCall.Text.Blank

/-!
# How outcomes are reported

Every outcome of a request becomes one envelope. A service has its own wording for failures: what to
say when it could not be reached, where in the body of an error its message stands, and whether the
words of the transport are shown.

Exactly one request is sent for one envelope; nothing is tried again (`execute_eq`).
-/

namespace ServiceCall

open Http (Client Outcome Request Response)

structure Handling where
  /-- The name of the service in messages. -/
  service : String
  /-- Finds the message in the body of an error. -/
  parse? : Option (UInt16 → Json → Option String) := none
  /-- The key of the message, where `parse?` finds none. -/
  key : Option String := none
  /-- What is said when no response was received. -/
  requestError : String
  /-- Whether the words of the transport are shown. -/
  showsCause : Bool := true

namespace Handling

/-- The wording for a service that declares none of its own. -/
def ofService (service : String) : Handling where
  service
  requestError := "Failed to reach " ++ service ++ " API"

/-- The message for the body of an error. -/
def message (h : Handling) (status : UInt16) (data : Json) : String :=
  ((h.parse?.bind fun parse ↦ parse status data).or
    ((h.key.bind data.field?).bind Json.string?)).getD (h.service ++ " API error")

/-- The envelope for a response. -/
def concludeResponse (h : Handling) (r : Response) : Envelope :=
  if r.isOk && Text.isBlank r.body then .ok .null (some r.status)
  else
    match r.json? with
    | none =>
      .failure ("Invalid JSON response from " ++ h.service ++ " API") (some r.status)
        (some (.str r.body)) none
    | some data =>
      if r.isOk then .ok data (some r.status)
      else .failure (h.message r.status data) (some r.status) none (some data)

/-- The envelope for the outcome of a request. -/
def conclude (h : Handling) : Outcome → Envelope
  | .ok r => h.concludeResponse r
  | .error e =>
    .failure h.requestError e.status (if h.showsCause then some (.str e.message) else none) none

/-- Sends the request, once, and reports its outcome. -/
def execute {σ : Type} (h : Handling) (client : Client σ) (request : Request) :
    StateM σ Envelope :=
  h.conclude <$> client request

theorem execute_eq {σ : Type} (h : Handling) (client : Client σ) (request : Request) (s : σ) :
    h.execute client request s = (h.conclude (client request s).1, (client request s).2) := rfl

def describe (h : Handling) : String :=
  open Text.Description in
  record "ErrorHandling" [("service", quote h.service), ("error_parser", bool h.parse?.isSome),
    ("error_key", option (h.key.map quote)), ("request_error_message", quote h.requestError),
    ("include_exception_in_message", bool h.showsCause)] false

end Handling

/-! ## Messages in the bodies of errors -/

namespace ErrorBody

/-- The string under a key. -/
def text? (data : Json) (key : String) : Option String := (data.field? key).bind Json.string?

/-- The string under the first of two keys if that key is there at all, else under the second. -/
def textAtFirst? (data : Json) (key key' : String) : Option String :=
  ((data.field? key).or (data.field? key')).bind Json.string?

/-- The error itself when it is a string; of an object, the string under one of two keys. -/
def errorText? (key key' : String) (data : Json) : Option String :=
  match data.field? "error" with
  | some (.str s) => some s
  | some (.obj fields) => textAtFirst? (.obj fields) key key'
  | _ => none

/-- Errors with their message inside. -/
def nested? (_status : UInt16) (data : Json) : Option String := errorText? "message" "msg" data

end ErrorBody

end ServiceCall

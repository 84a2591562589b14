import ServiceCall.Json.Record
import ServiceCall.Http.Basic

/-!
# Envelopes

Every invocation ends in one envelope: an output, the status that goes with it, and sometimes the
type of the content. A failure is an output with a string under `error`; whether an envelope is an
error is read off its output and nowhere else.
-/

namespace ServiceCall

structure Envelope where
  output : Json
  status : Option UInt16
  contentType : Option String
  deriving DecidableEq

namespace Envelope

def codeJson (status : UInt16) : Json := .int status.toNat

/-! ## Making envelopes -/

def ok (output : Json) (status : Option UInt16) : Envelope := ⟨output, status, none⟩

def withContentType (e : Envelope) (contentType : String) : Envelope :=
  { e with contentType := some contentType }

/-- The entries that are there, in the order of the list. -/
def entries (l : List (String × Option Json)) : List (String × Json) :=
  l.filterMap fun e ↦ e.2.map (e.1, ·)

/-- A failure with whatever is known about it. -/
def failure (message : String) (status : Option UInt16) (details response : Option Json) :
    Envelope :=
  ok (.object (entries [("error", some (.str message)), ("status_code", status.map codeJson),
    ("details", details), ("response", response)])) status

/-- Bad or missing input, noticed before anything is sent. -/
def badInput (message : String) (field : Option String) : Envelope :=
  ok (.object (entries [("error", some (.str message)), ("field", field.map .str)])) (some 400)

/-- Missing or unusable credentials. -/
def unauthorized (message : String) : Envelope := failure message (some 401) none none

/-! ## Reading them -/

def errorMessage? (e : Envelope) : Option String := (e.output.field? "error").bind Json.string?

def isError (e : Envelope) : Bool := e.errorMessage?.isSome

/-! ## Their text -/

/-- The fields in the order in which they are written; the type of the content only when there is
one. -/
def toJson (e : Envelope) : Json :=
  .obj (entries [("output", some e.output), ("status", some ((e.status.map codeJson).getD .null)),
    ("content_type", e.contentType.map .str)])

def shape : Json.Shape where
  name := "Envelope"
  fields := [⟨"output", .anything, none, none⟩, ⟨"status", .optionalCode, some .null, none⟩,
    ⟨"content_type", .optionalText, some .null, some .null⟩]

def code? : Json → Option UInt16
  | .num (.int i) => some (UInt16.ofNat i.toNat)
  | _ => none

/-- Reads an envelope from its text. -/
def read (text : String) : Except Json.Fault Envelope := do
  match ← shape.read text with
  | [output, status, contentType] => return ⟨output, code? status, contentType.string?⟩
  | _ => .error (.before (.missingField "output") [])

end Envelope

end ServiceCall

import ServiceCall.Connector

/-!
# Calls

A call is prepared from the arguments alone: every check is made and the whole request is built
before anything is authorized or sent. A prepared call can be shown instead of being made, and what
is shown is what would be sent.

The checks come in a fixed order: the operation, the arguments that address the service, the
credentials, and then what the operation itself asks for. The first that fails decides.
-/

namespace ServiceCall

open Http (Client Content Request)

/-- A request that has passed all checks and has been neither authorized nor sent. -/
structure Call where
  operation : String
  method : Http.Method
  url : String
  params : List (String × String)
  payload : Option Payload
  credentials : Credentials

namespace Call

/-- The parameters as an object. -/
def paramsJson (params : List (String × String)) : Json :=
  .object (params.map fun p ↦ (p.1, .str p.2))

/-- The description of a call. Nothing of the credentials is shown but their kind. -/
def summary (c : Call) : Json :=
  .object (Envelope.entries [("operation", some (.str c.operation)), ("url", some (.str c.url)),
    ("method", some (.str c.method.name)), ("auth", some (.str c.credentials.scheme)),
    ("payload", c.payload.map .ofTable),
    ("params", if c.params.isEmpty then none else some (paramsJson c.params))])

def preview (c : Call) : Json := .object [("preview", c.summary)]

/-- The request for a call, with the headers that authorize it. -/
def request (c : Call) (headers : List (String × String)) (timeout : Nat) : Request where
  method := c.method
  url := c.url
  headers := headers ++ [("Accept", "application/json")]
  params := c.params
  content := match c.payload with
    | none => .empty
    | some payload => .json (.ofTable payload)
  timeout

end Call

/-- How calls to one service are made. -/
structure CallOptions where
  /-- The time allowed for each request, in seconds. -/
  timeout : Nat := 30
  /-- Takes the place of the base address. -/
  base : Option String := none

namespace Connector

def needField (args : Args) (field : String) : Except Refusal Unit :=
  if args.isPresent field then .ok () else .error (.missing field)

def needCredential (args : Args) (field : String) : Except Refusal Unit :=
  if args.isPresent field then .ok () else .error (.noCredential field)

/-- The base of the address, with slashes cut off the end of one that is given. -/
def baseUrl (c : Connector) (base : Option String) (args : Args) : String :=
  match base with
  | some b => Text.trimEndOf '/' b
  | none => c.base.render args

/-- Makes all checks and builds the call. -/
def prepare (c : Connector) (base : Option String) (args : Args) : Except Refusal Call :=
  match args.text? "operation" with
  | none => .error (.missing "operation")
  | some name =>
    match c.operations.get? name with
    | none => .error (.unsupported name)
    | some op => do
      checkEach (needField args) c.connectionFields
      checkEach (needCredential args) c.credentialFields
      op.check args
      return {
        operation := name
        method := op.method
        url := c.baseUrl base args ++ Piece.renderAll args op.path
        params := op.params args
        payload := op.payload args
        credentials := c.credentials.read args }

/-- Authorizes the call and makes it. -/
def send {σ : Type} (c : Connector) (client : Client σ) (timeout : Nat) (now : Int) (call : Call) :
    StateM σ Envelope := do
  match ← call.credentials.authorize client timeout now with
  | .error fault => return .unauthorized fault.message
  | .ok headers => c.handling.execute client (call.request headers timeout)

/-- Whether a call is only to be shown. -/
def isDryRun (args : Args) : Bool := args.flag "dry_run"

/-- Runs one invocation: refuses it, shows it, or makes it. -/
def run {σ : Type} (c : Connector) (client : Client σ) (options : CallOptions) (now : Int)
    (args : Args) : StateM σ Envelope :=
  match c.prepare options.base args with
  | .error refusal => pure refusal.envelope
  | .ok call =>
    if isDryRun args then pure (.ok call.preview none)
    else c.send client options.timeout now call

end Connector

end ServiceCall

import ServiceCall.ServiceAccount.Token
import ServiceCall.Args

/-!
# Credentials

Three ways to prove who is calling: a user name with a password, a token, or the key of a service
account, which has to be exchanged for a token first. All of them end in one header.
-/

namespace ServiceCall

inductive Credentials where
  | basic (username password : String)
  | bearer (token : String)
  | serviceAccount (keyText : String) (scopes : List String) (subject : Option String)
  deriving DecidableEq

namespace Credentials

/-- The name under which a preview shows the way of authorizing. -/
def scheme : Credentials → String
  | basic .. => "basic"
  | bearer _ => "bearer"
  | serviceAccount .. => "google_service_account"

def basicHeader (username password : String) : String :=
  "Basic " ++ String.ofList
    (Encoding.Base64.standard.encode (Encoding.utf8 (username ++ ":" ++ password)))

def bearerHeader (token : String) : String := "Bearer " ++ token

/-- The headers that authorize a request. Only a service account needs the client for them. -/
def authorize {σ : Type} (client : Http.Client σ) (timeout : Nat) (now : Int) :
    Credentials → StateM σ (Except AuthFault (List (String × String)))
  | basic username password => pure (.ok [("Authorization", basicHeader username password)])
  | bearer token => pure (.ok [("Authorization", bearerHeader token)])
  | serviceAccount keyText scopes subject => do
    let token ← ServiceAccount.Token.fetch client keyText scopes subject timeout now
    return token.map fun t ↦ [("Authorization", bearerHeader t)]

/-- Secrets are left out or blotted out. -/
def describe : Credentials → String :=
  open Text.Description in
  let secret := quote "<redacted>"
  fun
  | basic username _ => record "Basic" [("username", quote username), ("password", secret)] false
  | bearer _ => record "Bearer" [("token", secret)] false
  | serviceAccount _ scopes subject =>
    record "GoogleServiceAccount" [("scopes", list (scopes.map quote)),
      ("subject", option (subject.map quote))] true

/-! ## Where credentials come from -/

/-- Which arguments hold the credentials of a service. -/
inductive Source where
  /-- A user name, to which fixed text is added, and a password. -/
  | basic (username ending password : String)
  | bearer (token : String)
  /-- The key of a service account, as text or as an object, with the scopes to ask for. -/
  | serviceAccount (key : String) (scopes : List String) (subject : String)
  deriving DecidableEq

/-- The text of a key that may be given as text or as an object. -/
def keyText (args : Args) (arg : String) : String :=
  match args.present? arg with
  | some (.str s) => s
  | some v => v.compact
  | none => ""

def Source.read (args : Args) : Source → Credentials
  | basic username ending password =>
    .basic (args.textOr username "" ++ ending) (args.textOr password "")
  | bearer token => .bearer (args.textOr token "")
  | serviceAccount key scopes subject =>
    .serviceAccount (keyText args key) scopes (args.text? subject)

def Source.reads : Source → List String
  | basic username _ password => [username, password]
  | bearer token => [token]
  | serviceAccount key _ subject => [key, subject]

end Credentials

end ServiceCall

import ServiceCall.Http.Basic
import ServiceCall.ServiceAccount.Assertion

/-!
# Access tokens

An assertion is exchanged for a token with one request. A token counts only when the answer is a
success and the token is not empty; in every other case the answer is searched for a reason.
-/

namespace ServiceCall

/-- Why credentials could not be turned into a header. -/
inductive AuthFault where
  | missing (field : String)
  | badAccount (reason : String)
  | signing (fault : Signature.KeyFault)
  | exchange (reason : String)
  deriving DecidableEq

def AuthFault.message : AuthFault → String
  | missing field => "Missing credentials: " ++ field
  | badAccount reason => "Invalid service account JSON: " ++ reason
  | signing fault => "Failed to sign token request: " ++ fault.message
  | exchange reason => "Token exchange failed: " ++ reason

namespace ServiceAccount

open Http (Client Outcome Request Response)

namespace Token

def grant : String := "urn:ietf:params:oauth:grant-type:jwt-bearer"

def request (tokenUri assertion : String) (timeout : Nat) : Request where
  method := .post
  url := tokenUri
  headers := []
  params := []
  content := .form [("grant_type", grant), ("assertion", assertion)]
  timeout

def shape : Json.Shape where
  name := "TokenResponse"
  fields := ["access_token", "error", "error_description"].map
    (⟨·, .optionalText, some .null, none⟩)

/-- Token, error and description of an answer, as far as they are given. -/
def read? (body : String) : Option (Option String × Option String × Option String) :=
  match shape.read body with
  | .ok [token, error, description] => some (token.string?, error.string?, description.string?)
  | _ => none

def statusText (status : UInt16) : String :=
  "HTTP " ++ String.ofList (Number.digits status.toNat)

/-- The token that an answer grants. -/
def ofResponse (r : Response) : Except AuthFault String :=
  match read? r.body with
  | none =>
    .error (.exchange ("token endpoint returned non-JSON body (" ++ statusText r.status ++ ")"))
  | some (token, error, description) =>
    match token.filter fun t ↦ r.isOk && t ≠ "" with
    | some t => .ok t
    | none => .error (.exchange ((description.or error).getD (statusText r.status)))

def ofOutcome : Outcome → Except AuthFault String
  | .error e => .error (.exchange e.message)
  | .ok r => ofResponse r

/-- The key and the signed assertion with which a token is asked for. -/
def prepare (keyText : String) (scopes : List String) (subject : Option String) (now : Int) :
    Except AuthFault (Key × String) := do
  let key ← (Key.read keyText).mapError .badAccount
  let assertion ← (Assertion.make key scopes subject now).mapError .signing
  return (key, assertion)

theorem prepare_eq_ok_iff {keyText : String} {scopes : List String} {subject : Option String}
    {now : Int} {key : Key} {assertion : String} :
    prepare keyText scopes subject now = .ok (key, assertion) ↔
      Key.read keyText = .ok key ∧ Assertion.make key scopes subject now = .ok assertion := by
  have hprepare : prepare keyText scopes subject now
      = match Key.read keyText with
        | .error reason => .error (.badAccount reason)
        | .ok key =>
          match Assertion.make key scopes subject now with
          | .error fault => .error (.signing fault)
          | .ok assertion => .ok (key, assertion) := by
    unfold prepare
    cases Key.read keyText with
    | error reason => rfl
    | ok key =>
      change (Assertion.make key scopes subject now).mapError _ >>= _ = _
      dsimp only
      cases Assertion.make key scopes subject now <;> rfl
  rw [hprepare]
  constructor
  · intro h
    split at h
    · cases h
    · rename_i key' hkey
      split at h
      · cases h
      · rename_i assertion' hassertion
        cases h
        exact ⟨hkey, hassertion⟩
  · rintro ⟨hkey, hassertion⟩
    simp only [hkey, hassertion]

/-- Asks for a token, with one request unless the key is of no use. -/
def fetch {σ : Type} (client : Client σ) (keyText : String) (scopes : List String)
    (subject : Option String) (timeout : Nat) (now : Int) : StateM σ (Except AuthFault String) :=
  match prepare keyText scopes subject now with
  | .error fault => pure (.error fault)
  | .ok (key, assertion) => ofOutcome <$> client (request key.tokenUri assertion timeout)

end Token

end ServiceAccount

end ServiceCall

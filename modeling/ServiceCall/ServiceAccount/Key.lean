import ServiceCall.Json.Record
import ServiceCall.Text.Blank

/-!
# Service account keys

The key of a service account is a JSON record: whose it is, the private key, where tokens are asked
for, and perhaps the project it belongs to. The address for tokens has a usual value and may be left
out.
-/

namespace ServiceCall.ServiceAccount

structure Key where
  clientEmail : String
  privateKey : String
  tokenUri : String
  projectId : Option String
  deriving DecidableEq

namespace Key

def usualTokenUri : String := "https://oauth2.googleapis.com/token"

def shape : Json.Shape where
  name := "ServiceAccountKey"
  fields := [⟨"client_email", .text, none, none⟩, ⟨"private_key", .text, none, none⟩,
    ⟨"token_uri", .text, some (.str usualTokenUri), some (.str usualTokenUri)⟩,
    ⟨"project_id", .optionalText, some .null, some .null⟩]

def blankMessage : String := "client_email and private_key must not be empty"

/-- Reads a key; what is wrong with its text is told in words. -/
def read (text : String) : Except String Key :=
  match shape.read text with
  | .error f => .error (f.message text)
  | .ok [.str clientEmail, .str privateKey, .str tokenUri, projectId] =>
    if Text.isBlank clientEmail || Text.isBlank privateKey then .error blankMessage
    else .ok ⟨clientEmail, privateKey, tokenUri, projectId.string?⟩
  | .ok _ => .error blankMessage

/-- The private key is not shown. -/
def describe (key : Key) : String :=
  open Text.Description in
  record "ServiceAccountKey" [("client_email", quote key.clientEmail),
    ("token_uri", quote key.tokenUri), ("project_id", option (key.projectId.map quote))] true

end Key

end ServiceCall.ServiceAccount

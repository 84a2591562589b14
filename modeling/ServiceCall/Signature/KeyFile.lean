import ServiceCall.Signature.Armor
import ServiceCall.Signature.Rsa

/-!
# Key files

A private key comes as armoured text. The label says how the key is packed: bare, or wrapped
together with an identifier of the scheme that it belongs to.
-/

namespace ServiceCall.Signature

open Encoding (Bytes)

/-- Why a text could not be used to sign. -/
inductive KeyFault where
  | format
  /-- A wrapped key without a key inside. -/
  | noKey
  | flawed (flaw : Rsa.Flaw)
  | unusable
  deriving DecidableEq

def KeyFault.message : KeyFault → String
  | format => "InvalidKeyFormat"
  | noKey => "InvalidEcdsaKey"
  | flawed flaw => "RSA key invalid: " ++ flaw.message
  | unusable => "RsaFailedSigning"

namespace KeyFile

def factoring : List Nat := [1, 2, 840, 113549, 1, 1, 1]

/-- The identifiers of the schemes that a wrapped key may belong to; only keys of the first are of
use here. -/
def schemes : List (List Nat) := [factoring, [1, 2, 840, 10045, 2, 1], [1, 3, 101, 112]]

/-- The bytes of the key in armoured text. -/
def content (text : String) : Except KeyFault Bytes := do
  let some armor := Armor.read? text | throw .format
  let some values := Der.Value.readAll? armor.content | throw .format
  if armor.label = "RSA PRIVATE KEY" ∨ armor.label = "RSA PUBLIC KEY" then return armor.content
  else if ["PRIVATE KEY", "PUBLIC KEY", "CERTIFICATE"].contains armor.label then
    if Der.identifierIn? schemes values ≠ some factoring then throw .format
    match Der.stringIn? values with
    | some bytes => return bytes
    | none => throw .noKey
  else throw .format

end KeyFile

/-- Signs a message with the private key that the text holds. -/
def sign (keyText : String) (message : Bytes) : Except KeyFault Bytes := do
  let content ← KeyFile.content keyText
  match Rsa.read content with
  | .error flaw => throw (.flawed flaw)
  | .ok key =>
    match Rsa.sign? key message with
    | some signature => return signature
    | none => throw .unusable

end ServiceCall.Signature

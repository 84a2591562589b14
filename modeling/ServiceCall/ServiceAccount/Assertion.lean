import ServiceCall.ServiceAccount.Key
import ServiceCall.Json.Printer
import ServiceCall.Signature.KeyFile

/-!
# Signed assertions

With an assertion a service account asks for a token: it says who asks, for which scopes, of whom,
and from when until when it holds. It has three parts, a header, the claims and the signature over
both, each in the alphabet of addresses and joined by dots.
-/

namespace ServiceCall.ServiceAccount

structure Claims where
  issuer : String
  scope : String
  audience : String
  issuedAt : Int
  expires : Int
  /-- The user in whose name the account acts. -/
  subject : Option String
  deriving DecidableEq

namespace Claims

/-- How long an assertion holds, in seconds. -/
def lifetime : Int := 3600

def forKey (key : Key) (scopes : List String) (subject : Option String) (now : Int) : Claims where
  issuer := key.clientEmail
  scope := String.intercalate " " scopes
  audience := key.tokenUri
  issuedAt := now
  expires := now + lifetime
  subject

def toJson (c : Claims) : Json :=
  .obj ([("iss", .str c.issuer), ("scope", .str c.scope), ("aud", .str c.audience),
    ("iat", .int c.issuedAt), ("exp", .int c.expires)] ++
      (c.subject.map fun s ↦ ("sub", .str s)).toList)

end Claims

namespace Assertion

open Encoding (utf8)

def header : Json := .obj [("typ", .str "JWT"), ("alg", .str "RS256")]

/-- The written form of one part. -/
def part (bytes : Encoding.Bytes) : String := String.ofList (Encoding.Base64.urlSafe.encode bytes)

def jsonPart (v : Json) : String := part (utf8 v.compact)

/-- Header and claims, which are what is signed. -/
def message (c : Claims) : String := jsonPart header ++ "." ++ jsonPart c.toJson

/-- The assertion for a key, valid from `now`, in seconds. -/
def make (key : Key) (scopes : List String) (subject : Option String) (now : Int) :
    Except Signature.KeyFault String := do
  let text := message (.forKey key scopes subject now)
  let signature ← Signature.sign key.privateKey (utf8 text)
  return text ++ "." ++ part signature

end Assertion

end ServiceCall.ServiceAccount

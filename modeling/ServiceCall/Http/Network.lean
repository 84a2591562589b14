import ServiceCall.Encoding.Base64
import ServiceCall.Http.Basic
import ServiceCall.Json.Printer
import ServiceCall.Text.Blank
import ServiceCall.Url.Reader

/-!
# The client for the network

A request is first made into a message that can be sent at all: its address must be one of a web
server, and its headers must fit on lines of their own. The message then goes to the server that the
address names.

What becomes of the answer is up to the library that sends messages. It may report the answer, or
follow it and send another message, so that one request becomes several. The library is a parameter
here (`Redirection`): nothing of how it follows answers is settled, not even whether it does. What
is relied upon is asked for by the theorems that rely on it.
-/

namespace ServiceCall.Http

/-- A request as it goes to a server. -/
structure Message where
  method : Method
  url : Url
  headers : List (String × String)
  body : Option String
  deriving DecidableEq

/-- What comes back from a server. The body is missing when it broke off. -/
structure Answer where
  status : UInt16
  location : Option String
  body : Option String
  deriving DecidableEq

/-- What is made of an answer. -/
inductive Reaction where
  /-- The answer is what the request comes to. -/
  | report
  /-- The request fails in spite of the answer. -/
  | fail (failure : TransportFailure)
  /-- The answer leads to another message. -/
  | send (m : Message)
  deriving DecidableEq

/-- How a library follows answers that point elsewhere. -/
structure Redirection where
  /-- How many times one request may be led on to another message. -/
  limit : Nat
  /-- What is made of an answer to a message, below the limit. -/
  react : Message → Answer → Reaction
  /-- Why the request fails in spite of an answer at the limit, if it does. -/
  refuse? : Message → Answer → Option TransportFailure

/-- A library that reports every answer. -/
def Redirection.never : Redirection := ⟨0, fun _ _ ↦ .report, fun _ _ ↦ none⟩

/-- What carries messages: all servers that there are, each of which answers a message or cannot be
reached, and a library that follows their answers. -/
structure Transport (σ : Type) where
  deliver : Message → StateM σ (Option Answer)
  redirection : Redirection

namespace Network

/-! ## What can be sent -/

/-- Characters of header names. -/
def isNameChar (c : Char) : Bool := c.isAlphanum || "!#$%&'*+-.^_`|~".toList.contains c

def isName (s : String) : Bool := s ≠ "" && s.toList.all isNameChar

/-- Header values have no controls but the tab. -/
def isValue (s : String) : Bool := s.toList.all fun c ↦ c = '\t' || (' ' ≤ c && c ≠ '\x7f')

/-- The longest address that fits into the first line of a message. -/
def maxAddress : Nat := 65534

/-- Whether a request can be made to the address. -/
def isWebAddress (u : Url) : Bool :=
  (u.scheme = "http" || u.scheme = "https") && u.text.utf8ByteSize ≤ maxAddress &&
    !(u.host.getD "").toList.any ['"', '`', '\x7b', '\x7d'].contains

def noted (what : String) (u : Url) : TransportFailure :=
  ⟨what ++ " for url (" ++ u.text ++ ")", none⟩

def unbuildable : TransportFailure := ⟨"builder error", none⟩

/-- The text that a part of an address stands for. -/
def decoded? (s : String) : Option String :=
  Encoding.ofUtf8? (Encoding.Percent.decode s.toList)

/-- The address without user and password, and the header that they become. They stay in the address
if the name is not text, or if there is neither a name nor a password that is text. -/
def splitUser (u : Url) : Url × List (String × String) :=
  match decoded? u.username with
  | none => (u, [])
  | some name =>
    let password := if u.password = "" then none else decoded? u.password
    if name = "" ∧ password = none then (u, [])
    else
      let secret := Encoding.utf8 (name ++ ":" ++ password.getD "")
      (u.anonymous, [("authorization",
        "Basic " ++ String.ofList (Encoding.Base64.standard.encode secret))])

/-- Body and type of what a request carries. -/
def content : Content → Option (String × String)
  | .empty => none
  | .json v => some (v.compact, "application/json")
  | .form pairs => some (Encoding.Percent.formPairs pairs, "application/x-www-form-urlencoded")

/-- Adds a header unless there is one of that name. -/
def addMissing (headers : List (String × String)) (name value : String) : List (String × String) :=
  if headers.any (·.1 = name) then headers else headers ++ [(name, value)]

/-- All headers of a message, with names in lower case. -/
def headers (userAgent : Option String) (fromUser : List (String × String)) (r : Request) :
    List (String × String) :=
  let own := fromUser ++ r.headers.map fun h ↦ (Text.asciiLower h.1, h.2)
  let typed := match content r.content with
    | none => own
    | some (_, type) => addMissing own "content-type" type
  let named := match userAgent with
    | none => typed
    | some name => addMissing typed "user-agent" name
  addMissing named "accept" "*/*"

/-- The message for a request. -/
def message (userAgent : Option String) (r : Request) : Except TransportFailure Message :=
  match Url.read? r.url with
  | none => .error unbuildable
  | some u =>
    if u.host.getD "" = "" then .error (noted "builder error" u)
    else
      let (u, fromUser) := splitUser u
      if !r.headers.all (fun h ↦ isName h.1 && isValue h.2) then .error unbuildable
      else
        let u := u.withParams r.params
        if !isWebAddress u then .error (noted "builder error" u)
        else .ok ⟨r.method, u, headers userAgent fromUser r, (content r.content).map (·.1)⟩

/-! ## Sending -/

/-- The response for the last answer. -/
def conclude (a : Answer) : Outcome :=
  match a.body with
  | some body => .ok ⟨a.status, body⟩
  | none => .error ⟨"error decoding response body", some a.status⟩

/-- Sends a message, and what its answer leads to, which may lead on as many times as are left. -/
def follow {σ : Type} (transport : Transport σ) : (left : Nat) → Message → StateM σ Outcome
  | left, m => do
    match ← transport.deliver m with
    | none => return .error (noted "error sending request" m.url)
    | some a =>
      match left with
      | 0 => return ((transport.redirection.refuse? m a).elim (conclude a) .error)
      | left + 1 =>
        match transport.redirection.react m a with
        | .report => return conclude a
        | .fail failure => return .error failure
        | .send m => follow transport left m

/-- The client over a transport, which names itself if it has a name. -/
def client {σ : Type} (userAgent : Option String) (transport : Transport σ) : Client σ := fun r ↦
  match message userAgent r with
  | .error failure => pure (.error failure)
  | .ok m => follow transport transport.redirection.limit m

/-- A transport over which no server can be reached. -/
def unreachable : Transport Unit := ⟨fun _ ↦ pure none, .never⟩

end Network

end ServiceCall.Http

import ServiceCall.Encoding.Percent
import ServiceCall.Json.Number

/-!
# Addresses as values

An address in the form in which requests are made: its parts, each already percent encoded as its
place asks for. What is written in other ways, with dots to be resolved or letters to be lowered,
is settled when an address is read, so that two addresses that are written alike are equal.
-/

namespace ServiceCall

/-- What follows the authority. -/
inductive Url.Path where
  /-- Text in which slashes have no meaning. -/
  | plain (text : String)
  /-- Segments, each behind a slash. -/
  | segments (list : List String)
  deriving DecidableEq

structure Url where
  scheme : String
  username : String := ""
  /-- Empty when there is none. -/
  password : String := ""
  host : Option String := none
  /-- Left out when it is the usual one of the scheme. -/
  port : Option Nat := none
  path : Url.Path := .segments []
  query : Option String := none
  fragment : Option String := none
  deriving DecidableEq

namespace Url

/-! ## Schemes -/

/-- Schemes with an authority, and their usual ports. -/
def usualPorts : List (String × Nat) :=
  [("http", 80), ("https", 443), ("ws", 80), ("wss", 443), ("ftp", 21)]

/-- Special schemes read a backslash as a slash and always have a path. -/
def isSpecial (scheme : String) : Bool := scheme = "file" || (usualPorts.lookup scheme).isSome

/-! ## Printing -/

def decimal (n : Nat) : String := String.ofList (Number.digits n)

def Path.text : Path → String
  | plain text => text
  | segments list => String.join (list.map ("/" ++ ·))

/-- User name and password in front of the host. -/
def userInfo (u : Url) : String :=
  if u.username = "" ∧ u.password = "" then ""
  else u.username ++ (if u.password = "" then "" else ":" ++ u.password) ++ "@"

def authority (u : Url) : String :=
  match u.host with
  | none => ""
  | some host =>
    "//" ++ u.userInfo ++ host ++ ((u.port.map fun p ↦ ":" ++ decimal p).getD "")

/-- A mark that keeps a path which starts with two slashes from being read as an authority. -/
def pathMark (u : Url) : String :=
  match u.host, u.path with
  | none, .segments ("" :: _ :: _) => "/."
  | _, _ => ""

def text (u : Url) : String :=
  u.scheme ++ ":" ++ u.authority ++ u.pathMark ++ u.path.text ++
    ((u.query.map ("?" ++ ·)).getD "") ++ ((u.fragment.map ("#" ++ ·)).getD "")

/-! ## Changing parts -/

/-- Adds parameters behind those that are already in the query. -/
def withParams (u : Url) (params : List (String × String)) : Url :=
  if params.isEmpty then u
  else
    let more := Encoding.Percent.formPairs params
    { u with query := some (match u.query with
        | none | some "" => more
        | some q => q ++ "&" ++ more) }

/-- The address without user name and password. -/
def anonymous (u : Url) : Url := { u with username := "", password := "" }

/-! ## What has to be encoded where -/

/-- Controls, and everything outside ASCII. -/
def isControl (c : Char) : Bool := c < ' ' || '~' < c

def inFragment (c : Char) : Bool := isControl c || [' ', '"', '<', '>', '`'].contains c

def inQuery (special : Bool) (c : Char) : Bool :=
  isControl c || [' ', '"', '#', '<', '>'].contains c || (special && c = '\'')

def inPath (c : Char) : Bool := inFragment c || ['#', '?', '\x7b', '\x7d'].contains c

def inUserInfo (c : Char) : Bool :=
  inPath c || ['/', ':', ';', '=', '@', '[', '\\', ']', '^', '|'].contains c

/-- Percent encodes the characters of which the predicate holds. -/
def encode (must : Char → Bool) (cs : List Char) : String :=
  String.ofList (cs.flatMap fun c ↦
    if must c then (String.utf8EncodeChar c).flatMap Encoding.Percent.escape else [c])

end Url

end ServiceCall

import ServiceCall.Text.Blank
import ServiceCall.Url.Host

/-!
# Reading addresses

An address is read leniently: white space around it and line breaks within it do not count, special
schemes take backslashes for slashes, and segments of one or two dots are resolved. It must start
with a scheme.
-/

namespace ServiceCall.Url

def isOuterSpace (c : Char) : Bool := c ≤ ' '

def isDropped (c : Char) : Bool := c = '\t' || c = '\n' || c = '\r'

/-- The characters that count. -/
def significant (s : String) : List Char :=
  (((s.toList.dropWhile isOuterSpace).reverse.dropWhile isOuterSpace).reverse).filter
    fun c ↦ !isDropped c

/-- Reads a scheme and the colon behind it. -/
def scheme? (cs : List Char) : Option (String × List Char) :=
  let name := cs.takeWhile fun c ↦ c.isAlphanum || c = '+' || c = '-' || c = '.'
  match name, cs.drop name.length with
  | c :: _, ':' :: rest =>
    if c.isAlpha then some (String.ofList (name.map Char.toLower), rest) else none
  | _, _ => none

def isSlash (special : Bool) (c : Char) : Bool := c = '/' || (special && c = '\\')

/-! ## Behind the path -/

/-- Reads what follows a question mark or a number sign. -/
def withTail (u : Url) (cs : List Char) : Url :=
  match cs with
  | '?' :: rest =>
    let query := rest.takeWhile (· ≠ '#')
    let u := { u with query := some (encode (inQuery (isSpecial u.scheme)) query) }
    match rest.dropWhile (· ≠ '#') with
    | '#' :: fragment => { u with fragment := some (encode inFragment fragment) }
    | _ => u
  | '#' :: fragment => { u with fragment := some (encode inFragment fragment) }
  | _ => u

/-- The end of a path. -/
def isPathEnd (c : Char) : Bool := c = '?' || c = '#'

/-! ## Paths -/

def isDot (s : String) : Bool := [".", "%2e"].contains (Text.asciiLower s)

def isTwoDots (s : String) : Bool :=
  ["..", ".%2e", "%2e.", "%2e%2e"].contains (Text.asciiLower s)

/-- Whether a text starts with a letter and a colon or a bar, as the names of drives do. -/
def startsWithDrive : List Char → Bool
  | c :: d :: _ => c.isAlpha && (d = ':' || d = '|')
  | _ => false

def isDrive (cs : List Char) : Bool := startsWithDrive cs && cs.length = 2

/-- A drive is not left, also where a backslash follows its name. -/
def isKept (s : String) : Bool :=
  isDrive s.toList || (startsWithDrive s.toList && s.toList[2]? = some '\\')

/-- The segments in reverse without the last one. -/
def withoutLast : List String → List String
  | s :: done => if isKept s then s :: done else done
  | [] => []

/-- The name of a drive at the start of the path of a file has a colon. -/
def named (isFile : Bool) (done : List String) (s : String) : String :=
  if isFile && done.isEmpty && isDrive s.toList then String.ofList (s.toList.take 1 ++ [':']) else s

/-- Resolves segments of dots; `done` holds the segments so far in reverse. -/
def resolve (isFile : Bool) (done : List String) : List String → List String
  | [] => done.reverse
  | s :: rest =>
    if isTwoDots s || isDot s then
      let done := if isTwoDots s then withoutLast done else done
      if rest.isEmpty then ("" :: done).reverse else resolve isFile done rest
    else resolve isFile (named isFile done s :: done) rest

/-- Gives a path to an address. A file that is on a drive is on no other host, and its path does not
begin with empty segments. -/
def withResolved (u : Url) (segments : List String) : Url :=
  if u.scheme = "file" then
    let rest := segments.dropWhile (· = "")
    { u with
      host := if segments.head?.any (isDrive ·.toList) then some "" else u.host
      path := .segments (if rest.isEmpty then [""] else rest) }
  else { u with path := .segments segments }

/-- Reads the segments behind the first slash, and what follows them. -/
def withSegments (u : Url) (cs : List Char) : Url :=
  let path := cs.takeWhile fun c ↦ !isPathEnd c
  let segments := (List.splitOnP (isSlash (isSpecial u.scheme)) path).map (encode inPath)
  withTail (withResolved u (resolve (u.scheme = "file") [] segments)) (cs.drop path.length)

/-- Reads a path and what follows it. Only a special scheme has a path in any case. -/
def withPath (u : Url) (cs : List Char) : Url :=
  let special := isSpecial u.scheme
  match cs with
  | c :: rest =>
    if isSlash special c then withSegments u rest
    else if special || !isPathEnd c then withSegments u cs
    else withTail u cs
  | [] => if special then withSegments u [] else u

/-- Reads a path in which slashes have no meaning, and what follows it. -/
def withPlainPath (u : Url) (cs : List Char) : Url :=
  let path := cs.takeWhile fun c ↦ !isPathEnd c
  withTail { u with path := .plain (encode isControl path) } (cs.dropWhile fun c ↦ !isPathEnd c)

/-! ## Authorities -/

/-- The end of an authority. -/
def isAuthorityEnd (special : Bool) (c : Char) : Bool := isSlash special c || isPathEnd c

/-- Splits an authority, with what follows it, at its last at sign. Without a user in front of the
sign, something must follow the sign that is not the end of the authority. -/
def splitUser? (special : Bool) (cs : List Char) : Option (List Char × List Char) :=
  let authority := cs.takeWhile fun c ↦ !isAuthorityEnd special c
  let host := (authority.reverse.takeWhile (· ≠ '@')).reverse
  if host.length = authority.length then some ([], cs)
  else
    let user := authority.take (authority.length - host.length - 1)
    let rest := cs.drop (user.length + 1)
    if user.isEmpty && rest.head?.any (isAuthorityEnd special) then none else some (user, rest)

/-- Reads user name and password. -/
def withUser (u : Url) (cs : List Char) : Url :=
  let name := cs.takeWhile (· ≠ ':')
  { u with
    username := encode inUserInfo name
    password := encode inUserInfo (cs.drop (name.length + 1)) }

/-- Splits off a host, which ends at a colon outside of brackets or with the authority. -/
def splitHost (special : Bool) : (inside : Bool) → List Char → List Char × List Char
  | _, [] => ([], [])
  | inside, c :: cs =>
    if isAuthorityEnd special c || (c = ':' && !inside) then ([], c :: cs)
    else
      let (host, rest) := splitHost special (c = '[' || (inside && c ≠ ']')) cs
      (c :: host, rest)

/-- Reads a host and what follows it. A host may only be empty where nothing else is said about the
server. -/
def withHost? (u : Url) (cs : List Char) : Option (Url × List Char) := do
  let special := isSpecial u.scheme
  let (text, rest) := splitHost special false cs
  guard (!special || !text.isEmpty)
  let host ← if special then Host.read? text else Host.readPlain? text
  guard (host ≠ "" || (u.username = "" && u.password = "" && rest.head? ≠ some ':'))
  return ({ u with host := some host }, rest)

/-- Reads a port, if there is one, and what follows it; an empty one or the usual one is left out. A
backslash may follow a port also where it is no slash. -/
def withPort? (u : Url) : List Char → Option (Url × List Char)
  | ':' :: cs => do
    let digits := cs.takeWhile Char.isDigit
    let rest := cs.drop digits.length
    guard (rest.head?.all (isAuthorityEnd true))
    let n : Nat := digits.foldl (fun n c ↦ n * 10 + (c.toNat - 48)) 0
    guard (n < 65536)
    let isLeftOut := digits.isEmpty || usualPorts.lookup u.scheme = some n
    return ({ u with port := if isLeftOut then none else some n }, rest)
  | cs => some (u, cs)

/-- Reads an authority and what follows it. -/
def withAuthority? (u : Url) (cs : List Char) : Option Url := do
  let (user, cs) ← splitUser? (isSpecial u.scheme) cs
  let (u, cs) ← withHost? (u.withUser user) cs
  let (u, cs) ← withPort? u cs
  return withPath u cs

/-- Reads what follows the scheme of a file. In place of a host there may be a drive. -/
def withFile? (u : Url) (cs : List Char) : Option Url :=
  let u := { u with host := some "" }
  match cs with
  | a :: b :: rest =>
    if isSlash true a && isSlash true b then do
      let text := rest.takeWhile fun c ↦ !isAuthorityEnd true c
      if isDrive text then return withSegments u rest
      let behind := rest.drop text.length
      let host ← if text.isEmpty then some "" else Host.read? text
      if host = "" || host = "localhost" then return withSegments u behind
      return withPath { u with host := some host } behind
    else some (withPath u cs)
  | cs => some (withPath u cs)

/-! ## Whole addresses -/

/-- Reads an address. -/
def read? (s : String) : Option Url := do
  let (scheme, rest) ← scheme? (significant s)
  let u : Url := { scheme }
  if scheme = "file" then withFile? u rest
  else if isSpecial scheme then withAuthority? u (rest.dropWhile (isSlash true))
  else
    match rest with
    | '/' :: '/' :: rest => withAuthority? u rest
    | '/' :: rest => return withPath u ('/' :: rest)
    | rest => return withPlainPath u rest

example : (read? " HTTP://u:p@EXAMPLE.test:80/a/../b c?x='#f").map text =
    some "http://u:p@example.test/b%20c?x=%27#f" := by decide +kernel
example : (read? "http:///0x7f.1").map text = some "http://127.0.0.1/" := by decide +kernel
example : (read? "http://[1:0:0:2::3]/").map text = some "http://[1:0:0:2::3]/" := by
  decide +kernel
example : read? "127.0.0.1:1/a" = none := by decide +kernel

end ServiceCall.Url

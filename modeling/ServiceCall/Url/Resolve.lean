import ServiceCall.Url.Reader

/-!
# Addresses relative to another

A reference may leave out what it shares with the address at which it was found, from the front: the
scheme, then the authority, then the path up to its last slash, then the whole path, then the query.
-/

namespace ServiceCall.Url

/-- Everything in front of the path. -/
def root (u : Url) : String := u.scheme ++ ":" ++ u.authority

/-- The path up to its last slash. -/
def folder (u : Url) : String :=
  match u.path with
  | .plain _ => ""
  | .segments list => Path.text (.segments (list.dropLast ++ [""]))

/-- Reads a reference without a scheme. -/
def follow? (base : Url) (cs : List Char) : Option Url :=
  let slash := isSlash (isSpecial base.scheme)
  let front := match cs with
    | [] => { base with fragment := none }.text
    | a :: rest =>
      if a = '#' then { base with fragment := none }.text
      else if a = '?' then base.root ++ base.path.text
      else if !slash a then base.root ++ base.folder
      else if rest.head?.any slash then base.scheme ++ ":"
      else base.root
  read? (front ++ String.ofList cs)

/-- Reads a reference that was found at an address. A special scheme without two slashes behind it
says nothing if it is that of the address. -/
def resolve? (base : Url) (reference : String) : Option Url :=
  let cs := significant reference
  match scheme? cs with
  | some (scheme, rest) =>
    if scheme = base.scheme && isSpecial scheme && (rest.takeWhile (isSlash true)).length < 2 then
      follow? base rest
    else read? reference
  | none => follow? base cs

end ServiceCall.Url

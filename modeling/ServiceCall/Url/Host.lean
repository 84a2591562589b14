import ServiceCall.HostName
import ServiceCall.Text.Description
import ServiceCall.Url.Basic

/-!
# Hosts

A host is a name, a number of thirty-two bits written in one to four parts, or, between brackets, a
number of 128 bits written in groups. Names may be percent encoded and are brought to the form of
`ServiceCall.HostName`; a name whose last label is a number has to be a number as a whole.
-/

namespace ServiceCall.Url.Host

open Encoding (Bytes)

/-! ## Numbers of thirty-two bits -/

def digitIn? (base : Nat) (c : Char) : Option Nat :=
  let n :=
    if c.isDigit then c.toNat - 48
    else if c.isLower then c.toNat - 87
    else if c.isUpper then c.toNat - 55
    else base
  if n < base then some n else none

def numberIn? (base : Nat) (cs : List Char) : Option Nat :=
  (cs.mapM (digitIn? base)).map fun ds ↦ ds.foldl (fun n d ↦ n * base + d) 0

/-- A part in base sixteen, eight or ten, told apart by how it starts. -/
def part? : List Char → Option Nat
  | '0' :: 'x' :: cs | '0' :: 'X' :: cs => numberIn? 16 cs
  | '0' :: c :: cs => numberIn? 8 (c :: cs)
  | [] => none
  | cs => numberIn? 10 cs

/-- The labels of a name; one empty label at the end does not count. -/
def labels (cs : List Char) : List (List Char) :=
  let all := List.splitOn '.' cs
  if 1 < all.length ∧ all.getLast? = some [] then all.dropLast else all

def endsInNumber (cs : List Char) : Bool :=
  match (labels cs).getLast? with
  | none | some [] => false
  | some label =>
    label.all Char.isDigit || (match label with
      | '0' :: 'x' :: rest | '0' :: 'X' :: rest => (numberIn? 16 rest).isSome
      | _ => false)

/-- Joins parts of which the last fills all bytes that are left. -/
def join? (room : Nat) : List Nat → Option Nat
  | [] => none
  | [last] => if last < Nat.pow 256 room then some last else none
  | n :: rest =>
    if n < 256 then (join? (room - 1) rest).map (n * Nat.pow 256 (room - 1) + ·) else none

def address? (cs : List Char) : Option Nat := do
  let parts := labels cs
  guard (parts.length ≤ 4)
  join? 4 (← parts.mapM part?)

def dotted (n : Nat) : String :=
  String.intercalate "." ([3, 2, 1, 0].map fun i ↦ decimal (n / Nat.pow 256 i % 256))

/-! ## Numbers of 128 bits -/

/-- A group of up to four digits. -/
def group? (cs : List Char) : Option Nat :=
  if 1 ≤ cs.length ∧ cs.length ≤ 4 then numberIn? 16 cs else none

/-- Four decimal numbers, as the last two groups. -/
def tail? (cs : List Char) : Option (List Nat) := do
  let parts := List.splitOn '.' cs
  guard (parts.length = 4)
  let ns ← parts.mapM fun p ↦
    match p with
    | '0' :: _ :: _ => none
    | [] => none
    | p => (numberIn? 10 p).filter (· < 256)
  match ns with
  | [a, b, c, d] => return [a * 256 + b, c * 256 + d]
  | _ => none

def groups? (mayEndDotted : Bool) : List (List Char) → Option (List Nat)
  | [] => some []
  | [last] =>
    if mayEndDotted && last.contains '.' then tail? last else (group? last).map ([·])
  | p :: rest => do return (← group? p) :: (← groups? mayEndDotted rest)

/-- Splits at the first pair of colons. -/
def splitGap? : List Char → Option (List Char × List Char)
  | ':' :: ':' :: rest => some ([], rest)
  | c :: rest => (splitGap? rest).map fun r ↦ (c :: r.1, r.2)
  | [] => none

def side? (mayEndDotted : Bool) (cs : List Char) : Option (List Nat) :=
  if cs.isEmpty then some [] else groups? mayEndDotted (List.splitOn ':' cs)

/-- The eight groups of an address; two colons stand for as many zeros as are missing. -/
def longAddress? (cs : List Char) : Option (List Nat) :=
  match splitGap? cs with
  | none => (side? true cs).filter (·.length = 8)
  | some (left, right) => do
    let l ← side? false left
    let r ← side? true right
    guard (l.length + r.length < 8)
    return l ++ List.replicate (8 - l.length - r.length) 0 ++ r

/-- Length of the run of zeros at the front. -/
def zeros (gs : List Nat) : Nat := (gs.takeWhile (· = 0)).length

/-- The first of the longest runs of at least two zeros: where it starts, and its length. -/
def longestGap (gs : List Nat) : Nat × Nat :=
  (List.range gs.length).foldl (fun best i ↦
    let n := zeros (gs.drop i)
    if best.2 < n && 1 < n then (i, n) else best) (0, 0)

def groupsText (gs : List Nat) : String :=
  String.intercalate ":" (gs.map fun g ↦ String.ofList (Text.Description.hex g))

def longText (gs : List Nat) : String :=
  let (start, count) := longestGap gs
  if count = 0 then groupsText gs
  else groupsText (gs.take start) ++ "::" ++ groupsText (gs.drop (start + count))

/-! ## Hosts -/

/-- Characters that no host has. -/
def isForbidden (c : Char) : Bool :=
  c = '\x00' || ['\t', '\n', '\r', ' ', '#', '/', ':', '<', '>', '?', '@', '[', '\\', ']', '^',
    '|'].contains c

/-- Characters that no name has. -/
def isForbiddenInName (c : Char) : Bool := isForbidden c || c < ' ' || c = '%' || c = '\x7f'

def bracketed? (cs : List Char) : Option String := do
  guard (cs.getLast? = some ']')
  return "[" ++ longText (← longAddress? cs.dropLast) ++ "]"

/-- Reads the host of an address with a special scheme. -/
def read? (cs : List Char) : Option String :=
  match cs with
  | '[' :: rest => bracketed? rest
  | cs => do
    let decoded ← Encoding.ofUtf8? (Encoding.Percent.decode cs)
    let host ← HostName.ascii? decoded.toList
    guard (!host.isEmpty && !host.any isForbiddenInName)
    if endsInNumber host then return dotted (← address? host) else return String.ofList host

/-- Reads the host of an address with another scheme, which is kept as it is. -/
def readPlain? (cs : List Char) : Option String :=
  match cs with
  | '[' :: rest => bracketed? rest
  | cs => if cs.any isForbidden then none else some (encode isControl cs)

end ServiceCall.Url.Host

import ServiceCall.Decimal.Binary64
import ServiceCall.Toml.Basic

/-!
# Numbers, moments and truth values

Integers fit sixty-four bits and may be written in base two, eight, ten or sixteen. Digits may be
set off by single underscores, but a decimal number has no zero in front. Moments in time are dates,
times of day, or both with an offset, and must exist in the calendar.
-/

namespace ServiceCall.Toml

def digitValue (c : Char) : Nat :=
  if c.isDigit then c.toNat - 48 else if c.isUpper then c.toNat - 55 else c.toNat - 87

/-- Reads digits; every underscore stands between two of them. -/
def digits? (isDigit : Char → Bool) (cs : List Char) : Option (List Char × List Char) :=
  match cs with
  | c :: rest =>
    if isDigit c then some (more (rest.length + 1) [c] rest) else none
  | [] => none
where
  /-- Reads further digits, gathered in reverse. -/
  more : (bound : Nat) → (done : List Char) → List Char → List Char × List Char
    | 0, done, cs => (done.reverse, cs)
    | bound + 1, done, cs =>
      match cs with
      | '_' :: d :: rest =>
        if isDigit d then more bound (d :: done) rest else (done.reverse, cs)
      | d :: rest => if isDigit d then more bound (d :: done) rest else (done.reverse, cs)
      | [] => (done.reverse, [])

def value (base : Nat) (ds : List Char) : Nat := ds.foldl (fun n d ↦ n * base + digitValue d) 0

/-- Reads a sign, if there is one; `true` is minus. -/
def sign : List Char → Bool × List Char
  | '-' :: rest => (true, rest)
  | '+' :: rest => (false, rest)
  | cs => (false, cs)

/-! ## Numbers -/

def integer? (negative : Bool) (n : Nat) : Option Toml :=
  let i : Int := if negative then -n else n
  if -9223372036854775808 ≤ i ∧ i < 9223372036854775808 then some (.int i) else none

/-- Reads an integer behind the mark of its base. -/
def based? (base : Nat) (isDigit : Char → Bool) (cs : List Char) : Option (Toml × List Char) := do
  let (ds, rest) ← digits? isDigit cs
  return (← integer? false (value base ds), rest)

def isHexDigit (c : Char) : Bool := c.isDigit || ('a' ≤ c && c ≤ 'f') || ('A' ≤ c && c ≤ 'F')

/-- Reads the digits of a decimal number, which has no zero in front. -/
def whole? : List Char → Option (List Char × List Char)
  | '0' :: rest => some (['0'], rest)
  | cs => digits? Char.isDigit cs

/-- Reads a fraction, if there is one. -/
def fraction? : List Char → Option (List Char × List Char)
  | '.' :: rest => digits? Char.isDigit rest
  | cs => some ([], cs)

/-- Reads an exponent, if there is one. -/
def exponent? (cs : List Char) : Option (Option Int × List Char) :=
  let behind (rest : List Char) : Option (Option Int × List Char) := do
    let (negative, rest) := sign rest
    let (ds, rest) ← digits? Char.isDigit rest
    return (some (if negative then -(value 10 ds : Int) else value 10 ds), rest)
  match cs with
  | 'e' :: rest | 'E' :: rest => behind rest
  | _ => some (none, cs)

/-- Whether the digits times ten to the power `e` are too large for a double. -/
def overflows (ds : List Char) (e : Int) : Bool :=
  let ds := ds.dropWhile (· = '0')
  let size := ds.length + e
  if ds.isEmpty || size ≤ 308 then false
  else if 309 < size then true
  else (Binary64.ofRatio? false (value 10 ds * Nat.pow 10 e.toNat) (Nat.pow 10 (-e).toNat)).isNone

/-- The part of a text in front of what is left of it. -/
def written (cs rest : List Char) : String := String.ofList (cs.take (cs.length - rest.length))

/-- Reads a decimal number with its sign. -/
def decimal? (cs : List Char) : Option (Toml × List Char) := do
  let (negative, behind) := sign cs
  let (ds, rest) ← whole? behind
  let (fs, rest) ← fraction? rest
  let (e, rest) ← exponent? rest
  if fs.isEmpty && e.isNone then return (← integer? negative (value 10 ds), rest)
  else
    guard (negative || !overflows (ds ++ fs) (e.getD 0 - fs.length))
    return (.decimal (written cs rest), rest)

/-- Reads one of the numbers that have a name. -/
def named? (cs : List Char) : Option (Toml × List Char) :=
  let (_, behind) := sign cs
  if ['i', 'n', 'f'].isPrefixOf behind || ['n', 'a', 'n'].isPrefixOf behind then
    some (.decimal (written cs (behind.drop 3)), behind.drop 3)
  else none

def number? (cs : List Char) : Option (Toml × List Char) :=
  match cs with
  | '0' :: 'x' :: rest => based? 16 isHexDigit rest
  | '0' :: 'o' :: rest => based? 8 (fun c ↦ '0' ≤ c && c ≤ '7') rest
  | '0' :: 'b' :: rest => based? 2 (fun c ↦ c = '0' || c = '1') rest
  | _ => (named? cs).or (decimal? cs)

/-! ## Moments -/

/-- Reads a number of `count` digits that lies within the bounds. -/
def within? (count low high : Nat) (cs : List Char) : Option (Nat × List Char) :=
  let ds := cs.take count
  if ds.length = count ∧ ds.all Char.isDigit ∧ low ≤ value 10 ds ∧ value 10 ds ≤ high then
    some (value 10 ds, cs.drop count)
  else none

def isLeapYear (year : Nat) : Bool := year % 4 = 0 && (year % 100 ≠ 0 || year % 400 = 0)

def daysIn (year month : Nat) : Nat :=
  if month = 2 then (if isLeapYear year then 29 else 28)
  else if [4, 6, 9, 11].contains month then 30
  else 31

/-- Passes over a date. -/
def date? (cs : List Char) : Option (List Char) := do
  let (year, rest) ← within? 4 0 9999 cs
  let (month, rest) ← within? 2 1 12 (← mark? '-' rest)
  let (_, rest) ← within? 2 1 (daysIn year month) (← mark? '-' rest)
  return rest

/-- Passes over a time of day; a minute may have a leap second. -/
def time? (cs : List Char) : Option (List Char) := do
  let (_, rest) ← within? 2 0 23 cs
  let (_, rest) ← within? 2 0 59 (← mark? ':' rest)
  let (_, rest) ← within? 2 0 60 (← mark? ':' rest)
  match rest with
  | '.' :: d :: more => if d.isDigit then return more.dropWhile Char.isDigit else return rest
  | _ => return rest

/-- Passes over an offset from universal time, if there is one. -/
def offset? (cs : List Char) : Option (List Char) :=
  match cs with
  | 'Z' :: rest | 'z' :: rest => some rest
  | c :: rest =>
    if c = '+' || c = '-' then do
      let (_, rest) ← within? 2 0 23 rest
      let (_, rest) ← within? 2 0 59 (← mark? ':' rest)
      return rest
    else some cs
  | [] => some []

/-- Passes over the time behind a date, if there is one. -/
def timeBehind? (cs : List Char) : Option (List Char) :=
  match cs with
  | c :: rest =>
    if c = 'T' || c = 't' || c = ' ' then
      match time? rest with
      | some rest => offset? rest
      | none => some cs
    else some cs
  | [] => some []

def moment? (cs : List Char) : Option (Toml × List Char) := do
  let rest ← ((date? cs).bind timeBehind?).or (time? cs)
  return (.moment (written cs rest), rest)

/-! ## All scalars -/

def word? (word : String) (v : Toml) (cs : List Char) : Option (Toml × List Char) :=
  if word.toList.isPrefixOf cs then some (v, cs.drop word.length) else none

def scalar (cs : List Char) : Option (Toml × List Char) :=
  (moment? cs).or ((number? cs).or ((word? "true" (.bool true) cs).or
    (word? "false" (.bool false) cs)))

end ServiceCall.Toml

/-!
# Moments in key files

Key files may tell moments, as digits for the year, the month, the day, the hour, the minute and the
second, with a `Z` at the end. The short form has two digits for the year and nothing else. The long
form has four, and may have a sign in front of them and a fraction of a second at the end; the point
of the fraction may be left out. Of either form it only counts whether there is such a moment.
-/

namespace ServiceCall.Signature.Moment

/-- Takes a number of as many digits off the front. -/
def number? (count : Nat) (cs : List Char) : Option (Nat × List Char) :=
  let ds := cs.take count
  if ds.length = count ∧ ds.all Char.isDigit then
    some (ds.foldl (fun n d ↦ n * 10 + (d.toNat - 48)) 0, cs.drop count)
  else none

def isLeapYear (year : Nat) : Bool := year % 4 = 0 && (year % 100 ≠ 0 || year % 400 = 0)

def daysIn (year month : Nat) : Nat :=
  if month = 2 then if isLeapYear year then 29 else 28
  else if [4, 6, 9, 11].contains month then 30
  else 31

/-- Goes past the month, the day and the time of a moment in a year. There are no leap seconds. -/
def afterTime? (year : Nat) (cs : List Char) : Option (List Char) := do
  let (month, cs) ← number? 2 cs
  let (day, cs) ← number? 2 cs
  let (hour, cs) ← number? 2 cs
  let (minute, cs) ← number? 2 cs
  let (second, cs) ← number? 2 cs
  guard (1 ≤ month ∧ month ≤ 12 ∧ 1 ≤ day ∧ day ≤ daysIn year month)
  guard (hour < 24 ∧ minute < 60 ∧ second < 60)
  return cs

/-- Two digits for the year stand for one from 1950 to 2049. -/
def fullYear (n : Nat) : Nat := if n < 50 then 2000 + n else 1900 + n

def isShort (cs : List Char) : Bool :=
  match number? 2 cs with
  | some (n, cs) => afterTime? (fullYear n) cs = some ['Z']
  | none => false

/-- Digits, of which there may be none, and the end. -/
def isFraction (cs : List Char) : Bool :=
  cs.getLast? = some 'Z' && cs.dropLast.all Char.isDigit

/-- Whether the year and what follows it make a moment; the sign in front of a year asks for a
point. -/
def isLongFrom (signed : Bool) (cs : List Char) : Bool :=
  match (do
    let (year, cs) ← number? 4 cs
    afterTime? year cs) with
  | some ('.' :: cs) => isFraction cs
  | some cs => !signed && isFraction cs
  | none => false

def isLong : List Char → Bool
  | '+' :: cs | '-' :: cs => isLongFrom true cs
  | cs => isLongFrom false cs

example : isShort "000229235959Z".toList = true := by decide
example : isShort "990229000000Z".toList = false := by decide
example : isLong "20000101000000.5Z".toList = true := by decide
example : isLong "200001010000005Z".toList = true := by decide
example : isLong "20000101240000Z".toList = false := by decide

end ServiceCall.Signature.Moment

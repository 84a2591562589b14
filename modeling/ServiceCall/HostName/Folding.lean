import ServiceCall.HostName.Folding.Table

/-!
# Reading characters of names

A host name may be written in many ways that count as the same. Each character is replaced by what
it stands for: a capital by its small letter, a wide or raised or circled form by the plain one, a
full stop of any script by a dot. Others count for nothing, and some are refused, so that two names
that look alike are not different ones by accident.
-/

namespace ServiceCall.HostName

open Text (Run)

def hexDigit (c : Char) : Nat := if c.isDigit then c.toNat - 48 else c.toNat - 55

/-- The characters of a word of a row: their numbers in base sixteen with points between them. -/
def wordChars (word : List Char) : List Char :=
  (List.splitOn '.' word).map fun ds ↦ Char.ofNat (ds.foldl (fun n d ↦ n * 16 + hexDigit d) 0)

/-- What stands for a number in the last row that does not begin behind it. -/
def inRows? (rows : List (Nat × String)) (n : Nat) : Option (List Char) := do
  let (first, words) ← (rows.takeWhile (·.1 ≤ n)).getLast?
  let word ← (List.splitOn ' ' words.toList)[n - first]?
  if word = ['-'] then none else some (wordChars word)

def inRanges (ranges : List (Nat × Nat)) (n : Nat) : Bool :=
  ranges.any fun r ↦ r.1 ≤ n && n ≤ r.2

/-- What a character stands for in a name; nothing if it is refused. -/
def fold? (c : Char) : Option (List Char) :=
  let n := c.toNat
  if n < 0x80 then some [c.toLower]
  else if let some m := foldedRuns.findSome? (·.image? n) then some [Char.ofNat m]
  else if let some cs := inRows? foldedRows n then some cs
  else if inRanges droppedRanges n then some []
  else if inRanges refusedRanges n then none
  else some [c]

def foldAll? (cs : List Char) : Option (List Char) := (cs.mapM fold?).map (·.flatten)

example : foldAll? "Ａ㎒\u00AD。".toList = some "amhz.".toList := by decide +kernel
example : foldAll? "ßςé".toList = some "ßςé".toList := by decide +kernel
example : fold? '\uFFFD' = none := by decide +kernel

end ServiceCall.HostName

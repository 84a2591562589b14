import ServiceCall.Text.Composition.Pairs
import ServiceCall.Text.Mark

/-!
# Composed text

The same text can be written with letters that have their marks in them, or with letters and marks
apart. Here both are brought to the composed form. First every character is taken to pieces, and the
marks on one letter are put into the order of their classes; then each letter takes up the marks
with which it makes one character. A mark is out of reach of the letter behind another mark of the
same class or of a higher one.
-/

namespace ServiceCall.Text

/-! ## Hangul

A syllable is a leading consonant, a vowel and perhaps a trailing consonant. Syllables are numbered
in that order, the trailing consonants beginning with none. -/

namespace Hangul

def firstSyllable : Nat := 0xAC00
def firstLead : Nat := 0x1100
def firstVowel : Nat := 0x1161
/-- The number in front of those of the trailing consonants. -/
def noTrail : Nat := 0x11A7

def leadCount : Nat := 19
def vowelCount : Nat := 21
def trailCount : Nat := 28

def pieces? (n : Nat) : Option (List Nat) :=
  let k := n - firstSyllable
  if n < firstSyllable ∨ leadCount * vowelCount * trailCount ≤ k then none
  else
    let opening := [firstLead + k / (vowelCount * trailCount),
      firstVowel + k % (vowelCount * trailCount) / trailCount]
    some (if k % trailCount = 0 then opening else opening ++ [noTrail + k % trailCount])

/-- A vowel behind a leading consonant, or a trailing consonant behind a syllable without one. -/
def join? (a b : Nat) : Option Nat :=
  if firstLead ≤ a ∧ a < firstLead + leadCount ∧ firstVowel ≤ b ∧ b < firstVowel + vowelCount then
    some (firstSyllable + ((a - firstLead) * vowelCount + (b - firstVowel)) * trailCount)
  else
    let k := a - firstSyllable
    if firstSyllable ≤ a ∧ k < leadCount * vowelCount * trailCount ∧ k % trailCount = 0 ∧
        noTrail < b ∧ b < noTrail + trailCount then
      some (a + (b - noTrail))
    else none

end Hangul

namespace Composition

/-! ## Taking to pieces -/

/-- No character is made of another one by more than so many steps. -/
def maxDepth : Nat := 4

def pieces : (depth : Nat) → Nat → List Nat
  | 0, n => [n]
  | depth + 1, n =>
    match Hangul.pieces? n with
    | some ns => ns
    | none =>
      match pairs.lookup n with
      | some (a, b) => pieces depth a ++ [b]
      | none => [n]

def decompose (c : Char) : List Char :=
  if c.toNat < 0x80 then [c] else (pieces maxDepth c.toNat).map Char.ofNat

/-- Puts a character in front of others, but a mark behind those marks that come before it. -/
def putMark (c : Char) : List Char → List Char
  | [] => [c]
  | d :: ds =>
    if Mark.order d ≠ 0 ∧ Mark.order d < Mark.order c then d :: putMark c ds else c :: d :: ds

/-- Puts marks that follow one another into the order of their classes. -/
def arrange (cs : List Char) : List Char := cs.foldr putMark []

/-! ## Putting together -/

/-- The character that stands for two. No pair ends in a character in front of the first mark. -/
def join? (a b : Char) : Option Char :=
  if b.toNat < 0x300 then none
  else
    ((Hangul.join? a.toNat b.toNat).or
      ((pairs.find? fun p ↦ p.2 = (a.toNat, b.toNat)).map (·.1))).map Char.ofNat

/-- Puts together what follows a letter; `kept` holds the marks in reverse that it did not take
up. -/
def joinFrom (letter : Char) (kept : List Char) : List Char → List Char
  | [] => letter :: kept.reverse
  | c :: cs =>
    let isReached := kept.head?.all fun d ↦ Mark.order d < Mark.order c
    match if isReached then join? letter c else none with
    | some joined => joinFrom joined kept cs
    | none =>
      if Mark.order c = 0 then letter :: (kept.reverse ++ joinFrom c [] cs)
      else joinFrom letter (c :: kept) cs

/-- Marks in front of the first letter stay as they are. -/
def joinAll : List Char → List Char
  | [] => []
  | c :: cs => if Mark.order c = 0 then joinFrom c [] cs else c :: joinAll cs

end Composition

/-- The text in composed form. -/
def compose (cs : List Char) : List Char :=
  Composition.joinAll (Composition.arrange (cs.flatMap Composition.decompose))

example : compose "a\u0325\u0301".toList = "ḁ\u0301".toList := by decide +kernel
example : compose "a\u0301\u0325".toList = "ḁ\u0301".toList := by decide +kernel
example : compose "\u1112\u1161\u11AB".toList = "한".toList := by decide +kernel
example : compose "ä\u0323".toList = "ạ\u0308".toList := by decide +kernel

end ServiceCall.Text

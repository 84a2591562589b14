import ServiceCall.Text.Blank

/-!
# Lines of an environment file

A line of an environment file runs on over the end of a line of text while a quote is open. What
follows a number sign that stands behind a blank is a comment and does not belong to the line; a
line of text that starts with one is a comment as a whole.
-/

namespace ServiceCall.EnvFile

/-! ## Lines of text -/

/-- The lines of a text, each with its line feed. -/
def textLines : List Char → List (List Char)
  | [] => []
  | c :: cs =>
    if c = '\n' then ['\n'] :: textLines cs
    else
      match textLines cs with
      | [] => [[c]]
      | l :: ls => (c :: l) :: ls

@[simp] theorem flatten_textLines (cs : List Char) : (textLines cs).flatten = cs := by
  induction cs with
  | nil => rfl
  | cons c cs ih =>
    by_cases h : c = '\n'
    · simp [textLines, h, ih]
    · rw [textLines, if_neg h]
      split <;> simp_all

/-- The line without the line feed at its end, and without the carriage return before that. -/
def withoutBreak (l : List Char) : List Char :=
  match l.reverse with
  | '\n' :: '\r' :: r => r.reverse
  | '\n' :: r => r.reverse
  | _ => l

/-! ## Where a line ends -/

/-- Where a reader stands within a line. -/
inductive Place where
  | plain
  /-- Behind white space. -/
  | blank
  /-- Behind a backslash. -/
  | escape
  /-- Between quotes, the opening one of which is given. -/
  | quoted (mark : Char)
  /-- Behind a backslash between quotes. -/
  | quotedEscape (mark : Char)
  deriving DecidableEq

/-- Where a reader stands after one more character. -/
def Place.next : Place → Char → Place
  | .plain, c =>
    if c = '\\' then .escape
    else if c = '"' || c = '\'' then .quoted c
    else if Text.isSpace c && c ≠ '\n' && c ≠ '\r' then .blank
    else .plain
  | .blank, c =>
    if c = '\\' then .escape
    else if c = '"' || c = '\'' then .quoted c
    else .plain
  | .escape, _ => .plain
  | .quoted mark, c =>
    if c = '\\' then .quotedEscape mark
    else if c = mark then .plain
    else .quoted mark
  | .quotedEscape mark, _ => .quoted mark

/-- The part of a line of text in front of a comment, and where the reader stands at its end, which
is nowhere if there is a comment. -/
def scan : Place → List Char → List Char × Option Place
  | p, [] => ([], some p)
  | p, c :: cs =>
    if p = .blank ∧ c = '#' then ([], none)
    else
      let (kept, q) := scan (p.next c) cs
      (c :: kept, q)

def isComment (l : List Char) : Bool := (l.dropWhile Text.isSpace).head? == some '#'

/-- Joins the lines of text that belong to one line, given what is known of the current one. The
last line is none if the text ends in the midst of it. -/
def joinLines (begun : List Char) (p : Place) : List (List Char) → List (Option (List Char))
  | [] => if p = .plain then [] else [none]
  | l :: ls =>
    if isComment (begun ++ l) then some [] :: joinLines [] .plain ls
    else
      match scan p l with
      | (kept, none) => some (begun ++ kept) :: joinLines [] .plain ls
      | (_, some .plain) => some (withoutBreak (begun ++ l)) :: joinLines [] .plain ls
      | (_, some q) => joinLines (begun ++ l) q ls

/-- The lines of an environment file. -/
def lines (text : List Char) : List (Option (List Char)) := joinLines [] .plain (textLines text)

example : lines "a='b\nc' #d\n#e\n\"f".toList = [some "a='b\nc' ".toList, some [], none] := by
  decide +kernel

end ServiceCall.EnvFile

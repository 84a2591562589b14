import ServiceCall.Toml.Basic

/-!
# Strings of settings files

Strings stand between double quotes, where a backslash starts an escape, or between single quotes,
where every character stands for itself. Between triple quotes a string may run over several lines:
a line break right behind the opening quotes does not count, and a backslash at the end of a line
joins it with the next.
-/

namespace ServiceCall.Toml

/-- How a string is delimited. -/
structure Quoting where
  mark : Char
  /-- Whether a backslash starts an escape. -/
  escapes : Bool
  /-- Whether the string may run over several lines. -/
  long : Bool

/-! ## Escapes -/

def hexValue? (c : Char) : Option Nat :=
  if c.isDigit then some (c.toNat - 48)
  else if 'a' ≤ c && c ≤ 'f' then some (c.toNat - 87)
  else if 'A' ≤ c && c ≤ 'F' then some (c.toNat - 55)
  else none

/-- The character with the given number, unless it is half of a surrogate pair. -/
def scalar? (n : Nat) : Option Char := if n.isValidChar then some (Char.ofNat n) else none

/-- Reads a character from `count` hexadecimal digits. -/
def numbered? (count : Nat) (cs : List Char) : Option (Char × List Char) := do
  guard (count ≤ cs.length)
  let ds ← (cs.take count).mapM hexValue?
  return (← scalar? (ds.foldl (fun n d ↦ n * 16 + d) 0), cs.drop count)

/-- Reads what follows a backslash. -/
def escape? : Reader Char
  | 'b' :: rest => some ('\x08', rest)
  | 'f' :: rest => some ('\x0c', rest)
  | 'n' :: rest => some ('\n', rest)
  | 'r' :: rest => some ('\r', rest)
  | 't' :: rest => some ('\t', rest)
  | '"' :: rest => some ('"', rest)
  | '\\' :: rest => some ('\\', rest)
  | 'u' :: rest => numbered? 4 rest
  | 'U' :: rest => numbered? 8 rest
  | _ => none

/-! ## Content -/

/-- Passes over white space and line breaks. -/
def skipBlank : List Char → List Char
  | ' ' :: cs => skipBlank cs
  | '\t' :: cs => skipBlank cs
  | '\n' :: cs => skipBlank cs
  | '\r' :: '\n' :: cs => skipBlank cs
  | cs => cs

/-- What is left behind a backslash that stands at the end of a line. -/
def joined? (cs : List Char) : Option (List Char) := (newline? (skipGaps cs)).map skipBlank

/-- How many times the character stands at the front. -/
def run (c : Char) (cs : List Char) : Nat := (cs.takeWhile (· = c)).length

/-- Reads up to the end of a string; the characters are gathered in reverse. A long string may hold
up to two quotes in a row, also right before its end. -/
def content? (q : Quoting) : (bound : Nat) → (done : List Char) → Reader String
  | 0, _, _ => none
  | bound + 1, done, cs =>
    match cs with
    | [] => none
    | c :: rest =>
      if c = q.mark then
        if !q.long then some (String.ofList done.reverse, rest)
        else
          let n := run c cs
          if n < 3 then content? q bound (List.replicate n c ++ done) (cs.drop n)
          else
            let extra := min (n - 3) 2
            some (String.ofList (List.replicate extra c ++ done).reverse, cs.drop (extra + 3))
      else if c = '\\' && q.escapes then
        match (if q.long then joined? rest else none) with
        | some rest => content? q bound done rest
        | none => do
          let (e, rest) ← escape? rest
          content? q bound (e :: done) rest
      else if isPrintable c then content? q bound (c :: done) rest
      else if q.long then do content? q bound ('\n' :: done) (← newline? cs)
      else none

/-- Reads a string, from its opening quotes; only a value may be a long one. -/
def string? (mayBeLong : Bool) (cs : List Char) : Option (String × List Char) :=
  match cs with
  | [] => none
  | c :: rest =>
    if c = '"' || c = '\'' then
      if mayBeLong && 3 ≤ run c cs then
        let rest := cs.drop 3
        let rest := (newline? rest).getD rest
        content? ⟨c, c = '"', true⟩ (rest.length + 1) [] rest
      else content? ⟨c, c = '"', false⟩ (rest.length + 1) [] rest
    else none

end ServiceCall.Toml

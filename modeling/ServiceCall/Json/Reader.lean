import ServiceCall.Json.Fault

/-!
# Reading JSON

A reader takes what is left of the text and gives a result with what is left behind it, or a fault.
Containers may be nested 127 deep; the depth still allowed is the argument on which the reader of
values recurs. Loops inside one container are bounded by the length of the text.

Strings must be well formed: no raw control character, and surrogate escapes only in pairs. Of equal
keys in an object the last one counts. Numbers are read as `ServiceCall.Json.Number` describes.
-/

namespace ServiceCall.Json

/-- Reads from the front of a text and returns what it leaves. -/
abbrev Reader (α : Type) := List Char → Except Fault (α × List Char)

/-- Blanks between tokens. -/
def isGap (c : Char) : Bool := c = ' ' || c = '\n' || c = '\t' || c = '\r'

def skipGaps (cs : List Char) : List Char := cs.dropWhile isGap

def digitValue (c : Char) : Nat := c.toNat - 48

/-! ## Words -/

/-- Reads the given characters. -/
def word : List Char → List Char → Except Fault (List Char)
  | [], cs => .ok cs
  | _ :: _, [] => .error (.before .endInValue [])
  | w :: ws, c :: cs => if w = c then word ws cs else .error (.behindNext .wordExpected (c :: cs))

/-! ## Numbers -/

def maxWord64 : Nat := Nat.pow 2 64 - 1

/-- Takes digits into a significand while it fits sixty-four bits. Returns the significand, how many
digits it took, and what is left, which starts with a digit exactly if one did not fit. -/
def takeDigits : (significand count : Nat) → List Char → Nat × Nat × List Char
  | s, n, [] => (s, n, [])
  | s, n, c :: cs =>
    if c.isDigit then
      if s * 10 + digitValue c ≤ maxWord64 then takeDigits (s * 10 + digitValue c) (n + 1) cs
      else (s, n, c :: cs)
    else (s, n, c :: cs)

def scaled (negative : Bool) (significand : Nat) (exponent : Int) (rest : List Char) :
    Except Fault (Number × List Char) :=
  match Binary64.ofDecimal? negative significand exponent with
  | some x => .ok (.real x, rest)
  | none => .error (.before .numberOutOfRange rest)

/-- The largest exponent that may be written out. -/
def maxExponent : Nat := Nat.pow 2 31 - 1

/-- Reads the further digits of an exponent. An exponent past the limit makes the number zero or
puts it out of range. -/
def exponentDigits (negative : Bool) (significand : Nat) (start : Int) (down : Bool) :
    (exponent : Nat) → List Char → Except Fault (Number × List Char)
  | e, [] => scaled negative significand (if down then start - e else start + e) []
  | e, c :: cs =>
    if c.isDigit then
      if e * 10 + digitValue c ≤ maxExponent then
        exponentDigits negative significand start down (e * 10 + digitValue c) cs
      else if significand ≠ 0 && !down then .error (.before .numberOutOfRange cs)
      else .ok (.real (.zero negative), cs.dropWhile Char.isDigit)
    else scaled negative significand (if down then start - e else start + e) (c :: cs)

/-- Reads behind the letter of an exponent. -/
def exponentPart (negative : Bool) (significand : Nat) (start : Int) (cs : List Char) :
    Except Fault (Number × List Char) :=
  let (down, cs) := match cs with
    | '+' :: rest => (false, rest)
    | '-' :: rest => (true, rest)
    | _ => (false, cs)
  match cs with
  | [] => .error (.before .endInValue [])
  | c :: rest =>
    if c.isDigit then exponentDigits negative significand start down (digitValue c) rest
    else .error (.behindNext .badNumber (c :: rest))

/-- Reads an exponent if one follows. -/
def withExponent (negative : Bool) (significand : Nat) (exponent : Int) (cs : List Char) :
    Except Fault (Number × List Char) :=
  match cs with
  | 'e' :: rest | 'E' :: rest => exponentPart negative significand exponent rest
  | _ => scaled negative significand exponent cs

/-- Reads behind the point. Digits that no longer fit the significand are dropped. -/
def fractionPart (negative : Bool) (significand : Nat) (exponent : Int) (cs : List Char) :
    Except Fault (Number × List Char) :=
  match takeDigits significand 0 cs with
  | (s, n, c :: rest) =>
    if c.isDigit then withExponent negative s (exponent - n) ((c :: rest).dropWhile Char.isDigit)
    else if n = 0 then .error (.behindNext .badNumber (c :: rest))
    else withExponent negative s (exponent - n) (c :: rest)
  | (s, n, []) =>
    if n = 0 then .error (.before .endInValue []) else withExponent negative s (exponent - n) []

/-- The number written by an integer that fits sixty-four bits. Minus zero is a double. -/
def integer (negative : Bool) (significand : Nat) : Number :=
  if !negative then .int significand
  else if 0 < significand && significand ≤ Nat.pow 2 63 then .int (-significand)
  else .real ((Binary64.ofRatio? true significand 1).getD (.zero true))

/-- Reads behind the integer digits. -/
def numberTail (negative : Bool) (significand : Nat) (cs : List Char) :
    Except Fault (Number × List Char) :=
  match cs with
  | '.' :: rest => fractionPart negative significand 0 rest
  | 'e' :: rest | 'E' :: rest => exponentPart negative significand 0 rest
  | _ => .ok (integer negative significand, cs)

/-- Reads the digits of a number, behind its sign. -/
def number (negative : Bool) : Reader Number
  | [] => .error (.before .endInValue [])
  | c :: cs =>
    if c = '0' then
      match cs with
      | d :: _ => if d.isDigit then .error (.behindNext .badNumber cs) else numberTail negative 0 cs
      | [] => numberTail negative 0 []
    else if c.isDigit then
      match takeDigits (digitValue c) 0 cs with
      | (s, _, []) => numberTail negative s []
      | (s, _, d :: rest) =>
        if d.isDigit then
          let dropped := (d :: rest).takeWhile Char.isDigit
          match (d :: rest).dropWhile Char.isDigit with
          | '.' :: rest => fractionPart negative s dropped.length rest
          | rest => withExponent negative s dropped.length rest
        else numberTail negative s (d :: rest)
    else .error (.behindNext .badNumber (c :: cs))

/-! ## Strings -/

def hexValue? (c : Char) : Option Nat :=
  if c.isDigit then some (c.toNat - 48)
  else if 'a' ≤ c && c ≤ 'f' then some (c.toNat - 87)
  else if 'A' ≤ c && c ≤ 'F' then some (c.toNat - 55)
  else none

/-- Reads four hexadecimal digits. -/
def fourDigits : Reader Nat
  | a :: b :: c :: d :: rest =>
    match hexValue? a, hexValue? b, hexValue? c, hexValue? d with
    | some a, some b, some c, some d => .ok (((a * 16 + b) * 16 + c) * 16 + d, rest)
    | _, _, _, _ => .error ⟨.badEscape, byteCount (a :: b :: c :: d :: rest) - 4⟩
  | cs =>
    -- fewer than four characters may still be four bytes
    if byteCount cs < 4 then .error (.before .endInString [])
    else .error ⟨.badEscape, byteCount cs - 4⟩

def isHighSurrogate (n : Nat) : Bool := 0xD800 ≤ n && n ≤ 0xDBFF
def isLowSurrogate (n : Nat) : Bool := 0xDC00 ≤ n && n ≤ 0xDFFF

/-- Reads the second half of a surrogate pair. -/
def pairedWith (high : Nat) : Reader Char
  | [] => .error (.before .endInString [])
  | '\\' :: [] => .error (.before .endInString [])
  | '\\' :: 'u' :: cs => do
    let (low, rest) ← fourDigits cs
    if isLowSurrogate low then
      .ok (Char.ofNat ((high - 0xD800) * 0x400 + (low - 0xDC00) + 0x10000), rest)
    else .error (.before .loneSurrogate rest)
  | '\\' :: cs => .error (.behindNext .surrogateUnpaired cs)
  | cs => .error (.behindNext .surrogateUnpaired cs)

/-- Reads behind the backslash of an escape. -/
def escaped : Reader Char
  | [] => .error (.before .endInString [])
  | '"' :: rest => .ok ('"', rest)
  | '\\' :: rest => .ok ('\\', rest)
  | '/' :: rest => .ok ('/', rest)
  | 'b' :: rest => .ok ('\x08', rest)
  | 'f' :: rest => .ok ('\x0c', rest)
  | 'n' :: rest => .ok ('\n', rest)
  | 'r' :: rest => .ok ('\r', rest)
  | 't' :: rest => .ok ('\t', rest)
  | 'u' :: cs => do
    let (n, rest) ← fourDigits cs
    if isLowSurrogate n then .error (.before .loneSurrogate rest)
    else if isHighSurrogate n then pairedWith n rest
    else .ok (Char.ofNat n, rest)
  | cs => .error (.behindNext .badEscape cs)

/-- Reads the characters of a string up to its closing quote, `done` holding in reverse those
already read. Every step takes at least one character, so a bound above the length is never met. -/
def stringFrom : (bound : Nat) → (done : List Char) → Reader String
  | 0, _, _ => .error (.before .endInString [])
  | _ + 1, _, [] => .error (.before .endInString [])
  | bound + 1, done, c :: cs =>
    if c = '"' then .ok (String.ofList done.reverse, cs)
    else if c = '\\' then
      match escaped cs with
      | .ok (d, rest) => stringFrom bound (d :: done) rest
      | .error f => .error f
    else if c.toNat < 0x20 then .error (.before .controlCharacter cs)
    else stringFrom bound (c :: done) cs

/-- Reads a string behind its opening quote. -/
def string : Reader String := fun cs ↦ stringFrom (cs.length + 1) [] cs

/-! ## Lists and objects -/

/-- Whether another item of a list follows; if so, the text is left in front of it. -/
def nextItem (first : Bool) (cs : List Char) : Except Fault (Option (List Char) × List Char) :=
  match skipGaps cs with
  | [] => .error (.behindNext .endInList [])
  | ']' :: rest => .ok (none, rest)
  | c :: rest =>
    if first then .ok (some (c :: rest), [])
    else if c = ',' then
      match skipGaps rest with
      | [] => .error (.behindNext .endInValue [])
      | ']' :: rest => .error (.behindNext .trailingComma (']' :: rest))
      | rest => .ok (some rest, [])
    else .error (.behindNext .listCommaOrEnd (c :: rest))

/-- Reads items up to the closing bracket. -/
def itemsFrom (item : Reader Json) : (bound : Nat) → (first : Bool) → (done : List Json) →
    Reader (List Json)
  | 0, _, _, _ => .error (.before .endInList [])
  | bound + 1, first, done, cs =>
    match nextItem first cs with
    | .error f => .error f
    | .ok (none, rest) => .ok (done.reverse, rest)
    | .ok (some cs, _) =>
      match item cs with
      | .error f => .error f
      | .ok (v, rest) => itemsFrom item bound false (v :: done) rest

/-- Reads the colon behind a key. -/
def colon (cs : List Char) : Except Fault (List Char) :=
  match skipGaps cs with
  | [] => .error (.behindNext .endInObject [])
  | ':' :: rest => .ok rest
  | rest => .error (.behindNext .colonExpected rest)

/-- Reads the next key of an object, or the closing brace. -/
def nextKey (first : Bool) (cs : List Char) : Except Fault (Option String × List Char) :=
  match skipGaps cs with
  | [] => .error (.behindNext .endInObject [])
  | '\x7d' :: rest => .ok (none, rest)
  | c :: rest =>
    if first then
      if c = '"' then (string rest).map fun r ↦ (some r.1, r.2)
      else .error (.behindNext .keyNotString (c :: rest))
    else if c = ',' then
      match skipGaps rest with
      | [] => .error (.behindNext .endInValue [])
      | '"' :: rest => (string rest).map fun r ↦ (some r.1, r.2)
      | '\x7d' :: rest => .error (.behindNext .trailingComma ('\x7d' :: rest))
      | rest => .error (.behindNext .keyNotString rest)
    else .error (.behindNext .objectCommaOrEnd (c :: rest))

/-- Reads fields up to the closing brace. -/
def fieldsFrom (item : Reader Json) : (bound : Nat) → (first : Bool) → (done : Table Json) →
    Reader (Table Json)
  | 0, _, _, _ => .error (.before .endInObject [])
  | bound + 1, first, done, cs =>
    match nextKey first cs with
    | .error f => .error f
    | .ok (none, rest) => .ok (done, rest)
    | .ok (some key, rest) =>
      match colon rest with
      | .error f => .error f
      | .ok rest =>
        match item rest with
        | .error f => .error f
        | .ok (v, rest) => fieldsFrom item bound false (done.insert key v) rest

/-! ## Values -/

/-- Reads a value in which containers may be nested `depth` deep. -/
def value (depth : Nat) (cs : List Char) : Except Fault (Json × List Char) :=
  match skipGaps cs with
  | [] => .error (.behindNext .endInValue [])
  | c :: rest =>
    if c = 'n' then (word ['u', 'l', 'l'] rest).map fun rest ↦ (null, rest)
    else if c = 't' then (word ['r', 'u', 'e'] rest).map fun rest ↦ (bool true, rest)
    else if c = 'f' then (word ['a', 'l', 's', 'e'] rest).map fun rest ↦ (bool false, rest)
    else if c = '-' then (number true rest).map fun r ↦ (num r.1, r.2)
    else if c.isDigit then (number false (c :: rest)).map fun r ↦ (num r.1, r.2)
    else if c = '"' then (string rest).map fun r ↦ (str r.1, r.2)
    else if c = '[' then
      match depth with
      | 0 => .error (.behindNext .tooDeep (c :: rest))
      | d + 1 => (itemsFrom (value d) (rest.length + 1) true [] rest).map fun r ↦ (arr r.1, r.2)
    else if c = '\x7b' then
      match depth with
      | 0 => .error (.behindNext .tooDeep (c :: rest))
      | d + 1 =>
        (fieldsFrom (value d) (rest.length + 1) true .empty rest).map fun r ↦ (ofTable r.1, r.2)
    else .error (.behindNext .valueExpected (c :: rest))

/-- Nothing but blanks may follow a whole text. -/
def finish (rest : List Char) : Except Fault Unit :=
  match skipGaps rest with
  | [] => .ok ()
  | rest => .error (.behindNext .trailingCharacters rest)

/-- How deep containers may be nested in a text. -/
def maxDepth : Nat := 127

/-- Reads a whole text. -/
def read (text : String) : Except Fault Json := do
  let (v, rest) ← value maxDepth text.toList
  finish rest
  return v

/-- The value of a text, if it is one. -/
def read? (text : String) : Option Json := (read text).toOption

end ServiceCall.Json

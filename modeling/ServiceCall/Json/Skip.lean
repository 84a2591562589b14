import ServiceCall.Json.Reader

/-!
# Passing over a value

A field that a record does not know is passed over without being read. This is laxer than reading:
containers may be nested as deep as the text is long, a surrogate escape needs no partner, and a
number may be of any size. What is left must still be well formed up to there.

The containers that are open are kept on a stack, innermost first.
-/

namespace ServiceCall.Json

inductive Container where
  | list
  | object
  deriving DecidableEq

/-- Passes over a string behind its opening quote. -/
def skipStringFrom : (bound : Nat) → List Char → Except Fault (List Char)
  | 0, _ => .error (.before .endInString [])
  | _ + 1, [] => .error (.before .endInString [])
  | bound + 1, c :: cs =>
    if c = '"' then .ok cs
    else if c = '\\' then
      match cs with
      | [] => .error (.before .endInString [])
      | 'u' :: cs =>
        match fourDigits cs with
        | .error f => .error f
        | .ok (_, rest) => skipStringFrom bound rest
      | e :: rest =>
        if e ∈ ['"', '\\', '/', 'b', 'f', 'n', 'r', 't'] then skipStringFrom bound rest
        else .error (.behindNext .badEscape (e :: rest))
    else if c.toNat < 0x20 then .error (.before .controlCharacter (c :: cs))
    else skipStringFrom bound cs

def skipString (cs : List Char) : Except Fault (List Char) := skipStringFrom (cs.length + 1) cs

def skipDigits (cs : List Char) : List Char := cs.dropWhile Char.isDigit

/-- Passes over an exponent behind its letter. -/
def skipExponent (cs : List Char) : Except Fault (List Char) :=
  let cs := match cs with
    | '+' :: rest | '-' :: rest => rest
    | _ => cs
  match cs with
  | c :: rest =>
    if c.isDigit then .ok (skipDigits rest) else .error (.behindNext .badNumber (c :: rest))
  | [] => .error (.before .badNumber [])

def skipFraction (cs : List Char) : Except Fault (List Char) :=
  match cs with
  | c :: rest =>
    if c.isDigit then
      match skipDigits rest with
      | 'e' :: rest | 'E' :: rest => skipExponent rest
      | rest => .ok rest
    else .error (.behindNext .badNumber (c :: rest))
  | [] => .error (.behindNext .badNumber [])

/-- Passes over a number behind its sign. -/
def skipNumber (cs : List Char) : Except Fault (List Char) :=
  let tail : List Char → Except Fault (List Char)
    | '.' :: rest => skipFraction rest
    | 'e' :: rest | 'E' :: rest => skipExponent rest
    | rest => .ok rest
  match cs with
  | [] => .error (.before .badNumber [])
  | c :: rest =>
    if c = '0' then
      match rest with
      | d :: _ => if d.isDigit then .error (.behindNext .badNumber rest) else tail rest
      | [] => tail []
    else if c.isDigit then tail (skipDigits rest)
    else .error (.behindNext .badNumber (c :: rest))

/-- Passes over a key and its colon. -/
def skipKey (cs : List Char) : Except Fault (List Char) :=
  match skipGaps cs with
  | '"' :: rest => do colon (← skipString rest)
  | [] => .error (.behindNext .endInObject [])
  | rest => .error (.behindNext .keyNotString rest)

/-- What stands next: a value, or whatever may follow one. -/
inductive Awaiting where
  | value
  | next
  deriving DecidableEq

/-- One token further. The result tells what to wait for, the open containers and what is left. -/
def skipStep (awaiting : Awaiting) (openOnes : List Container) (cs : List Char) :
    Except Fault (Awaiting × List Container × List Char) :=
  match awaiting with
  | .value =>
    match skipGaps cs with
    | [] => .error (.behindNext .endInValue [])
    | c :: rest =>
      let after (r : Except Fault (List Char)) := r.map fun rest ↦ (Awaiting.next, openOnes, rest)
      if c = 'n' then after (word ['u', 'l', 'l'] rest)
      else if c = 't' then after (word ['r', 'u', 'e'] rest)
      else if c = 'f' then after (word ['a', 'l', 's', 'e'] rest)
      else if c = '-' then after (skipNumber rest)
      else if c.isDigit then after (skipNumber (c :: rest))
      else if c = '"' then after (skipString rest)
      else if c = '[' then
        match skipGaps rest with
        | [] => .error (.behindNext .endInList [])
        | ']' :: rest => .ok (.next, openOnes, rest)
        | rest => .ok (.value, .list :: openOnes, rest)
      else if c = '\x7b' then
        match skipGaps rest with
        | [] => .error (.behindNext .endInObject [])
        | '\x7d' :: rest => .ok (.next, openOnes, rest)
        | rest => (skipKey rest).map fun rest ↦ (.value, .object :: openOnes, rest)
      else .error (.behindNext .valueExpected (c :: rest))
  | .next =>
    match openOnes with
    | [] => .ok (.next, [], cs)
    | .list :: outer =>
      match skipGaps cs with
      | [] => .error (.behindNext .endInList [])
      | ',' :: rest => .ok (.value, openOnes, rest)
      | ']' :: rest => .ok (.next, outer, rest)
      | rest => .error (.behindNext .listCommaOrEnd rest)
    | .object :: outer =>
      match skipGaps cs with
      | [] => .error (.behindNext .endInObject [])
      | ',' :: rest => (skipKey rest).map fun rest ↦ (.value, openOnes, rest)
      | '\x7d' :: rest => .ok (.next, outer, rest)
      | rest => .error (.behindNext .objectCommaOrEnd rest)

def skipFrom : (bound : Nat) → Awaiting → List Container → List Char → Except Fault (List Char)
  | 0, _, _, _ => .error (.before .endInValue [])
  | bound + 1, awaiting, openOnes, cs =>
    if awaiting = .next ∧ openOnes = [] then .ok cs
    else
      match skipStep awaiting openOnes cs with
      | .error f => .error f
      | .ok (awaiting, openOnes, rest) => skipFrom bound awaiting openOnes rest

/-- Passes over a value. Every step takes at least one character. -/
def skipValue (cs : List Char) : Except Fault (List Char) := skipFrom (cs.length + 2) .value [] cs

end ServiceCall.Json

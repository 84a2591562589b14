/-!
# Names outside ASCII

A label of a host name that has characters outside ASCII is written with letters and digits alone:
first its ASCII characters, then, for the others in ascending order, how far each lies from the one
before. Distances are numbers in base thirty-six whose digits have a threshold that adapts to the
distances written so far.
-/

namespace ServiceCall.HostName.Punycode

/-! ## Digits -/

def digit (n : Nat) : Char := if n < 26 then Char.ofNat (97 + n) else Char.ofNat (22 + n)

def value? (c : Char) : Option Nat :=
  if c.isLower then some (c.toNat - 97) else if c.isDigit then some (c.toNat - 22) else none

/-- The threshold of the digit at position `k`. -/
def threshold (k bias : Nat) : Nat :=
  if k ≤ bias + 1 then 1 else if bias + 26 ≤ k then 26 else k - bias

theorem threshold_pos (k bias : Nat) : 1 ≤ threshold k bias := by
  unfold threshold
  split
  · omega
  · split <;> omega

/-- Brings a distance into the range of one digit. -/
def scale (delta k : Nat) : Nat × Nat :=
  if 455 < delta then scale (delta / 35) (k + 36) else (delta, k)
  termination_by delta
  decreasing_by exact Nat.div_lt_self (by omega) (by omega)

/-- The bias after a distance has been written, `count` characters being done. -/
def adapt (delta count : Nat) (first : Bool) : Nat :=
  let delta := if first then delta / 700 else delta / 2
  let (delta, k) := scale (delta + delta / count) 0
  k + 36 * delta / (delta + 38)

/-! ## Writing -/

/-- Writes a distance, beginning at position `k`. -/
def distance (bias k q : Nat) : List Char :=
  let t := threshold k bias
  if q < t then [digit q]
  else digit (t + (q - t) % (36 - t)) :: distance bias (k + 36) ((q - t) / (36 - t))
  termination_by q
  decreasing_by
    have h := threshold_pos k bias
    have := Nat.div_le_self (q - threshold k bias) (36 - threshold k bias)
    omega

structure Progress where
  /-- What is written, in reverse. -/
  written : List Char
  delta : Nat
  bias : Nat
  count : Nat

/-- Goes past one character of the label while the character `n` is being placed. -/
def pass (n : Nat) (first : Nat) (p : Progress) (c : Char) : Progress :=
  if c.toNat < n then { p with delta := p.delta + 1 }
  else if c.toNat = n then
    { written := (distance p.bias 36 p.delta).reverse ++ p.written
      delta := 0
      bias := adapt p.delta (p.count + 1) (p.count = first)
      count := p.count + 1 }
  else p

/-- Places the characters with the given numbers, which ascend. -/
def place (label : List Char) (first : Nat) : (from_ : Nat) → Progress → List Nat → Progress
  | _, p, [] => p
  | from_, p, n :: ns =>
    let p := { p with delta := p.delta + (n - from_) * (p.count + 1) }
    let p := label.foldl (pass n first) p
    place label first (n + 1) { p with delta := p.delta + 1 } ns

/-- Puts a number into an ascending list, unless it is there already. -/
def putNumber (n : Nat) : List Nat → List Nat
  | [] => [n]
  | m :: ms => if n < m then n :: m :: ms else if n = m then m :: ms else m :: putNumber n ms

/-- The written form of a label. -/
def encode (label : List Char) : List Char :=
  let plain := label.filter (·.toNat < 128)
  let others := (label.filter (128 ≤ ·.toNat)).foldr (fun c ns ↦ putNumber c.toNat ns) []
  let start : Progress :=
    ⟨(if plain.isEmpty then [] else plain ++ ['-']).reverse, 0, 72, plain.length⟩
  (place label plain.length 128 start others).written.reverse

/-! ## Reading -/

/-- Larger numbers are not read. -/
def maxNumber : Nat := 0xFFFFFFFF

/-- Adds a distance to `i`, beginning at position `k`, at which digits count `weight` times. -/
def add? (bias : Nat) : (i weight k : Nat) → List Char → Option (Nat × List Char)
  | _, _, _, [] => none
  | i, weight, k, c :: cs => do
    let d ← value? c
    guard (d ≤ (maxNumber - i) / weight)
    let i := i + d * weight
    let t := threshold k bias
    if d < t then return (i, cs)
    guard (weight ≤ maxNumber / (36 - t))
    add? bias i (weight * (36 - t)) (k + 36) cs

/-- Puts the characters that the distances stand for among those that are there. The last one was
`n`, or would be, at a place just in front of `i`. -/
def readFrom? : (bound n i bias : Nat) → (done : List Char) → List Char → Option (List Char)
  | _, _, _, _, done, [] => some done
  | 0, _, _, _, _, _ => none
  | bound + 1, n, i, bias, done, cs => do
    let (next, rest) ← add? bias i 1 36 cs
    let count := done.length + 1
    let n := n + next / count
    guard n.isValidChar
    let i' := next % count
    readFrom? bound n (i' + 1) (adapt (next - i) count (i = 0))
      (done.insertIdx i' (Char.ofNat n)) rest

/-- Reads the written form of a label. -/
def decode? (cs : List Char) : Option (List Char) :=
  let distances := (cs.reverse.takeWhile (· ≠ '-')).reverse
  let plain := cs.take (cs.length - distances.length - 1)
  if cs.head? = some '-' ∧ plain = [] then none
  else if plain.all (·.toNat < 128) then
    readFrom? distances.length 128 0 72 plain distances
  else none

example : encode "münchen".toList = "mnchen-3ya".toList := by decide +kernel
example : encode "日本".toList = "wgv71a".toList := by decide +kernel
example : decode? "mnchen-3ya".toList = some "münchen".toList := by decide +kernel
example : decode? "wgv71a".toList = some "日本".toList := by decide +kernel
example : decode? "-".toList = none := by decide +kernel

end ServiceCall.HostName.Punycode

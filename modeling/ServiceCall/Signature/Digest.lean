import ServiceCall.Encoding.Utf8

/-!
# The 256-bit secure hash

The message is filled up to whole blocks of sixteen words: a one bit, zeros, and the length of the
message in bits. Each block is stretched to sixty-four words, which are mixed into a state of eight
words in as many rounds.
-/

namespace ServiceCall.Signature.Digest

open Encoding (Bytes)

def rotate (x n : UInt32) : UInt32 := (x >>> n) ||| (x <<< (32 - n))

/-- The fractions of the cube roots of the first sixty-four primes. -/
def roundConstants : List UInt32 := [
  0x428a2f98, 0x71374491, 0xb5c0fbcf, 0xe9b5dba5, 0x3956c25b, 0x59f111f1, 0x923f82a4, 0xab1c5ed5,
  0xd807aa98, 0x12835b01, 0x243185be, 0x550c7dc3, 0x72be5d74, 0x80deb1fe, 0x9bdc06a7, 0xc19bf174,
  0xe49b69c1, 0xefbe4786, 0x0fc19dc6, 0x240ca1cc, 0x2de92c6f, 0x4a7484aa, 0x5cb0a9dc, 0x76f988da,
  0x983e5152, 0xa831c66d, 0xb00327c8, 0xbf597fc7, 0xc6e00bf3, 0xd5a79147, 0x06ca6351, 0x14292967,
  0x27b70a85, 0x2e1b2138, 0x4d2c6dfc, 0x53380d13, 0x650a7354, 0x766a0abb, 0x81c2c92e, 0x92722c85,
  0xa2bfe8a1, 0xa81a664b, 0xc24b8b70, 0xc76c51a3, 0xd192e819, 0xd6990624, 0xf40e3585, 0x106aa070,
  0x19a4c116, 0x1e376c08, 0x2748774c, 0x34b0bcb5, 0x391c0cb3, 0x4ed8aa4a, 0x5b9cca4f, 0x682e6ff3,
  0x748f82ee, 0x78a5636f, 0x84c87814, 0x8cc70208, 0x90befffa, 0xa4506ceb, 0xbef9a3f7, 0xc67178f2]

structure State where
  a : UInt32
  b : UInt32
  c : UInt32
  d : UInt32
  e : UInt32
  f : UInt32
  g : UInt32
  h : UInt32

/-- The fractions of the square roots of the first eight primes. -/
def State.start : State :=
  ⟨0x6a09e667, 0xbb67ae85, 0x3c6ef372, 0xa54ff53a, 0x510e527f, 0x9b05688c, 0x1f83d9ab, 0x5be0cd19⟩

def State.add (s t : State) : State :=
  ⟨s.a + t.a, s.b + t.b, s.c + t.c, s.d + t.d, s.e + t.e, s.f + t.f, s.g + t.g, s.h + t.h⟩

/-- One round with a word of the block, its constant added. -/
def round (s : State) (word : UInt32) : State :=
  let choice := (s.e &&& s.f) ^^^ (~~~s.e &&& s.g)
  let majority := (s.a &&& s.b) ^^^ (s.a &&& s.c) ^^^ (s.b &&& s.c)
  let mixedE := rotate s.e 6 ^^^ rotate s.e 11 ^^^ rotate s.e 25
  let mixedA := rotate s.a 2 ^^^ rotate s.a 13 ^^^ rotate s.a 22
  let t := s.h + mixedE + choice + word
  ⟨t + mixedA + majority, s.a, s.b, s.c, s.d + t, s.e, s.f, s.g⟩

/-- The first `n` words that a window of sixteen words is stretched to. -/
def stretch : (n : Nat) → (window : List UInt32) → List UInt32
  | 0, _ => []
  | n + 1, window =>
    let old (i : Nat) : UInt32 := window.getD i 0
    let s := rotate (old 1) 7 ^^^ rotate (old 1) 18 ^^^ (old 1 >>> 3)
    let t := rotate (old 14) 17 ^^^ rotate (old 14) 19 ^^^ (old 14 >>> 10)
    old 0 :: stretch n (window.drop 1 ++ [old 0 + s + old 9 + t])

def compress (s : State) (block : List UInt32) : State :=
  ((List.zipWith (· + ·) (stretch 64 block) roundConstants).foldl round s).add s

/-! ## Bytes and words -/

/-- The big-endian number that the bytes spell. -/
def number (bytes : Bytes) : Nat := bytes.foldl (fun n b ↦ n * 256 + b.toNat) 0

/-- The last `count` bytes of a number, big-endian. -/
def bytes : (count : Nat) → (n : Nat) → Bytes
  | 0, _ => []
  | count + 1, n => UInt8.ofNat (n / Nat.pow 256 count) :: bytes count n

def words : Bytes → List UInt32
  | a :: b :: c :: d :: rest => UInt32.ofNat (number [a, b, c, d]) :: words rest
  | _ => []

/-- The message up to whole blocks. -/
def padded (message : Bytes) : Bytes :=
  message ++ 0x80 :: List.replicate ((119 - message.length % 64) % 64) 0 ++
    bytes 8 (8 * message.length)

/-- The digest of a message, thirty-two bytes. -/
def digest (message : Bytes) : Bytes :=
  let ws := words (padded message)
  let s := (List.range (ws.length / 16)).foldl
    (fun s i ↦ compress s ((ws.drop (16 * i)).take 16)) State.start
  [s.a, s.b, s.c, s.d, s.e, s.f, s.g, s.h].flatMap fun w ↦ bytes 4 w.toNat

theorem length_bytes (count n : Nat) : (bytes count n).length = count := by
  induction count with
  | zero => rfl
  | succ count ih => simp [bytes, ih]

theorem length_digest (message : Bytes) : (digest message).length = 32 := by
  simp [digest, length_bytes]

theorem length_padded (message : Bytes) : (padded message).length % 64 = 0 := by
  simp only [padded, List.length_append, List.length_cons, List.length_replicate, length_bytes]
  omega

end ServiceCall.Signature.Digest

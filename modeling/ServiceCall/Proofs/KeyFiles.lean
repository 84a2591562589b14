import Mathlib.NumberTheory.LucasPrimality
import Mathlib.Tactic.NormNum.Prime
import ServiceCall.Proofs.Base64
import ServiceCall.Proofs.Signatures
import ServiceCall.Signature.KeyFile

/-!
# Key files that can be signed with

What is armoured is read back, whatever bytes it is (`Armor.read?_written`). So a message is signed
with an armoured key whenever the key is genuine (`exists_sign`), and there is a file of this kind
(`prothFile`).

## Primes

The primes of that key are one more than a small multiple of a power of two. For such numbers
Lucas' test takes hardly more than squaring over and over (`Rsa.prime_of_squares`).
-/

namespace ServiceCall.Signature

open Encoding (Base64 Bytes)

/-! ## Armour -/

namespace Armor

/-- A mark that stands at the front is found there. -/
theorem markEnd?_append (mark left rest : List Char) :
    markEnd? mark left (left ++ rest) = some left.length := by
  induction left with
  | nil => rw [List.nil_append, markEnd?.eq_1]; rfl
  | cons l left ih => rw [List.cons_append, markEnd?, if_pos rfl, ih, List.length_cons]; rfl

/-- Where its first character does not occur, no mark begins. -/
theorem markEnd?_skip {m : Char} {ms pre : List Char} (hpre : m ∉ pre) (cs : List Char) :
    markEnd? (m :: ms) (m :: ms) (pre ++ cs)
      = (markEnd? (m :: ms) (m :: ms) cs).map (· + pre.length) := by
  induction pre with
  | nil => simp
  | cons c pre ih =>
    have hne : c ≠ m := fun h ↦ hpre (h ▸ List.mem_cons_self)
    rw [List.cons_append, markEnd?, if_neg hne, ih fun h ↦ hpre (List.mem_cons_of_mem c h),
      Option.map_map, List.length_cons]
    rfl

theorem splitAt?_of_notMem (mark : List Char) {pre : List Char} {m : Char}
    (hmark : mark.head? = some m) (hpre : m ∉ pre) (rest : List Char) :
    splitAt? mark (pre ++ (mark ++ rest)) = some (pre, rest) := by
  obtain ⟨ms, rfl⟩ := List.head?_eq_some_iff.1 hmark
  rw [splitAt?, markEnd?_skip hpre, markEnd?_append, Option.map_some, Option.map_some,
    Nat.add_comm, Nat.add_sub_cancel, List.take_left, ← List.append_assoc, ← List.length_append,
    List.drop_left]

/-- A mark is found only where all its characters stand, in order. -/
theorem sublist_of_markEnd? {mark left cs : List Char} {n : Nat}
    (h : markEnd? mark left cs = some n) (hleft : left.Sublist mark) : left.Sublist cs := by
  induction cs generalizing left n with
  | nil =>
    cases left with
    | nil => exact .slnil
    | cons l left => cases h
  | cons c cs ih =>
    cases left with
    | nil => exact List.nil_sublist _
    | cons l left =>
      rw [markEnd?] at h
      obtain ⟨n, hn, -⟩ := Option.map_eq_some_iff.1 h
      by_cases hc : c = l
      · rw [if_pos hc] at hn
        exact hc ▸ (ih hn ((List.sublist_cons_self l left).trans hleft)).cons_cons l
      · -- The mark begins anew, and what was to come of it comes with it.
        rw [if_neg hc] at hn
        exact (hleft.trans (ih hn (List.Sublist.refl mark))).cons c

theorem splitAt?_eq_none {mark cs : List Char} (h : ¬ mark.Sublist cs) :
    splitAt? mark cs = none := by
  rw [splitAt?, Option.map_eq_none_iff, Option.eq_none_iff_forall_ne_some]
  exact fun n hn ↦ h (sublist_of_markEnd? hn (List.Sublist.refl mark))

/-- Armoured text on three lines. -/
def written (a : Armor) : String :=
  "-----BEGIN " ++ a.label ++ "-----" ++ "\n" ++
    String.ofList (Base64.standard.encode a.content) ++ "\n" ++
    "-----END " ++ a.label ++ "-----" ++ "\n"

section Data

variable (content : Bytes)

theorem isSpace_of_mem_encode {c : Char} (hc : c ∈ Base64.standard.encode content) :
    Text.isSpace c = false := by
  have hdigit : ∀ n < 64, Text.isSpace (Base64.digit .standard n) = false := by decide
  rcases Base64.mem_encode hc with ⟨n, hn, rfl⟩ | ⟨-, rfl⟩
  · exact hdigit n hn
  · rfl

/-- The lines between the markers, of which an empty one in front is left out. -/
def body : List Char := (Base64.standard.encode content ++ ['\n']).dropWhile isGap

theorem body_sublist : (body content).Sublist (Base64.standard.encode content ++ ['\n']) :=
  List.dropWhile_sublist _

theorem dash_notMem_body : '-' ∉ body content := by
  intro h
  rcases List.mem_append.1 ((body_sublist content).subset h) with h | h
  · exact Base64.notMem_encode (by decide) (by decide) content h
  · exact absurd h (by decide)

/-- There are no empty lines, and so no headers. -/
theorem splitHeaders_body : splitHeaders (body content) = ([], body content) := by
  have hlines : ¬ ['\n', '\n'].Sublist (body content) := by
    intro h
    have hcount := (h.trans (body_sublist content)).count_le '\n'
    have hnone := List.count_eq_zero.2
      (Base64.notMem_encode (a := .standard) (c := '\n') (by decide) (by decide) content)
    rw [List.count_append, hnone] at hcount
    exact absurd hcount (by decide)
  have hreturns : ¬ ['\r', '\n', '\r', '\n'].Sublist (body content) := by
    intro h
    have hmem := (body_sublist content).subset (h.subset List.mem_cons_self)
    rcases List.mem_append.1 hmem with hmem | hmem
    · exact Base64.notMem_encode (by decide) (by decide) content hmem
    · exact absurd hmem (by decide)
  rw [splitHeaders, splitAt?_eq_none hlines, splitAt?_eq_none hreturns]
  rfl

theorem filter_body :
    ((body content).filter fun c ↦ !Text.isSpace c) = Base64.standard.encode content := by
  have hgap : ∀ c, isGap c = true → Text.isSpace c = true := by
    intro c hc
    simp only [isGap, Bool.or_eq_true, decide_eq_true_eq] at hc
    rcases hc with ((rfl | rfl) | rfl) | rfl <;> rfl
  have hdropped : ∀ cs : List Char, ((cs.dropWhile isGap).filter fun c ↦ !Text.isSpace c)
      = cs.filter fun c ↦ !Text.isSpace c := by
    intro cs
    induction cs with
    | nil => rfl
    | cons c cs ih =>
      by_cases hc : isGap c = true
      · rw [List.dropWhile_cons_of_pos hc, ih, List.filter_cons_of_neg]
        rw [hgap c hc]
        decide
      · rw [List.dropWhile_cons_of_neg hc]
  have hkept : ∀ c ∈ Base64.standard.encode content, (!Text.isSpace c) = true := by
    intro c hc
    rw [isSpace_of_mem_encode content hc]
    rfl
  rw [body, hdropped, List.filter_append, List.filter_eq_self.2 hkept]
  exact List.append_nil _

theorem data?_body : data? (body content) = some content := by
  rw [data?, splitHeaders_body]
  change Base64.standard.decode? ((body content).filter fun c ↦ !Text.isSpace c) = _
  rw [filter_body, Base64.decode?_encode]

end Data

/-- What armoured text is made of. -/
theorem read?_eq_some {text : String} {content : Bytes}
    {before afterBegin label afterLabel body afterBody rest : List Char}
    (hbegin : splitAt? "-----BEGIN ".toList text.toList = some (before, afterBegin))
    (hlabel : splitAt? "-----".toList afterBegin = some (label, afterLabel))
    (hend : splitAt? "-----END ".toList (afterLabel.dropWhile isGap) = some (body, afterBody))
    (hagain : splitAt? "-----".toList afterBody = some (label, rest))
    (hne : label ≠ []) (hdata : data? body = some content) :
    read? text = some ⟨String.ofList label, content⟩ := by
  have hguard : (guard (!label.isEmpty && label = label) : Option Unit) = some () :=
    if_pos (by simpa using hne)
  unfold read?
  dsimp only [Option.bind_eq_bind]
  rw [hbegin, Option.bind_some, hlabel, Option.bind_some, hend, Option.bind_some, hagain,
    Option.bind_some]
  dsimp only
  rw [hguard, Option.bind_some, hdata]
  rfl

/-- Behind the label the data begin, and end with the next mark. -/
theorem dropWhile_isGap (mark : List Char) (hmark : mark.head? = some '-') (content : Bytes)
    (rest : List Char) :
    ('\n' :: (Base64.standard.encode content ++ '\n' :: (mark ++ rest))).dropWhile isGap
      = body content ++ (mark ++ rest) := by
  obtain ⟨ms, rfl⟩ := List.head?_eq_some_iff.1 hmark
  rw [List.dropWhile_cons_of_pos rfl, List.append_cons, List.dropWhile_append, body]
  split
  · rename_i hnil
    rw [List.isEmpty_iff.1 hnil]
    rfl
  · rfl

/-- The marks are variables here: spelled out, they make the terms too large. -/
theorem toList_joined (first label dashes last line : String) (data : List Char)
    (hline : line.toList = ['\n']) :
    (first ++ label ++ dashes ++ line ++ String.ofList data ++ line ++ last ++ label ++ dashes ++
        line).toList
      = [] ++ (first.toList ++ (label.toList ++ (dashes.toList ++ '\n' :: (data ++ '\n' ::
          (last.toList ++ (label.toList ++ (dashes.toList ++ ['\n']))))))) := by
  simp only [String.toList_append, String.toList_ofList, hline, List.append_assoc,
    List.cons_append, List.nil_append]

/-- **What is armoured is read back.** -/
theorem read?_written {a : Armor} (hlabel : '-' ∉ a.label.toList) (hne : a.label ≠ "") :
    read? a.written = some a := by
  have htext : a.written.toList = _ := toList_joined "-----BEGIN " a.label "-----" "-----END " "\n"
    (Base64.standard.encode a.content) rfl
  have hbegin := splitAt?_of_notMem "-----BEGIN ".toList rfl List.not_mem_nil
  have hdrop := dropWhile_isGap "-----END ".toList rfl a.content
  have hend := splitAt?_of_notMem "-----END ".toList rfl (dash_notMem_body a.content)
  have hdashes := splitAt?_of_notMem "-----".toList rfl hlabel
  have hnonempty : a.label.toList ≠ [] := by rwa [Ne, String.toList_eq_nil_iff]
  have hread : read? a.written = some ⟨String.ofList a.label.toList, a.content⟩ :=
    read?_eq_some (by rw [htext, hbegin]) (hdashes _) (by rw [hdrop, hend]) (hdashes _)
      hnonempty (data?_body a.content)
  rw [hread, String.ofList_toList]

theorem isBlank_written (a : Armor) : Text.isBlank a.written = false := by
  have htext : a.written.toList = _ := toList_joined "-----BEGIN " a.label "-----" "-----END " "\n"
    (Base64.standard.encode a.content) rfl
  rw [Text.isBlank, htext]
  rfl

end Armor

/-! ## Signing -/

/-- The label of a key that is not wrapped. -/
def bareLabel : String := "RSA PRIVATE KEY"

/-- The bytes of a bare key are taken as they are, if they are tagged values at all. -/
theorem content_written {bytes : Bytes} (hvalues : (Der.Value.readAll? bytes).isSome = true) :
    KeyFile.content (Armor.written ⟨bareLabel, bytes⟩) = .ok bytes := by
  obtain ⟨values, hvalues⟩ := Option.isSome_iff_exists.1 hvalues
  have hlabel : '-' ∉ bareLabel.toList := by decide
  have hne : bareLabel ≠ "" := by decide
  have hread := Armor.read?_written (a := ⟨bareLabel, bytes⟩) hlabel hne
  simp only [KeyFile.content, hread, hvalues]
  exact if_pos (.inl rfl)

/-- With a genuine key every message is signed. -/
theorem exists_sign {bytes : Bytes} {key : Rsa.PrivateKey}
    (hvalues : (Der.Value.readAll? bytes).isSome = true) (hkey : Rsa.read bytes = .ok key)
    (hgenuine : key.IsGenuine) (hroom : 432 ≤ Rsa.bitLength key.modulus) (message : Bytes) :
    ∃ signature, sign (Armor.written ⟨bareLabel, bytes⟩) message = .ok signature := by
  obtain ⟨signature, hsignature⟩ := Rsa.exists_sign? hgenuine hroom message
  refine ⟨signature, ?_⟩
  rw [sign, content_written hvalues]
  dsimp only [bind, Except.bind]
  rw [hkey]
  dsimp only
  rw [hsignature]
  rfl

/-! ## A key -/

namespace Rsa

theorem iterate_square (p j x : Nat) :
    (fun x ↦ x * x % p)^[j] (x % p) = x ^ 2 ^ j % p := by
  induction j generalizing x with
  | zero => rw [Function.iterate_zero_apply, pow_zero, pow_one]
  | succ j ih =>
    rw [Function.iterate_succ_apply, ← Nat.mul_mod, ih, pow_succ', pow_mul, pow_two]

/-- Lucas' test for one more than a multiple of a power of two. -/
theorem prime_of_squares {k m p a : Nat} (hp : p = k * 2 ^ (m + 1) + 1) (hk : 0 < k)
    (hone : (fun x ↦ x * x % p)^[m + 1] (a ^ k % p) = 1)
    (hhalf : (fun x ↦ x * x % p)^[m] (a ^ k % p) ≠ 1)
    (hfactors : ∀ r, r.Prime → r ∣ k → (fun x ↦ x * x % p)^[m + 1] (a ^ (k / r) % p) ≠ 1) :
    p.Prime := by
  have hlt : 1 < p := by
    have hpos : 0 < k * 2 ^ (m + 1) := Nat.mul_pos hk (Nat.pow_pos Nat.two_pos)
    omega
  have hpow : ∀ e, (a : ZMod p) ^ e = 1 ↔ a ^ e % p = 1 := by
    intro e
    rw [← Nat.cast_pow, ← Nat.cast_one, ZMod.natCast_eq_natCast_iff', Nat.mod_eq_of_lt hlt]
  have hpred : p - 1 = k * 2 ^ (m + 1) := by rw [hp, Nat.add_sub_cancel]
  simp only [iterate_square, ← pow_mul] at hone hhalf hfactors
  refine lucas_primality p (a : ZMod p) ?_ fun r hr hdvd ↦ ?_
  · rw [hpow, hpred]
    exact hone
  · rw [Ne, hpow, hpred]
    rw [hpred] at hdvd
    -- A prime factor of `p - 1` divides `k`, or it is two.
    rcases hr.dvd_mul.1 hdvd with hdvd | hdvd
    · rw [Nat.mul_div_right_comm hdvd]
      exact hfactors r hr hdvd
    · obtain rfl : r = 2 := (Nat.prime_dvd_prime_iff_eq hr Nat.prime_two).1 (hr.dvd_of_dvd_pow hdvd)
      rw [pow_succ, ← Nat.mul_assoc, Nat.mul_div_cancel _ Nat.two_pos]
      exact hhalf

/-- One more than an odd multiple of a power of two, as is `prothQ`. -/
def prothP : Nat := 1331 * 2 ^ (1012 + 1) + 1

def prothQ : Nat := 3931 * 2 ^ (1011 + 1) + 1

theorem prime_prothP : prothP.Prime := by
  refine prime_of_squares (k := 1331) (m := 1012) (a := 3) (by rw [prothP]) (by decide)
    (by decide +kernel) (by decide +kernel) ?_
  intro r hr hdvd
  have hpow : r ∣ 11 ^ 3 := hdvd
  obtain rfl : r = 11 :=
    (Nat.prime_dvd_prime_iff_eq hr (by norm_num)).1 (hr.dvd_of_dvd_pow hpow)
  decide +kernel

theorem prime_prothQ : prothQ.Prime := by
  refine prime_of_squares (k := 3931) (m := 1011) (a := 3) (by rw [prothQ]) (by decide)
    (by decide +kernel) (by decide +kernel) ?_
  intro r hr hdvd
  obtain rfl : r = 3931 := (Nat.prime_dvd_prime_iff_eq hr (by norm_num)).1 hdvd
  decide +kernel

/-- The exponents undo the public one because these multiples of `p - 1` and so on are one below a
multiple of it. -/
def prothKey : PrivateKey where
  modulus := prothP * prothQ
  publicExponent := 65537
  exponent := (56100 * ((prothP - 1) * (prothQ - 1)) + 1) / 65537
  p := prothP
  q := prothQ
  exponentP := (46480 * (prothP - 1) + 1) / 65537
  exponentQ := (2283 * (prothQ - 1) + 1) / 65537
  coefficient := (1085 * prothP - 2662) / 1269

deriving instance DecidableEq for PrivateKey

theorem isGenuine_prothKey : prothKey.IsGenuine where
  prime_p := prime_prothP
  prime_q := prime_prothQ
  p_ne_q := by decide +kernel
  modulus := by decide +kernel
  exponentP := by decide +kernel
  exponentQ := by decide +kernel
  coefficient := by decide +kernel

end Rsa

namespace Der

/-- A length in its shortest form, of two bytes at the most. -/
def lengthBytes (n : Nat) : Bytes :=
  if n < 128 then [UInt8.ofNat n]
  else if n < 256 then [0x81, UInt8.ofNat n]
  else 0x82 :: Digest.bytes 2 n

def tagged (tag : UInt8) (body : Bytes) : Bytes := tag :: lengthBytes body.length ++ body

/-- A number, with a zero in front of a set top bit. -/
def integerBytes (n : Nat) : Bytes := tagged 0x02 (Digest.bytes (Rsa.bitLength n / 8 + 1) n)

end Der

/-- The binary form of a key, with the version of the form in front. -/
def Rsa.PrivateKey.content (k : Rsa.PrivateKey) : Bytes :=
  Der.tagged 0x30 ([0, k.modulus, k.publicExponent, k.exponent, k.p, k.q, k.exponentP,
    k.exponentQ, k.coefficient].flatMap Der.integerBytes)

def prothFile : String := Armor.written ⟨bareLabel, Rsa.prothKey.content⟩

/-- There is a file with which every message is signed. -/
theorem exists_sign_prothFile (message : Bytes) :
    ∃ signature, sign prothFile message = .ok signature := by
  have hkey : Rsa.read Rsa.prothKey.content = .ok Rsa.prothKey := by decide +kernel
  exact exists_sign (by decide +kernel) hkey Rsa.isGenuine_prothKey (by decide +kernel) message

end ServiceCall.Signature

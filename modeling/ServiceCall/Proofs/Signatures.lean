import Mathlib.Data.Nat.ChineseRemainder
import Mathlib.FieldTheory.Finite.Basic
import ServiceCall.Signature.Rsa

/-!
# Keys that can sign

Before a signature is given out it is checked against the public half of its key, and a key whose
halves do not belong together cannot sign. A genuine key can sign every message
(`Rsa.exists_sign?`): its two exponents undo the public one modulo its two primes, so the number
that is put together from the two residues is a root of the number that stands for the message.
-/

namespace ServiceCall.Signature

open Encoding (Bytes)

namespace Digest

theorem number_foldl (bytes : Bytes) (n : Nat) :
    bytes.foldl (fun n b ↦ n * 256 + b.toNat) n = n * 256 ^ bytes.length + number bytes := by
  induction bytes generalizing n with
  | nil => simp [number]
  | cons b bytes ih =>
    rw [number, List.foldl_cons, List.foldl_cons, ih, ih (0 * 256 + b.toNat), List.length_cons]
    ring

theorem number_cons (b : UInt8) (bytes : Bytes) :
    number (b :: bytes) = b.toNat * 256 ^ bytes.length + number bytes := by
  rw [number, List.foldl_cons, number_foldl, Nat.zero_mul, Nat.zero_add]

theorem number_lt (bytes : Bytes) : number bytes < 256 ^ bytes.length := by
  induction bytes with
  | nil => exact Nat.one_pos
  | cons b bytes ih =>
    have hb : b.toNat + 1 ≤ 256 := b.toNat_lt
    calc number (b :: bytes) < (b.toNat + 1) * 256 ^ bytes.length := by
          rw [number_cons, Nat.succ_mul]
          exact Nat.add_lt_add_left ih _
      _ ≤ 256 * 256 ^ bytes.length := Nat.mul_le_mul_right _ hb
      _ = 256 ^ (b :: bytes).length := by rw [List.length_cons, pow_succ']

end Digest

namespace Rsa

/-! ## Roots -/

/-- The two halves of the key belong together. -/
structure PrivateKey.IsGenuine (k : PrivateKey) : Prop where
  prime_p : k.p.Prime
  prime_q : k.q.Prime
  p_ne_q : k.p ≠ k.q
  modulus : k.modulus = k.p * k.q
  exponentP : k.exponentP * k.publicExponent % (k.p - 1) = 1
  exponentQ : k.exponentQ * k.publicExponent % (k.q - 1) = 1
  coefficient : k.coefficient * k.q % k.p = 1

/-- An exponent that is one modulo `p - 1` changes nothing modulo a prime `p`. -/
theorem pow_modEq_self {p m : Nat} (hp : p.Prime) (hm : m % (p - 1) = 1) (c : Nat) :
    c ^ m ≡ c [MOD p] := by
  have : Fact p.Prime := ⟨hp⟩
  rw [← ZMod.natCast_eq_natCast_iff, Nat.cast_pow]
  by_cases hc : (c : ZMod p) = 0
  · have hne : m ≠ 0 := fun hzero ↦ by simp [hzero] at hm
    rw [hc, zero_pow hne]
  · have hsplit : m = (p - 1) * (m / (p - 1)) + 1 := (hm ▸ Nat.div_add_mod m (p - 1)).symm
    rw [hsplit, pow_succ, pow_mul, ZMod.pow_card_sub_one_eq_one hc, one_pow, one_mul]

variable {k : PrivateKey}

/-- Modulo the second prime the root is the residue that was found for it. -/
theorem root_modEq_q (hk : k.IsGenuine) (c : Nat) :
    root k c ≡ c ^ k.exponentQ [MOD k.q] := by
  have hdvd : k.q ∣ k.modulus := Dvd.intro_left _ hk.modulus.symm
  rw [root, powMod_eq, powMod_eq]
  generalize k.coefficient * _ % k.p = h
  calc _ ≡ (c % k.q) ^ k.exponentQ % k.q + h * k.q [MOD k.q] := (Nat.mod_modEq _ _).of_dvd hdvd
    _ ≡ (c % k.q) ^ k.exponentQ % k.q + 0 [MOD k.q] :=
        Nat.ModEq.add_left _ (Nat.modEq_zero_iff_dvd.2 (Dvd.intro_left _ rfl))
    _ ≡ (c % k.q) ^ k.exponentQ [MOD k.q] := Nat.mod_modEq _ _
    _ ≡ c ^ k.exponentQ [MOD k.q] := (Nat.mod_modEq c k.q).pow _

/-- Modulo the first prime the coefficient makes up for the difference of the two residues. -/
theorem root_modEq_p (hk : k.IsGenuine) (c : Nat) :
    root k c ≡ c ^ k.exponentP [MOD k.p] := by
  have hdvd : k.p ∣ k.modulus := Dvd.intro _ hk.modulus.symm
  rw [root, powMod_eq, powMod_eq]
  generalize hy : Nat.pow (c % k.q) k.exponentQ % k.q = y
  generalize hx : Nat.pow (c % k.p) k.exponentP % k.p = x
  have hyp : y % k.p ≤ x + k.p := (Nat.mod_lt y hk.prime_p.pos).le.trans (Nat.le_add_left _ _)
  have hinverse : k.coefficient * k.q ≡ 1 [MOD k.p] := by
    rw [Nat.ModEq, hk.coefficient, Nat.mod_eq_of_lt hk.prime_p.one_lt]
  -- The coefficient undoes `q`, so what is added makes up for the difference of the residues.
  calc _ ≡ y + k.coefficient * (x + k.p - y % k.p) % k.p * k.q [MOD k.p] :=
        (Nat.mod_modEq _ _).of_dvd hdvd
    _ ≡ y % k.p + k.coefficient * (x + k.p - y % k.p) * k.q [MOD k.p] :=
        (Nat.mod_modEq y k.p).symm.add ((Nat.mod_modEq _ _).mul_right _)
    _ = y % k.p + k.coefficient * k.q * (x + k.p - y % k.p) := by ring
    _ ≡ y % k.p + 1 * (x + k.p - y % k.p) [MOD k.p] := (hinverse.mul_right _).add_left _
    _ = x + k.p := by rw [Nat.one_mul, Nat.add_sub_cancel' hyp]
    _ ≡ x [MOD k.p] := Nat.add_mod_right x k.p
    _ ≡ (c % k.p) ^ k.exponentP [MOD k.p] := hx ▸ Nat.mod_modEq _ _
    _ ≡ c ^ k.exponentP [MOD k.p] := (Nat.mod_modEq c k.p).pow _

/-- The public power of the root is the number that it was taken of. -/
theorem root_pow_modEq (hk : k.IsGenuine) (c : Nat) :
    root k c ^ k.publicExponent ≡ c [MOD k.modulus] := by
  have hp : root k c ^ k.publicExponent ≡ c [MOD k.p] := by
    refine ((root_modEq_p hk c).pow _).trans ?_
    rw [← pow_mul]
    exact pow_modEq_self hk.prime_p hk.exponentP c
  have hq : root k c ^ k.publicExponent ≡ c [MOD k.q] := by
    refine ((root_modEq_q hk c).pow _).trans ?_
    rw [← pow_mul]
    exact pow_modEq_self hk.prime_q hk.exponentQ c
  have hcoprime : Nat.Coprime k.p k.q := (Nat.coprime_primes hk.prime_p hk.prime_q).2 hk.p_ne_q
  rw [hk.modulus]
  exact (Nat.modEq_and_modEq_iff_modEq_mul hcoprime).1 ⟨hp, hq⟩

/-! ## Messages -/

/-- A filled up digest begins with a zero and a one. -/
theorem number_padded_lt {length : Nat} (hlength : 54 ≤ length) (message : Bytes) :
    Digest.number (padded length message) < 2 * 256 ^ (length - 2) := by
  have htail : (digestHeader ++ Digest.digest message).length = 51 := by
    rw [List.length_append, Digest.length_digest]
    rfl
  have hbody : (List.replicate (length - 51 - 3) (0xff : UInt8) ++
      0x00 :: (digestHeader ++ Digest.digest message)).length = length - 2 := by
    rw [List.length_append, List.length_replicate, List.length_cons, htail]
    omega
  have hlt := Digest.number_lt (List.replicate (length - 51 - 3) (0xff : UInt8) ++
      0x00 :: (digestHeader ++ Digest.digest message))
  rw [padded, htail, List.cons_append, Digest.number_cons, List.cons_append, Digest.number_cons]
  rw [hbody] at hlt ⊢
  change 0 * _ + (1 * _ + _) < _
  omega

theorem pow_le_of_bitLength {n : Nat} (hn : n ≠ 0) : 2 ^ (bitLength n - 1) ≤ n := by
  rw [bitLength, if_neg hn, Nat.add_sub_cancel]
  exact Nat.log2_self_le hn

/-- **A genuine key can sign every message**, if its modulus has room for a filled up digest. -/
theorem exists_sign? (hk : k.IsGenuine) (hroom : 432 ≤ bitLength k.modulus) (message : Bytes) :
    ∃ signature, sign? k message = some signature := by
  have hlength : 54 ≤ (bitLength k.modulus + 7) / 8 := by omega
  generalize hc : Digest.number (padded ((bitLength k.modulus + 7) / 8) message) = c
  have hne : k.modulus ≠ 0 := by
    rw [hk.modulus]
    exact Nat.mul_ne_zero hk.prime_p.ne_zero hk.prime_q.ne_zero
  have hlt : c < k.modulus := by
    calc c < 2 * 256 ^ ((bitLength k.modulus + 7) / 8 - 2) := hc ▸ number_padded_lt hlength message
      _ = 2 ^ (8 * ((bitLength k.modulus + 7) / 8 - 2) + 1) := by
          rw [pow_succ', pow_mul]
          norm_num
      _ ≤ 2 ^ (bitLength k.modulus - 1) := Nat.pow_le_pow_right Nat.two_pos (by omega)
      _ ≤ k.modulus := pow_le_of_bitLength hne
  -- The check of the signature is for the very number, not for one in its class.
  have hpower : powMod (root k c) k.publicExponent k.modulus = c := by
    rw [powMod_eq]
    exact Eq.trans (root_pow_modEq hk c) (Nat.mod_eq_of_lt hlt)
  rw [sign?, hc, if_pos hpower]
  exact ⟨_, rfl⟩

end Rsa

end ServiceCall.Signature

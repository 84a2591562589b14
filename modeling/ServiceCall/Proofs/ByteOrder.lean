import ServiceCall.Encoding.Utf8

/-!
# The order of texts is that of their bytes

Texts are ordered by their characters. Whoever sorts them by their UTF-8 bytes gets the same order
(`utf8_lt_utf8_iff`), because the bytes of a character are digits of its code, six bits each, behind
a leading byte that tells by its mark how many there are: the longer the code, the higher the mark.
-/

namespace ServiceCall.Encoding

/-! ## The bytes of one code -/

/-- How many bytes stand behind the leading byte of a code. -/
def trailing (code : Nat) : Nat :=
  if code ≤ 0x7F then 0 else if code ≤ 0x7FF then 1 else if code ≤ 0xFFFF then 2 else 3

/-- What is added in the leading byte to tell how many bytes stand behind it. -/
def mark : Nat → Nat
  | 0 => 0
  | 1 => 0xC0
  | 2 => 0xE0
  | _ => 0xF0

/-- What is left of a code for its leading byte. -/
def lead : Nat → Nat → Nat
  | 0, code => code
  | k + 1, code => lead k (code / 64)

/-- A code in `k` bytes of six bits each, behind the leading byte. -/
def spelled (mark : Nat) : Nat → Nat → Bytes
  | 0, code => [UInt8.ofNat (code + mark)]
  | k + 1, code => spelled mark k (code / 64) ++ [UInt8.ofNat (code % 64 + 0x80)]

theorem trailing_cases (code : Nat) :
    code ≤ 0x7F ∧ trailing code = 0 ∨ 0x7F < code ∧ code ≤ 0x7FF ∧ trailing code = 1 ∨
      0x7FF < code ∧ code ≤ 0xFFFF ∧ trailing code = 2 ∨ 0xFFFF < code ∧ trailing code = 3 := by
  unfold trailing
  split
  · omega
  · split
    · omega
    · split <;> omega

theorem toNat_val_lt (c : Char) : c.val.toNat < 0x110000 := by
  rcases c.valid with h | h
  · exact Nat.lt_trans h (by decide)
  · exact h.2

theorem utf8EncodeChar_eq_spelled (c : Char) :
    String.utf8EncodeChar c
      = spelled (mark (trailing c.val.toNat)) (trailing c.val.toNat) c.val.toNat := by
  have hc := toNat_val_lt c
  simp only [String.utf8EncodeChar]
  generalize c.val.toNat = code at hc
  -- The leading byte of a code that is not too long needs no remainder.
  rcases trailing_cases code with ⟨h, ht⟩ | ⟨h, h', ht⟩ | ⟨h, h', ht⟩ | ⟨h, ht⟩
  · rw [if_pos h, ht]
    rfl
  · have hlead : code / 64 % 32 = code / 64 := by omega
    rw [if_neg (by omega), if_pos h', ht, hlead]
    rfl
  · have hlead : code / 4096 % 16 = code / 64 / 64 := by omega
    rw [if_neg (by omega), if_neg (by omega), if_pos h', ht, hlead]
    rfl
  · have hlead : code / 262144 % 8 = code / 64 / 64 / 64 := by omega
    have hnext : code / 4096 % 64 = code / 64 / 64 % 64 := by omega
    rw [if_neg (by omega), if_neg (by omega), if_neg (by omega), ht, hlead, hnext]
    rfl

/-- The leading byte of a character is a byte. -/
theorem lead_add_mark_lt {code : Nat} (h : code < 0x110000) :
    lead (trailing code) code + mark (trailing code) < 256 := by
  rcases trailing_cases code with ⟨hle, ht⟩ | ⟨hlt, hle, ht⟩ | ⟨hlt, hle, ht⟩ | ⟨hlt, ht⟩ <;>
    rw [ht] <;> simp only [lead, mark] <;> omega

/-- Of two codes with different numbers of bytes the lower one has the lower leading byte. -/
theorem lead_add_mark_lt_of_trailing {m n : Nat} (hmn : m < n) (h : trailing m ≠ trailing n) :
    lead (trailing m) m + mark (trailing m) < lead (trailing n) n + mark (trailing n) := by
  rcases trailing_cases m with ⟨hm, htm⟩ | ⟨hm, hm', htm⟩ | ⟨hm, hm', htm⟩ | ⟨hm, htm⟩ <;>
    rcases trailing_cases n with ⟨hn, htn⟩ | ⟨hn, hn', htn⟩ | ⟨hn, hn', htn⟩ | ⟨hn, htn⟩ <;>
    rw [htm, htn] at h ⊢ <;> simp only [lead, mark] <;> omega

theorem toNat_ofNat_of_lt {n : Nat} (h : n < 256) : (UInt8.ofNat n).toNat = n := by
  rw [UInt8.toNat_ofNat', Nat.mod_eq_of_lt h]

theorem ofNat_lt_ofNat {m n : Nat} (h : m < n) (hn : n < 256) : UInt8.ofNat m < UInt8.ofNat n := by
  rw [UInt8.lt_iff_toNat_lt, toNat_ofNat_of_lt (Nat.lt_trans h hn), toNat_ofNat_of_lt hn]
  exact h

/-- Codes of the same number of bytes are ordered as their bytes, whatever follows. -/
theorem spelled_append_lt {mark k m n : Nat} (h : m < n) (hn : lead k n + mark < 256)
    (xs ys : Bytes) : spelled mark k m ++ xs < spelled mark k n ++ ys := by
  induction k generalizing m n xs ys with
  | zero =>
    rw [spelled, spelled, List.singleton_append, List.singleton_append, List.cons_lt_cons_iff]
    exact .inl (ofNat_lt_ofNat (Nat.add_lt_add_right h mark) hn)
  | succ k ih =>
    rw [spelled, spelled, List.append_assoc, List.append_assoc]
    rcases Nat.lt_or_ge (m / 64) (n / 64) with hlt | hge
    · exact ih hlt hn _ _
    · -- The codes differ in their last six bits only.
      have hdiv : m / 64 = n / 64 := Nat.le_antisymm (Nat.div_le_div_right (Nat.le_of_lt h)) hge
      rw [hdiv]
      refine List.append_left_lt ?_
      rw [List.singleton_append, List.singleton_append, List.cons_lt_cons_iff]
      exact .inl (ofNat_lt_ofNat (by omega) (by omega))

theorem exists_spelled_eq_cons (mark k code : Nat) :
    ∃ tail, spelled mark k code = UInt8.ofNat (lead k code + mark) :: tail := by
  induction k generalizing code with
  | zero => exact ⟨[], rfl⟩
  | succ k ih =>
    obtain ⟨tail, htail⟩ := ih (code / 64)
    exact ⟨tail ++ [UInt8.ofNat (code % 64 + 0x80)], by rw [spelled, htail, lead, List.cons_append]⟩

/-- Of two characters the lower one has the lower bytes, whatever follows. -/
theorem utf8EncodeChar_append_lt {c d : Char} (h : c < d) (xs ys : Bytes) :
    String.utf8EncodeChar c ++ xs < String.utf8EncodeChar d ++ ys := by
  have hlt : c.val.toNat < d.val.toNat := h
  rw [utf8EncodeChar_eq_spelled, utf8EncodeChar_eq_spelled]
  have hd := lead_add_mark_lt (toNat_val_lt d)
  by_cases htrailing : trailing c.val.toNat = trailing d.val.toNat
  · rw [htrailing]
    exact spelled_append_lt hlt hd xs ys
  · -- The leading bytes tell different lengths.
    obtain ⟨tail, htail⟩ := exists_spelled_eq_cons (mark (trailing c.val.toNat))
      (trailing c.val.toNat) c.val.toNat
    obtain ⟨tail', htail'⟩ := exists_spelled_eq_cons (mark (trailing d.val.toNat))
      (trailing d.val.toNat) d.val.toNat
    rw [htail, htail', List.cons_append, List.cons_append, List.cons_lt_cons_iff]
    exact .inl (ofNat_lt_ofNat (lead_add_mark_lt_of_trailing hlt htrailing) hd)

/-! ## Whole texts -/

theorem flatMap_utf8EncodeChar_lt {cs ds : List Char} (h : cs < ds) :
    cs.flatMap String.utf8EncodeChar < ds.flatMap String.utf8EncodeChar := by
  induction cs generalizing ds with
  | nil =>
    cases ds with
    | nil => exact absurd h (List.not_lt_nil [])
    | cons d ds =>
      obtain ⟨tail, htail⟩ := exists_spelled_eq_cons (mark (trailing d.val.toNat))
        (trailing d.val.toNat) d.val.toNat
      rw [List.flatMap_nil, List.flatMap_cons, utf8EncodeChar_eq_spelled, htail, List.cons_append]
      exact List.nil_lt_cons _ _
  | cons c cs ih =>
    cases ds with
    | nil => exact absurd h (List.not_lt_nil _)
    | cons d ds =>
      rw [List.flatMap_cons, List.flatMap_cons]
      rcases List.cons_lt_cons_iff.1 h with hlt | ⟨rfl, hrest⟩
      · exact utf8EncodeChar_append_lt hlt _ _
      · exact List.append_left_lt (ih hrest)

/-- **Texts are ordered as their bytes.** -/
theorem utf8_lt_utf8_iff {s t : String} : utf8 s < utf8 t ↔ s < t := by
  have hmono {s t : String} (h : s < t) : utf8 s < utf8 t :=
    flatMap_utf8EncodeChar_lt (String.lt_iff.1 h)
  refine ⟨fun h ↦ ?_, hmono⟩
  refine String.not_le.1 fun hle ↦ ?_
  by_cases heq : t = s
  · exact List.lt_irrefl _ (heq ▸ h)
  · have hlt : t < s := String.not_le.1 fun hge ↦ heq (String.le_antisymm hle hge)
    exact List.lt_asymm h (hmono hlt)

end ServiceCall.Encoding

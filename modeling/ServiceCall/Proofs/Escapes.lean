import Mathlib.Data.List.Basic
import ServiceCall.Encoding.Percent

/-!
# Texts escaped for one segment

What percent encoding makes of an arbitrary text for its place in an address: only letters, digits,
`*-._` and percent signs with two hexadecimal digits behind each (`escaped_segment`). Decoding gives
back the bytes of the text (`decode_segment`), so different texts stay different
(`segment_injective`).

## Why decoding

What the escaped form of a text amounts to would be an induction over its bytes each time it is
asked. Since decoding undoes the escaping, it is a question about the text itself instead: an
escaped text is a single dot, say, exactly if the text is one.
-/

namespace ServiceCall.Encoding.Percent

/-! ## The form of escaped texts -/

/-- The characters that stand for themselves. -/
def isPlainChar (c : Char) : Bool := c.isAlphanum || c = '*' || c = '-' || c = '.' || c = '_'

/-- Characters that stand for themselves, and percent signs with two hexadecimal digits each. -/
inductive Escaped : List Char → Prop where
  | nil : Escaped []
  | plain {c cs} : isPlainChar c = true → Escaped cs → Escaped (c :: cs)
  | byte {h l cs} : (hexValue? h).isSome = true → (hexValue? l).isSome = true → Escaped cs →
    Escaped ('%' :: h :: l :: cs)

theorem Escaped.append {cs ds : List Char} (hc : Escaped cs) (hd : Escaped ds) :
    Escaped (cs ++ ds) := by
  induction hc with
  | nil => exact hd
  | plain hplain _ ih => exact .plain hplain ih
  | byte hhigh hlow _ ih => exact .byte hhigh hlow ih

/-- What holds of the ASCII characters one by one holds of all of them. -/
theorem forall_ascii {P : Char → Prop} (h : ∀ n < 0x80, P (Char.ofNat n)) {c : Char}
    (hc : c.toNat < 0x80) : P c := by
  have hchar := h c.toNat hc
  rwa [Char.ofNat_toNat] at hchar

theorem forall_byte {P : UInt8 → Prop} (h : ∀ n < 0x100, P (UInt8.ofNat n)) (b : UInt8) : P b := by
  have hbyte := h b.toNat b.toNat_lt_size
  rwa [UInt8.ofNat_toNat] at hbyte

theorem hexValue?_hexDigit {n : Nat} (h : n < 16) : hexValue? (hexDigit n) = some n := by
  have all : ∀ i : Fin 16, hexValue? (hexDigit i) = some i.val := by decide +kernel
  exact all ⟨n, h⟩

theorem toNat_lt_of_hexValue? {c : Char} (h : (hexValue? c).isSome = true) : c.toNat < 0x80 := by
  have hval : c.toNat = c.val.toNat := rfl
  have h9 : '9'.val.toNat = 57 := rfl
  have hF : 'F'.val.toNat = 70 := rfl
  have hf : 'f'.val.toNat = 102 := rfl
  unfold hexValue? at h
  simp only [Char.isDigit, Char.le_def, Bool.and_eq_true, decide_eq_true_eq,
    UInt32.le_iff_toNat_le, ge_iff_le] at h
  split at h
  · omega
  · split at h
    · omega
    · split at h
      · omega
      · cases h

theorem isAlphanum_of_hexValue? {c : Char} (h : (hexValue? c).isSome = true) :
    c.isAlphanum = true :=
  forall_ascii (P := fun c ↦ (hexValue? c).isSome = true → c.isAlphanum = true)
    (by decide +kernel) (toNat_lt_of_hexValue? h) h

theorem toNat_lt_of_isPlainChar {c : Char} (h : isPlainChar c = true) : c.toNat < 0x80 := by
  have hval : c.toNat = c.val.toNat := rfl
  simp only [isPlainChar, Bool.or_eq_true, decide_eq_true_eq] at h
  rcases h with (((h | rfl) | rfl) | rfl) | rfl
  · rcases Bool.or_eq_true_iff.1 h with hletter | hdigit
    · rcases Bool.or_eq_true_iff.1 hletter with hupper | hlower
      · have hZ : c.val.toNat ≤ 90 := (of_decide_eq_true hupper).2
        omega
      · have hz : c.val.toNat ≤ 122 := of_decide_eq_true (Bool.and_eq_true_iff.1 hlower).2
        omega
    · have h9 : c.val.toNat ≤ 57 := of_decide_eq_true (Bool.and_eq_true_iff.1 hdigit).2
      omega
  all_goals decide

theorem Escaped.isPlainChar_or_eq {cs : List Char} (h : Escaped cs) {c : Char} (hc : c ∈ cs) :
    isPlainChar c = true ∨ c = '%' := by
  have hhex : ∀ {d : Char}, (hexValue? d).isSome = true → isPlainChar d = true := fun hd ↦ by
    simp [isPlainChar, isAlphanum_of_hexValue? hd]
  induction h with
  | nil => cases hc
  | plain hplain _ ih =>
    rcases List.mem_cons.1 hc with rfl | hc
    · exact .inl hplain
    · exact ih hc
  | byte hhigh hlow _ ih =>
    simp only [List.mem_cons] at hc
    rcases hc with rfl | rfl | rfl | hc
    · exact .inr rfl
    · exact .inl (hhex hhigh)
    · exact .inl (hhex hlow)
    · exact ih hc

theorem escaped_segmentByte (b : UInt8) : Escaped (segmentByte b) := by
  unfold segmentByte
  by_cases hb : isPlain b = true
  · have hplain : isPlainChar (Char.ofNat b.toNat) = true := by
      rw [isPlain, Bool.and_eq_true] at hb
      exact hb.2
    rw [if_pos hb]
    exact .plain hplain .nil
  · have hsize : b.toNat < 256 := b.toNat_lt_size
    have hhigh : hexValue? (hexDigit (b.toNat / 16)) = some (b.toNat / 16) :=
      hexValue?_hexDigit (by omega)
    have hlow : hexValue? (hexDigit (b.toNat % 16)) = some (b.toNat % 16) :=
      hexValue?_hexDigit (by omega)
    rw [if_neg hb]
    exact .byte (by rw [hhigh]; rfl) (by rw [hlow]; rfl) .nil

theorem escaped_segment (s : String) : Escaped (segment s).toList := by
  rw [segment, String.toList_ofList]
  induction utf8 s with
  | nil => exact .nil
  | cons b bs ih =>
    rw [List.flatMap_cons]
    exact (escaped_segmentByte b).append ih

/-! ## Decoding -/

theorem decode_cons_of_ne {c : Char} (h : c ≠ '%') (cs : List Char) :
    decode (c :: cs) = String.utf8EncodeChar c ++ decode cs := by
  rw [decode]
  rintro _ _ _ rfl
  exact absurd rfl h

theorem decode_escape_append (b : UInt8) (cs : List Char) :
    decode (escape b ++ cs) = b :: decode cs := by
  have hsize : b.toNat < 256 := b.toNat_lt_size
  have hdigits : b.toNat / 16 * 16 + b.toNat % 16 = b.toNat := Nat.div_add_mod' _ _
  rw [escape, List.cons_append, List.cons_append, List.cons_append, List.nil_append, decode,
    hexValue?_hexDigit (by omega), hexValue?_hexDigit (by omega)]
  simp only [hdigits, UInt8.ofNat_toNat]

theorem decode_segmentByte_append (b : UInt8) (cs : List Char) :
    decode (segmentByte b ++ cs) = b :: decode cs := by
  unfold segmentByte
  by_cases hb : isPlain b = true
  · -- The bytes that stand for themselves are ASCII, and the percent sign is not one of them.
    have hall : ∀ b, isPlain b = true →
        Char.ofNat b.toNat ≠ '%' ∧ String.utf8EncodeChar (Char.ofNat b.toNat) = [b] :=
      forall_byte (by decide +kernel)
    obtain ⟨hne, hbytes⟩ := hall b hb
    rw [if_pos hb, List.singleton_append, decode_cons_of_ne hne, hbytes, List.singleton_append]
  · rw [if_neg hb, decode_escape_append]

theorem decode_segment_append (s : String) (cs : List Char) :
    decode ((segment s).toList ++ cs) = utf8 s ++ decode cs := by
  rw [segment, String.toList_ofList]
  induction utf8 s with
  | nil => rfl
  | cons b bs ih =>
    rw [List.flatMap_cons, List.append_assoc, decode_segmentByte_append, ih, List.cons_append]

/-- **Escaping loses nothing.** -/
theorem decode_segment (s : String) : decode (segment s).toList = utf8 s := by
  have h := decode_segment_append s []
  rwa [List.append_nil, decode, List.append_nil] at h

theorem utf8_injective {s t : String} (h : utf8 s = utf8 t) : s = t := by
  have hs := ofUtf8?_utf8 s
  rw [h, ofUtf8?_utf8] at hs
  exact (Option.some.inj hs).symm

theorem segment_injective {s t : String} (h : segment s = segment t) : s = t := by
  apply utf8_injective
  rw [← decode_segment s, ← decode_segment t, h]

@[simp] theorem segment_eq_empty_iff {s : String} : segment s = "" ↔ s = "" := by
  constructor
  · intro h
    exact segment_injective (h.trans (by decide))
  · rintro rfl
    decide

/-! ## The first character -/

theorem head?_utf8EncodeChar_eq_dot_iff {c : Char} :
    (String.utf8EncodeChar c).head? = some 0x2E ↔ c = '.' := by
  constructor
  · intro h
    by_cases hc : c.toNat < 0x80
    · have hall : ∀ n < 0x80, (String.utf8EncodeChar (Char.ofNat n)).head? = some 0x2E →
          Char.ofNat n = '.' := by decide +kernel
      exact forall_ascii (P := fun c ↦ (String.utf8EncodeChar c).head? = some 0x2E → c = '.') hall
        hc h
    · -- The first byte of any other character has its highest bit set.
      have hval : ¬ c.val.toNat ≤ 127 := fun hle ↦ hc (Nat.lt_succ_of_le hle)
      have hhigh : ∀ n : Nat, 128 ≤ n % 256 → UInt8.ofNat n ≠ 0x2E := by
        intro n hn heq
        have hnat := congrArg UInt8.toNat heq
        have hdot : (0x2E : UInt8).toNat = 46 := rfl
        rw [UInt8.toNat_ofNat'] at hnat
        omega
      simp only [String.utf8EncodeChar, hval, if_false] at h
      split at h
      · exact absurd (Option.some.inj h) (hhigh _ (by omega))
      · split at h
        · exact absurd (Option.some.inj h) (hhigh _ (by omega))
        · exact absurd (Option.some.inj h) (hhigh _ (by omega))
  · rintro rfl
    decide

theorem head?_segment_eq_dot_iff {s : String} :
    (segment s).toList.head? = some '.' ↔ s.toList.head? = some '.' := by
  constructor
  · intro h
    obtain ⟨cs, hcs⟩ := List.head?_eq_some_iff.1 h
    have hbytes : (utf8 s).head? = some 0x2E := by
      rw [← decode_segment s, hcs, decode_cons_of_ne (by decide)]
      rfl
    cases hs : s.toList with
    | nil =>
      rw [utf8, hs] at hbytes
      cases hbytes
    | cons d ds =>
      rw [utf8, hs, List.flatMap_cons, List.head?_append_of_ne_nil _ String.utf8EncodeChar_ne_nil]
        at hbytes
      rw [head?_utf8EncodeChar_eq_dot_iff.1 hbytes]
      rfl
  · intro h
    obtain ⟨cs, hcs⟩ := List.head?_eq_some_iff.1 h
    rw [segment, String.toList_ofList, utf8, hcs]
    rfl

end ServiceCall.Encoding.Percent

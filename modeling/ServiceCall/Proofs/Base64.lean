import Mathlib.Data.Option.Basic
import ServiceCall.Encoding.Base64

/-!
# Base64 read back

What is encoded is decoded to the same bytes, in either alphabet (`Encoding.Base64.decode?_encode`).
A whole group of four digits stands for three bytes; only the last group may be short, and how it is
read depends on how the alphabet fills it up.

The characters of an encoded text are digits of the alphabet and the filling, and nothing else
(`Encoding.Base64.mem_encode`).
-/

namespace ServiceCall.Encoding.Base64

variable (a : Base64)

/-! ## Groups -/

section Groups

variable {k l m n : Nat} (hk : k < 64) (hl : l < 64)

include hk hl

/-- Four digits are read as a whole group, wherever they stand. -/
theorem decode?_digits (hm : m < 64) (hn : n < 64) (rest : List Char) :
    decode? a (digit a k :: digit a l :: digit a m :: digit a n :: rest)
      = (decode? a rest).map (threeBytes k l m n ++ ·) := by
  have hfill : digit a n ≠ '=' := digit_ne_equals a hn
  rw [decode?]
  · simp only [value?_digit a hk, value?_digit a hl, value?_digit a hm, value?_digit a hn]
    cases decode? a rest <;> rfl
  · intro _ h
    exact absurd h hfill
  · intro h
    exact absurd h hfill

theorem decode?_twoDigits :
    decode? a ([digit a k, digit a l] ++ filling a 2) = oneByte? k l := by
  cases a with
  | standard =>
    change decode? standard [digit standard k, digit standard l, '=', '='] = _
    rw [decode?, value?_digit _ hk, value?_digit _ hl]
    rfl
  | urlSafe =>
    change decode? urlSafe [digit urlSafe k, digit urlSafe l] = _
    rw [decode?, value?_digit _ hk, value?_digit _ hl]
    rfl

theorem decode?_threeDigits (hm : m < 64) :
    decode? a ([digit a k, digit a l, digit a m] ++ filling a 1) = twoBytes? k l m := by
  have hfill : digit a m ≠ '=' := digit_ne_equals a hm
  cases a with
  | standard =>
    change decode? standard [digit standard k, digit standard l, digit standard m, '='] = _
    rw [decode?, value?_digit _ hk, value?_digit _ hl, value?_digit _ hm]
    · rfl
    · exact hfill
  | urlSafe =>
    change decode? urlSafe [digit urlSafe k, digit urlSafe l, digit urlSafe m] = _
    rw [decode?, value?_digit _ hk, value?_digit _ hl, value?_digit _ hm]
    rfl

end Groups

/-! ## Bytes put together from digits -/

theorem threeBytes_of_bytes (x y z : UInt8) :
    threeBytes ((x.toNat * 65536 + y.toNat * 256 + z.toNat) / 262144)
        ((x.toNat * 65536 + y.toNat * 256 + z.toNat) / 4096 % 64)
        ((x.toNat * 65536 + y.toNat * 256 + z.toNat) / 64 % 64)
        ((x.toNat * 65536 + y.toNat * 256 + z.toNat) % 64) = [x, y, z] := by
  have hx := x.toNat_lt
  have hy := y.toNat_lt
  have hz := z.toNat_lt
  generalize hn : x.toNat * 65536 + y.toNat * 256 + z.toNat = n
  have hwhole : ((n / 262144 * 64 + n / 4096 % 64) * 64 + n / 64 % 64) * 64 + n % 64 = n := by omega
  rw [threeBytes]
  simp only [hwhole]
  rw [show n / 65536 = x.toNat by omega, show n / 256 % 256 = y.toNat by omega,
    show n % 256 = z.toNat by omega, UInt8.ofNat_toNat, UInt8.ofNat_toNat, UInt8.ofNat_toNat]

theorem twoBytes?_of_bytes (x y : UInt8) :
    twoBytes? ((x.toNat * 256 + y.toNat) * 4 / 4096) ((x.toNat * 256 + y.toNat) * 4 / 64 % 64)
        ((x.toNat * 256 + y.toNat) * 4 % 64) = some [x, y] := by
  have hx := x.toNat_lt
  have hy := y.toNat_lt
  generalize hn : x.toNat * 256 + y.toNat = n
  have hwhole : ((n * 4 / 4096 * 64 + n * 4 / 64 % 64) * 64 + n * 4 % 64) / 4 = n := by omega
  rw [twoBytes?, if_pos (by omega)]
  simp only [hwhole]
  rw [show n / 256 = x.toNat by omega, show n % 256 = y.toNat by omega, UInt8.ofNat_toNat,
    UInt8.ofNat_toNat]

theorem oneByte?_of_byte (x : UInt8) :
    oneByte? (x.toNat * 16 / 64) (x.toNat * 16 % 64) = some [x] := by
  have hx := x.toNat_lt
  have hwhole : (x.toNat * 16 / 64 * 64 + x.toNat * 16 % 64) / 16 = x.toNat := by omega
  rw [oneByte?, if_pos (by omega), hwhole, UInt8.ofNat_toNat]

/-! ## Whole texts -/

/-- What is encoded is decoded to the same bytes. -/
theorem decode?_encode (bytes : Bytes) : decode? a (encode a bytes) = some bytes := by
  induction bytes using encode.induct with
  | case1 x y z rest ih =>
    have hx := x.toNat_lt
    have hy := y.toNat_lt
    have hz := z.toNat_lt
    rw [encode, decode?_digits a (by omega) (by omega) (by omega) (by omega), ih,
      threeBytes_of_bytes]
    rfl
  | case2 x y =>
    have hx := x.toNat_lt
    have hy := y.toNat_lt
    rw [encode, decode?_threeDigits a (by omega) (by omega) (by omega), twoBytes?_of_bytes]
  | case3 x =>
    have hx := x.toNat_lt
    rw [encode, decode?_twoDigits a (by omega) (by omega), oneByte?_of_byte]
  | case4 => rw [encode, decode?]

/-- The characters of an encoded text are digits, and equals signs where groups are filled up. -/
theorem mem_encode {a : Base64} {c : Char} {bytes : Bytes} (h : c ∈ encode a bytes) :
    (∃ n < 64, c = digit a n) ∨ (a = standard ∧ c = '=') := by
  have hfilling : ∀ n, c ∈ filling a n → a = standard ∧ c = '=' := by
    intro n hc
    cases a with
    | standard => exact ⟨rfl, List.eq_of_mem_replicate hc⟩
    | urlSafe => cases hc
  induction bytes using encode.induct with
  | case1 x y z rest ih =>
    have hx := x.toNat_lt
    have hy := y.toNat_lt
    have hz := z.toNat_lt
    simp only [encode, List.mem_cons] at h
    rcases h with rfl | rfl | rfl | rfl | h
    · exact .inl ⟨_, by omega, rfl⟩
    · exact .inl ⟨_, by omega, rfl⟩
    · exact .inl ⟨_, by omega, rfl⟩
    · exact .inl ⟨_, by omega, rfl⟩
    · exact ih h
  | case2 x y =>
    have hx := x.toNat_lt
    have hy := y.toNat_lt
    simp only [encode, List.mem_append, List.mem_cons, List.not_mem_nil, or_false] at h
    rcases h with (rfl | rfl | rfl) | h
    · exact .inl ⟨_, by omega, rfl⟩
    · exact .inl ⟨_, by omega, rfl⟩
    · exact .inl ⟨_, by omega, rfl⟩
    · exact .inr (hfilling 1 h)
  | case3 x =>
    have hx := x.toNat_lt
    simp only [encode, List.mem_append, List.mem_cons, List.not_mem_nil, or_false] at h
    rcases h with (rfl | rfl) | h
    · exact .inl ⟨_, by omega, rfl⟩
    · exact .inl ⟨_, by omega, rfl⟩
    · exact .inr (hfilling 2 h)
  | case4 =>
    rw [encode] at h
    cases h

/-- What no digit and no filling is does not occur. -/
theorem notMem_encode {a : Base64} {c : Char} (hdigit : ∀ n < 64, digit a n ≠ c) (hc : c ≠ '=')
    (bytes : Bytes) : c ∉ encode a bytes := by
  intro h
  rcases mem_encode h with ⟨n, hn, hcn⟩ | ⟨-, hcn⟩
  · exact hdigit n hn hcn.symm
  · exact hc hcn

/-- The two alphabets write the same bytes differently, and fill up short groups or not. -/
example : String.ofList (encode standard [0xfb, 0xef, 0xff, 0xff]) = "++///w==" ∧
    String.ofList (encode urlSafe [0xfb, 0xef, 0xff, 0xff]) = "--___w" := by
  decide +kernel

end ServiceCall.Encoding.Base64

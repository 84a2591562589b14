import ServiceCall.Args

/-!
# What a present argument reads as

Whether an argument is there and what it reads as are asked in different places. The two agree on
scalars: one that is there has a text, and the text is not blank (`Args.exists_holds`). They differ
on lists and objects, which are there but have no text (`Args.text?_of_isComposite`); a place that
asks only whether an argument is there lets them pass.
-/

namespace ServiceCall

theorem Text.isBlank_eq_false_iff {s : String} :
    isBlank s = false ↔ ∃ c ∈ s.toList, isSpace c = false := by
  simp [isBlank]

/-! ## The texts of numbers -/

namespace Number

theorem decimalDigit_mem_digits (n : Nat) : decimalDigit n ∈ digits n := by
  unfold digits
  split
  · exact List.mem_singleton_self _
  · exact List.mem_append_right _ (List.mem_singleton_self _)

theorem isSpace_decimalDigit (n : Nat) : Text.isSpace (decimalDigit n) = false := by
  have all : ∀ d : Fin 10, Text.isSpace (Char.ofNat (48 + d)) = false := by decide +kernel
  exact all ⟨n % 10, Nat.mod_lt _ (by decide)⟩

theorem point_mem_plainText (ds : List Char) (exponent point : Int) :
    '.' ∈ plainText ds exponent point := by
  unfold plainText
  split
  · simp
  · split
    · simp
    · simp

/-- In the text of a number some character is no white space: a digit, the sign, the point or the
mark of the exponent. -/
theorem exists_not_isSpace (n : Number) : ∃ c ∈ n.text, Text.isSpace c = false := by
  cases n with
  | int i =>
    rw [text, intText]
    split
    · exact ⟨'-', List.mem_cons_self, by decide⟩
    · exact ⟨_, decimalDigit_mem_digits _, isSpace_decimalDigit _⟩
  | real x =>
    rw [text, realText]
    split
    · exact ⟨'-', List.mem_cons_self, by decide⟩
    · split
      · exact ⟨'0', List.mem_cons_self, by decide⟩
      · split
        · exact ⟨'.', point_mem_plainText .., by decide⟩
        · exact ⟨'e', by simp [exponentText], by decide⟩

end Number

/-! ## Scalars, lists and objects -/

namespace Json

/-- A list or an object. -/
def isComposite : Json → Bool
  | arr _ | obj _ => true
  | _ => false

/-- Neither null nor a string. -/
def isNonString : Json → Bool
  | null | str _ => false
  | _ => true

theorem exists_scalarText? {v : Json} (hpresent : v.isPresent = true)
    (hscalar : v.isComposite = false) : ∃ t, v.scalarText? = some t ∧ Text.isBlank t = false := by
  cases v with
  | null => cases hpresent
  | bool b => exact ⟨_, rfl, by cases b <;> decide⟩
  | num n =>
    refine ⟨_, rfl, Text.isBlank_eq_false_iff.2 ?_⟩
    rw [String.toList_ofList]
    exact n.exists_not_isSpace
  | str s => exact ⟨s, rfl, by simpa [isPresent] using hpresent⟩
  | arr items => cases hscalar
  | obj fields => cases hscalar

end Json

namespace Args

variable {args : Args} {key : String}

theorem present?_eq_none_iff : args.present? key = none ↔ args.isPresent key = false := by
  rw [isPresent, ← Option.not_isSome_iff_eq_none, Bool.not_eq_true]

theorem isPresent_of_present? {v : Json} (h : args.present? key = some v) :
    args.isPresent key = true := by
  rw [isPresent, h, Option.isSome_some]

/-- The argument is a list or an object. -/
def isComposite (args : Args) (key : String) : Bool := (args.get? key).any Json.isComposite

theorem isComposite_iff :
    args.isComposite key = true ↔ ∃ v, args.get? key = some v ∧ v.isComposite = true := by
  rw [isComposite]
  cases args.get? key <;> simp

theorem isPresent_of_isComposite (h : args.isComposite key = true) : args.isPresent key = true := by
  obtain ⟨v, hv, hcomposite⟩ := isComposite_iff.1 h
  refine isPresent_iff.2 ⟨v, hv, ?_⟩
  cases v with
  | arr items | obj fields => rfl
  | null | bool b | num n | str s => cases hcomposite

theorem text?_of_isComposite (h : args.isComposite key = true) : args.text? key = none := by
  obtain ⟨v, hv, hcomposite⟩ := isComposite_iff.1 h
  rw [text?, present?, hv]
  cases v with
  | arr items | obj fields => rfl
  | null | bool b | num n | str s => cases hcomposite

theorem textOr_of_isComposite (h : args.isComposite key = true) (default : String) :
    args.textOr key default = default := by
  rw [textOr, text?_of_isComposite h, Option.getD_none]

/-- The argument is there and no string. -/
def isNonString (args : Args) (key : String) : Bool := (args.get? key).any Json.isNonString

/-- The text is that of the argument, and not blank. -/
def Holds (args : Args) (key text : String) : Prop :=
  args.text? key = some text ∧ Text.isBlank text = false

theorem Holds.textOr_eq {text : String} (h : args.Holds key text) (default : String) :
    args.textOr key default = text := by
  rw [textOr, h.1, Option.getD_some]

/-- What is read is the text of the argument if that has one. -/
theorem holds_textOr_iff : args.Holds key (args.textOr key "") ↔ ∃ text, args.Holds key text := by
  refine ⟨fun h ↦ ⟨_, h⟩, ?_⟩
  rintro ⟨text, h⟩
  rw [h.textOr_eq]
  exact h

/-- An argument that is there and neither a list nor an object has a text, which is not blank. -/
theorem exists_holds (hpresent : args.isPresent key = true)
    (hscalar : args.isComposite key = false) : ∃ text, args.Holds key text := by
  obtain ⟨v, hv, hvalue⟩ := isPresent_iff.1 hpresent
  have hsc : v.isComposite = false := by
    rw [isComposite, hv] at hscalar
    exact hscalar
  obtain ⟨text, htext, hblank⟩ := Json.exists_scalarText? hvalue hsc
  exact ⟨text, text?_eq_some_iff.2 ⟨v, present?_eq_some_iff.2 ⟨hv, hvalue⟩, htext⟩, hblank⟩

theorem isBlank_of_text? {text : String} (h : args.text? key = some text) :
    Text.isBlank text = false := by
  obtain ⟨v, hv, -⟩ := text?_eq_some_iff.1 h
  have hpresent : args.isPresent key = true := isPresent_of_present? hv
  have hscalar : args.isComposite key = false := by
    refine Bool.eq_false_iff.2 fun hcomposite ↦ ?_
    rw [text?_of_isComposite hcomposite] at h
    cases h
  obtain ⟨text', htext', hblank⟩ := exists_holds hpresent hscalar
  rw [h] at htext'
  cases htext'
  exact hblank

theorem isBlank_textOr {default : String} (h : Text.isBlank default = false) :
    Text.isBlank (args.textOr key default) = false := by
  rw [textOr]
  cases htext : args.text? key with
  | none => exact h
  | some text => exact isBlank_of_text? htext

/-- Of the arguments that are there, the lists and objects are the ones without a text. -/
theorem exists_holds_iff (hpresent : args.isPresent key = true) :
    (∃ text, args.Holds key text) ↔ args.isComposite key = false := by
  constructor
  · rintro ⟨text, htext, -⟩
    refine Bool.eq_false_iff.2 fun hcomposite ↦ ?_
    rw [text?_of_isComposite hcomposite] at htext
    cases htext
  · exact exists_holds hpresent

/-- A string is read if it is there and not blank. -/
theorem string?_eq_some_iff {s : String} :
    args.string? key = some s ↔ args.get? key = some (.str s) ∧ Text.isBlank s = false := by
  rw [string?, Option.bind_eq_some_iff]
  constructor
  · rintro ⟨v, hv, hs⟩
    obtain ⟨hget, hpresent⟩ := present?_eq_some_iff.1 hv
    cases v with
    | str t =>
      cases hs
      exact ⟨hget, by simpa [Json.isPresent] using hpresent⟩
    | null | bool b | num n | arr items | obj fields => cases hs
  · rintro ⟨hget, hblank⟩
    exact ⟨.str s, present?_eq_some_iff.2 ⟨hget, by simp [Json.isPresent, hblank]⟩, rfl⟩

/-- A string is not read where nothing is there, or something that is no string. -/
theorem string?_eq_none_iff :
    args.string? key = none ↔ args.isPresent key = false ∨ args.isNonString key = true := by
  rw [string?, isPresent, present?, isNonString]
  cases args.get? key with
  | none => simp
  | some v =>
    cases v with
    | str s =>
      cases hblank : Text.isBlank s <;>
        simp [Json.isPresent, Json.isNonString, Json.string?, hblank]
    | null | bool b | num n | arr items | obj fields =>
      simp [Json.isPresent, Json.isNonString, Json.string?]

theorem exists_string?_iff (hpresent : args.isPresent key = true) :
    (∃ s, args.string? key = some s) ↔ args.isNonString key = false := by
  rw [← Option.ne_none_iff_exists', ne_eq, string?_eq_none_iff, hpresent]
  simp

theorem holds_of_string? {s : String} (h : args.string? key = some s) : args.Holds key s := by
  obtain ⟨hget, hblank⟩ := string?_eq_some_iff.1 h
  have hpresent : args.present? key = some (.str s) :=
    present?_eq_some_iff.2 ⟨hget, by simp [Json.isPresent, hblank]⟩
  exact ⟨text?_of_present? hpresent, hblank⟩

end Args

end ServiceCall

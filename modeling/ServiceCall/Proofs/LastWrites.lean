import Mathlib.Data.List.Induction
import ServiceCall.Proofs.Bodies

/-!
# The last write counts

Bodies are built by copies, tables by entries and registries by registrations, one after the other,
and in each of these a later step may write where an earlier one has written. What a step writes
in one place can be said without the state in which it is taken. Of a whole run it then follows what
the place holds in the end (`foldl_eq_some_iff`): what the last step that writes there has written,
or what was there before if no step does.

"The last one" is said of the list of steps alone (`IsLast`): the step stands in the list, and no
step behind it writes in the same place.
-/

namespace ServiceCall

universe u v w

/-! ## The last element with a property -/

section IsLast

variable {β : Type u} {p q : β → Prop} {l : List β} {x y : β}

/-- Of the elements with the property, this one comes last in the list. -/
def IsLast (p : β → Prop) (l : List β) (x : β) : Prop :=
  ∃ before after, l = before ++ x :: after ∧ p x ∧ ∀ y ∈ after, ¬ p y

theorem isLast_congr (h : ∀ x, p x ↔ q x) : IsLast p l x ↔ IsLast q l x := by
  rw [show p = q from funext fun x ↦ propext (h x)]

theorem not_isLast_nil : ¬ IsLast p [] x := by
  rintro ⟨before, after, hnil, -, -⟩
  exact absurd hnil (by simp)

/-- An element put behind the others is the last one if it has the property, and otherwise it does
not matter. -/
theorem isLast_append_singleton :
    IsLast p (l ++ [y]) x ↔ (p y ∧ x = y) ∨ (¬ p y ∧ IsLast p l x) := by
  constructor
  · rintro ⟨before, after, hsplit, hx, hafter⟩
    rcases List.eq_nil_or_concat' after with rfl | ⟨front, z, rfl⟩
    · obtain ⟨-, rfl⟩ := List.append_singleton_inj.1 hsplit
      exact .inl ⟨hx, rfl⟩
    · -- The last element of the list is the last one behind `x`.
      rw [← List.cons_append, ← List.append_assoc] at hsplit
      obtain ⟨rfl, rfl⟩ := List.append_singleton_inj.1 hsplit
      refine .inr ⟨hafter y (by simp), before, front, rfl, hx, fun z hz ↦ ?_⟩
      exact hafter z (List.mem_append_left _ hz)
  · rintro (⟨hy, rfl⟩ | ⟨hy, before, after, rfl, hx, hafter⟩)
    · exact ⟨l, [], rfl, hy, by simp⟩
    · refine ⟨before, after ++ [y], by simp, hx, fun z hz ↦ ?_⟩
      rcases List.mem_append.1 hz with hz | hz
      · exact hafter z hz
      · exact List.mem_singleton.1 hz ▸ hy

theorem IsLast.mem (h : IsLast p l x) : x ∈ l := by
  obtain ⟨before, after, rfl, -, -⟩ := h
  simp

theorem IsLast.holds (h : IsLast p l x) : p x := by
  obtain ⟨before, after, -, hx, -⟩ := h
  exact hx

theorem exists_isLast_iff : (∃ x, IsLast p l x) ↔ ∃ x ∈ l, p x := by
  constructor
  · rintro ⟨x, hx⟩
    exact ⟨x, hx.mem, hx.holds⟩
  · induction l using List.reverseRecOn with
    | nil => simp
    | append_singleton l y ih =>
      rintro ⟨x, hmem, hx⟩
      by_cases hy : p y
      · exact ⟨y, isLast_append_singleton.2 (.inl ⟨hy, rfl⟩)⟩
      · have hmem' : x ∈ l := by
          rcases List.mem_append.1 hmem with hl | hl
          · exact hl
          · exact absurd (List.mem_singleton.1 hl ▸ hx) hy
        obtain ⟨z, hz⟩ := ih ⟨x, hmem', hx⟩
        exact ⟨z, isLast_append_singleton.2 (.inr ⟨hy, hz⟩)⟩

/-- Where the property tells one element from all others, the order does not matter. -/
theorem isLast_iff_mem (h : ∀ x ∈ l, ∀ y ∈ l, p x → p y → x = y) :
    IsLast p l x ↔ x ∈ l ∧ p x := by
  constructor
  · intro hx
    exact ⟨hx.mem, hx.holds⟩
  · rintro ⟨hmem, hx⟩
    obtain ⟨y, hy⟩ := exists_isLast_iff.2 ⟨x, hmem, hx⟩
    rwa [h x hmem y hy.mem hx hy.holds]

/-- Among entries the last one under a key is told by its value. -/
theorem exists_isLast_entry_iff {κ : Type v} {α : Type w} {p : κ × α → Prop} {l : List (κ × α)}
    {key : κ} {a : α} (hkey : ∀ e, p e → e.1 = key) :
    (∃ e, IsLast p l e ∧ e.2 = a) ↔ IsLast p l (key, a) := by
  constructor
  · rintro ⟨⟨k, b⟩, hlast, rfl⟩
    obtain rfl : k = key := hkey _ hlast.holds
    exact hlast
  · intro hlast
    exact ⟨(key, a), hlast, rfl⟩

end IsLast

/-! ## Runs of steps -/

section Runs

variable {σ : Type u} {β : Type v} {α : Type w} {step : σ → β → σ} (view : σ → Option α)

/-- **What a run leaves in one place.** If every step either writes its own value there or leaves
the place alone, then in the end the place holds what the last step that writes there has written,
and what it held at the start if there is none. -/
theorem foldl_eq_some_iff {write : β → Option α}
    (hstep : ∀ s x, view (step s x) = (write x).or (view s)) (l : List β) (s : σ) (a : α) :
    view (l.foldl step s) = some a ↔
      (∃ x, IsLast (fun x ↦ (write x).isSome = true) l x ∧ write x = some a) ∨
        (∀ x ∈ l, write x = none) ∧ view s = some a := by
  induction l using List.reverseRecOn with
  | nil => simp [not_isLast_nil]
  | append_singleton l y ih =>
    rw [List.foldl_append, List.foldl_cons, List.foldl_nil, hstep]
    simp only [isLast_append_singleton]
    cases hy : write y with
    | none =>
      -- A step that writes nothing here counts neither as the last one nor against there being
      -- none.
      rw [Option.none_or, ih]
      simp [or_imp, forall_and, hy]
    | some b =>
      rw [Option.some_or]
      simp [or_imp, forall_and, hy]

/-- The same where a condition on the step tells whether it writes in the place. -/
theorem foldl_eq_some_iff_of_ite {p : β → Prop} [DecidablePred p] {f : β → α}
    (hstep : ∀ s x, view (step s x) = if p x then some (f x) else view s) (l : List β) (s : σ)
    (a : α) :
    view (l.foldl step s) = some a ↔
      (∃ x, IsLast p l x ∧ f x = a) ∨ (∀ x ∈ l, ¬ p x) ∧ view s = some a := by
  have hor : ∀ s x, view (step s x) = (if p x then some (f x) else none).or (view s) := by
    intro s x
    rw [hstep]
    split <;> rfl
  have hlast (x : β) :
      IsLast (fun x ↦ (if p x then some (f x) else none).isSome = true) l x ↔ IsLast p l x :=
    isLast_congr fun x ↦ by simp
  rw [foldl_eq_some_iff view hor]
  refine or_congr (exists_congr fun x ↦ ?_) (and_congr_left fun _ ↦ ?_)
  · rw [hlast]
    exact and_congr_right fun hx ↦ by rw [if_pos hx.holds, Option.some.injEq]
  · exact forall₂_congr fun x _ ↦ by simp

end Runs

/-! ## Copies into a body -/

namespace Part

/-- Copies of arguments under keys that need not be their own names, pair by pair. -/
def copiesAs (pairs : List (String × String)) : List Part := pairs.map fun p ↦ copy p.1 p.2

theorem copies_eq_copiesAs (names : List String) :
    copies names = copiesAs (names.map fun name ↦ (name, name)) := by
  rw [copies, copiesAs, List.map_map]
  rfl

theorem applyAll_eq_foldl (args : Args) (payload : Payload) (parts : List Part) :
    applyAll args payload parts = parts.foldl (apply args) payload := by
  induction parts generalizing payload with
  | nil => rfl
  | cons p parts ih => rw [applyAll, ih, List.foldl_cons]

/-- What one copy puts under a key. -/
def copied? (args : Args) (key : String) (p : String × String) : Option Json :=
  if p.2 = key then args.present? p.1 else none

theorem get?_apply_copy_eq_or (args : Args) (key : String) (payload : Payload)
    (p : String × String) :
    (apply args payload (copy p.1 p.2)).get? key
      = (copied? args key p).or (payload.get? key) := by
  rw [get?_apply_copy, copied?]
  by_cases hkey : key = p.2
  · rw [if_pos hkey, if_pos hkey.symm]
  · rw [if_neg hkey, if_neg (Ne.symm hkey), Option.none_or]

theorem isSome_copied?_iff {args : Args} {key : String} {p : String × String} :
    (copied? args key p).isSome = true ↔ p.2 = key ∧ args.isPresent p.1 = true := by
  rw [copied?, Args.isPresent]
  by_cases hkey : p.2 = key <;> simp [hkey]

theorem copied?_eq_none_iff {args : Args} {key : String} {p : String × String} :
    copied? args key p = none ↔ (p.2 = key → args.isPresent p.1 = false) := by
  rw [← Option.not_isSome_iff_eq_none, isSome_copied?_iff, not_and, Bool.not_eq_true]

end Part

/-- **Of the copies under one key the last present one counts.** After any sequence of copies a key
holds the argument of the last copy under that key whose argument is present, unchanged, and what it
held before if there is no such copy. Copies under their own names are a case of this. -/
theorem last_present_copy_counts (args : Args) (payload : Payload) :
    (∀ pairs key v,
      (Part.applyAll args payload (Part.copiesAs pairs)).get? key = some v ↔
        (∃ arg, IsLast (fun p ↦ p.2 = key ∧ args.isPresent p.1 = true) pairs (arg, key) ∧
          args.present? arg = some v) ∨
        (∀ p ∈ pairs, p.2 = key → args.isPresent p.1 = false) ∧ payload.get? key = some v) ∧
    ∀ names, Part.copies names = Part.copiesAs (names.map fun name ↦ (name, name)) := by
  refine ⟨fun pairs key v ↦ ?_, Part.copies_eq_copiesAs⟩
  have hlast (p : String × String) :
      IsLast (fun p ↦ (Part.copied? args key p).isSome = true) pairs p ↔
        IsLast (fun p ↦ p.2 = key ∧ args.isPresent p.1 = true) pairs p :=
    isLast_congr fun p ↦ Part.isSome_copied?_iff
  rw [Part.applyAll_eq_foldl, Part.copiesAs, List.foldl_map,
    foldl_eq_some_iff (fun t : Payload ↦ t.get? key) (Part.get?_apply_copy_eq_or args key)]
  simp only [hlast, Part.copied?_eq_none_iff]
  refine or_congr_left ⟨?_, ?_⟩
  · rintro ⟨⟨arg, target⟩, hp, hv⟩
    obtain ⟨rfl, -⟩ := hp.holds
    exact ⟨arg, hp, by rwa [Part.copied?, if_pos rfl] at hv⟩
  · rintro ⟨arg, hp, hv⟩
    exact ⟨(arg, key), hp, by rwa [Part.copied?, if_pos rfl]⟩

/-- A later copy counts only if its argument is present. -/
example : (Part.applyAll ⟨.ofList [("a", .int 1), ("b", .int 2), ("c", .str " ")]⟩ .empty
    (Part.copiesAs [("a", "k"), ("b", "k"), ("c", "k")])).get? "k" = some (.int 2) := by
  decide +kernel

end ServiceCall

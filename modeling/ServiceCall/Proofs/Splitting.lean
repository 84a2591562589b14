import Mathlib.Data.List.Basic

/-!
# Splitting lists

The parts into which a list is split at its separators: what they consist of, and what tells them
apart from the outside.
-/

namespace ServiceCall

variable {α : Type} {p q : α → Bool}

theorem mem_of_mem_splitOnP {l part : List α} (hpart : part ∈ l.splitOnP p) {a : α}
    (ha : a ∈ part) : a ∈ l := by
  induction l generalizing part with
  | nil =>
    rw [List.mem_singleton.1 hpart] at ha
    cases ha
  | cons x l ih =>
    rw [List.splitOnP_cons_eq_if_modifyHead] at hpart
    by_cases hx : p x = true
    · rw [if_pos hx, List.mem_cons] at hpart
      rcases hpart with rfl | hpart
      · cases ha
      · exact List.mem_cons_of_mem x (ih hpart ha)
    · rw [if_neg hx] at hpart
      cases hsplit : l.splitOnP p with
      | nil => exact absurd hsplit (List.splitOnP_ne_nil _ _)
      | cons first parts =>
        rw [hsplit, List.modifyHead_cons, List.mem_cons] at hpart
        rw [hsplit] at ih
        rcases hpart with rfl | hpart
        · rcases List.mem_cons.1 ha with rfl | ha
          · exact List.mem_cons_self
          · exact List.mem_cons_of_mem x (ih List.mem_cons_self ha)
        · exact List.mem_cons_of_mem x (ih (List.mem_cons_of_mem first hpart) ha)

/-- What is no separator stands in one of the parts. -/
theorem exists_mem_splitOnP {l : List α} {a : α} (ha : a ∈ l) (hsep : p a = false) :
    ∃ part ∈ l.splitOnP p, a ∈ part := by
  induction l with
  | nil => cases ha
  | cons x l ih =>
    rw [List.splitOnP_cons_eq_if_modifyHead]
    by_cases hx : p x = true
    · have ha : a ∈ l := by
        refine (List.mem_cons.1 ha).resolve_left ?_
        rintro rfl
        rw [hsep] at hx
        cases hx
      obtain ⟨part, hpart, hmem⟩ := ih ha
      rw [if_pos hx]
      exact ⟨part, List.mem_cons_of_mem _ hpart, hmem⟩
    · rw [if_neg hx]
      cases hsplit : l.splitOnP p with
      | nil => exact absurd hsplit (List.splitOnP_ne_nil _ _)
      | cons first parts =>
        rw [hsplit] at ih
        rw [List.modifyHead_cons]
        rcases List.mem_cons.1 ha with rfl | ha
        · exact ⟨_, List.mem_cons_self, List.mem_cons_self⟩
        · obtain ⟨part, hpart, hmem⟩ := ih ha
          rcases List.mem_cons.1 hpart with rfl | hpart
          · exact ⟨_, List.mem_cons_self, List.mem_cons_of_mem x hmem⟩
          · exact ⟨part, List.mem_cons_of_mem _ hpart, hmem⟩

theorem splitOnP_congr {l : List α} (h : ∀ a ∈ l, p a = q a) : l.splitOnP p = l.splitOnP q := by
  induction l with
  | nil => rfl
  | cons x l ih =>
    rw [List.splitOnP_cons_eq_if_modifyHead, List.splitOnP_cons_eq_if_modifyHead,
      h x List.mem_cons_self, ih fun a ha ↦ h a (List.mem_cons_of_mem x ha)]

variable [BEq α] [LawfulBEq α] {sep : α}

theorem splitOn_append_of_notMem {xs : List α} (h : sep ∉ xs) (ys : List α) :
    (xs ++ ys).splitOn sep = (ys.splitOn sep).modifyHead (xs ++ ·) := by
  induction xs with
  | nil =>
    rw [List.nil_append]
    cases ys.splitOn sep <;> rfl
  | cons x xs ih =>
    rw [List.mem_cons, not_or] at h
    have hx : ¬ (x == sep) = true := by simpa using Ne.symm h.1
    rw [List.cons_append, List.splitOn_cons_eq_if_modifyHead, if_neg hx, ih h.2,
      List.modifyHead_modifyHead]
    rfl

/-- A list ends with a separator if nothing follows its last one. -/
theorem getLast?_eq_some_sep_iff {l : List α} (hl : l ≠ []) :
    l.getLast? = some sep ↔ (l.splitOn sep).getLast? = some [] := by
  induction l with
  | nil => exact absurd rfl hl
  | cons x l ih =>
    rw [List.splitOn_cons_eq_if_modifyHead]
    cases l with
    | nil => by_cases hx : x = sep <;> simp [hx]
    | cons y l =>
      rw [List.getLast?_cons_cons, ih (List.cons_ne_nil y l)]
      cases hsplit : (y :: l).splitOn sep with
      | nil => exact absurd hsplit (List.splitOn_ne_nil _ _)
      | cons first parts =>
        by_cases hx : x = sep
        · simp [hx, List.getLast?_cons_cons]
        · cases parts with
          | cons second parts => simp [hx, List.getLast?_cons_cons]
          | nil =>
            -- Without a separator there is one part, the whole list, which is not empty.
            have hjoin : [sep].intercalate ((y :: l).splitOn sep) = y :: l :=
              List.intercalate_splitOn sep
            rw [hsplit, List.intercalate_singleton] at hjoin
            simp [hx, hjoin]

end ServiceCall

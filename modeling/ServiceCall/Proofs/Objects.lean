import Mathlib.Data.List.Nodup
import ServiceCall.Envelope

/-!
# What built objects hold

Objects are built from lists of entries, and a later entry replaces an earlier one under the same
key. Where the keys of the list differ, nothing is replaced, and the object answers as the list does
(`Json.field?_object`); entries without a value are left out (`Json.field?_object_entries`).
-/

namespace ServiceCall

universe u

theorem exists_of_map_eq_ok {α β ε : Type} {f : α → β} {x : Except ε α} {b : β}
    (h : x.map f = .ok b) : ∃ a, x = .ok a ∧ f a = b := by
  cases x with
  | error e => cases h
  | ok a => exact ⟨a, rfl, Except.ok.inj h⟩

theorem bind_eq_ok_iff {α β ε : Type} {x : Except ε α} {f : α → Except ε β} {b : β} :
    x >>= f = .ok b ↔ ∃ a, x = .ok a ∧ f a = .ok b := by
  cases x <;> simp [bind, Except.bind]

namespace Table

variable {α : Type u}

theorem lookup_eq_none_of_notMem {k : String} {l : List (String × α)}
    (h : k ∉ l.map Prod.fst) : l.lookup k = none := by
  rw [List.lookup_eq_none_iff]
  intro e he
  simpa using fun hk : k = e.1 ↦ h (hk ▸ List.mem_map_of_mem he)

/-- An entry whose key does not come again is kept, whatever the table held before. -/
theorem get?_foldl_insert {l : List (String × α)} {k : String}
    (h : (l.map Prod.fst).count k ≤ 1) (t : Table α) :
    (l.foldl (fun t e ↦ t.insert e.1 e.2) t).get? k = (l.lookup k).or (t.get? k) := by
  induction l generalizing t with
  | nil => rfl
  | cons e l ih =>
    obtain ⟨d, v⟩ := e
    rw [List.map_cons, List.count_cons] at h
    rw [List.foldl_cons, ih (by omega), get?_insert, lookup_cons_ite]
    by_cases hk : k = d
    · subst hk
      have hno : k ∉ l.map Prod.fst := List.count_eq_zero.1 (by simpa using h)
      rw [if_pos rfl, if_pos rfl, lookup_eq_none_of_notMem hno, Option.none_or, Option.some_or]
    · rw [if_neg hk, if_neg hk]

theorem get?_ofList_of_count {l : List (String × α)} {k : String}
    (h : (l.map Prod.fst).count k ≤ 1) : (ofList l).get? k = l.lookup k := by
  rw [ofList, get?_foldl_insert h, get?_empty, Option.or_none]

theorem get?_ofList {l : List (String × α)} (h : (l.map Prod.fst).Nodup) (k : String) :
    (ofList l).get? k = l.lookup k :=
  get?_ofList_of_count (List.nodup_iff_count_le_one.1 h k)

theorem nodup_keys (t : Table α) : (t.entries.map Prod.fst).Nodup := by
  refine t.keys_ascending.imp fun hlt heq ↦ ?_
  exact String.lt_irrefl _ (heq ▸ hlt)

theorem ofList_entries (t : Table α) : ofList t.entries = t := by
  refine ext_get? fun k ↦ ?_
  rw [get?_ofList t.nodup_keys, get?]

/-- Looking up a key that does not come again finds its entry. -/
theorem lookup_eq_some_iff_mem_of_count {l : List (String × α)} {k : String} {v : α}
    (h : (l.map Prod.fst).count k ≤ 1) : l.lookup k = some v ↔ (k, v) ∈ l := by
  induction l with
  | nil => simp
  | cons e l ih =>
    obtain ⟨d, w⟩ := e
    rw [List.map_cons, List.count_cons] at h
    rw [lookup_cons_ite, List.mem_cons, Prod.mk.injEq]
    by_cases hk : k = d
    · subst hk
      have hkeys : k ∉ l.map Prod.fst := List.count_eq_zero.1 (by simpa using h)
      have hno : (k, v) ∉ l := fun hm ↦ hkeys (List.mem_map.2 ⟨_, hm, rfl⟩)
      simp [hno, eq_comm]
    · simp [hk, ih (by omega)]

/-- Among entries under different keys, looking one up finds it. -/
theorem lookup_eq_some_iff_mem {l : List (String × α)} (h : (l.map Prod.fst).Nodup) {k : String}
    {v : α} : l.lookup k = some v ↔ (k, v) ∈ l :=
  lookup_eq_some_iff_mem_of_count (List.nodup_iff_count_le_one.1 h k)

theorem mem_of_mem_foldl_insert {l : List (String × α)} {t : Table α} {e : String × α}
    (h : e ∈ (l.foldl (fun t e ↦ t.insert e.1 e.2) t).entries) : e ∈ l ∨ e ∈ t.entries := by
  induction l generalizing t with
  | nil => exact .inr h
  | cons d l ih =>
    rcases ih h with hl | ht
    · exact .inl (List.mem_cons_of_mem d hl)
    · rcases mem_place ht with rfl | ht
      · exact .inl List.mem_cons_self
      · exact .inr ht

/-- What holds of all listed entries holds of all entries of their table. -/
theorem forall_mem_entries_ofList {l : List (String × α)} {P : String × α → Prop}
    (h : ∀ e ∈ l, P e) : ∀ e ∈ (ofList l).entries, P e := by
  intro e he
  rcases mem_of_mem_foldl_insert he with hl | hempty
  · exact h e hl
  · cases hempty

end Table

namespace Json

/-- Only an object has fields. -/
theorem field?_eq_some_iff {key : String} {v w : Json} :
    v.field? key = some w ↔ ∃ fields, v = .obj fields ∧ fields.lookup key = some w := by
  cases v <;> simp [field?]

theorem field?_object {l : List (String × Json)} (h : (l.map Prod.fst).Nodup) (k : String) :
    (object l).field? k = l.lookup k := by
  rw [object, field?_ofTable, Table.get?_ofList h]

theorem keys_entries_sublist (l : List (String × Option Json)) :
    ((Envelope.entries l).map Prod.fst).Sublist (l.map Prod.fst) := by
  induction l with
  | nil => exact .slnil
  | cons e l ih =>
    obtain ⟨d, v⟩ := e
    cases v with
    | none => exact ih.cons d
    | some v => exact ih.cons_cons d

theorem lookup_entries {l : List (String × Option Json)} (h : (l.map Prod.fst).Nodup)
    (k : String) : (Envelope.entries l).lookup k = (l.lookup k).join := by
  induction l with
  | nil => rfl
  | cons e l ih =>
    obtain ⟨d, v⟩ := e
    rw [List.map_cons, List.nodup_cons] at h
    have hrest : (Envelope.entries l).lookup k = (l.lookup k).join := ih h.2
    cases v with
    | none =>
      rw [show Envelope.entries ((d, none) :: l) = Envelope.entries l from rfl, hrest,
        Table.lookup_cons_ite]
      split
      · -- The key of a left out entry stands nowhere else in the list.
        rename_i hk
        rw [hk, Table.lookup_eq_none_of_notMem h.1]
        rfl
      · rfl
    | some v =>
      rw [show Envelope.entries ((d, some v) :: l) = (d, v) :: Envelope.entries l from rfl,
        Table.lookup_cons_ite, Table.lookup_cons_ite, hrest]
      split <;> rfl

/-- An object of optional entries under different keys answers with the entry that is there. -/
theorem field?_object_entries {l : List (String × Option Json)} (h : (l.map Prod.fst).Nodup)
    (k : String) : (object (Envelope.entries l)).field? k = (l.lookup k).join := by
  rw [field?_object (h.sublist (keys_entries_sublist l)), lookup_entries h]

end Json

/-! ## Failures read back -/

namespace Envelope

variable (message : String) (status : Option UInt16) (details response : Option Json)

theorem errorMessage?_failure :
    (failure message status details response).errorMessage? = some message := by
  rw [errorMessage?, failure, ok, Json.field?_object_entries (by simp)]
  rfl

theorem errorMessage?_badInput (field : Option String) :
    (badInput message field).errorMessage? = some message := by
  rw [errorMessage?, badInput, ok, Json.field?_object_entries (by simp)]
  rfl

theorem field?_badInput (field : Option String) :
    (badInput message field).output.field? "field" = field.map .str := by
  rw [badInput, ok, Json.field?_object_entries (by simp)]
  cases field <;> rfl

theorem field?_failure :
    (failure message status details response).output.field? "field" = none := by
  rw [failure, ok, Json.field?_object_entries (by simp)]
  rfl

end Envelope

end ServiceCall

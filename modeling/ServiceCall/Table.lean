/-!
# Tables keyed by text

A table holds at most one entry per key and lists its entries in ascending order of the keys.
Arguments, request bodies, the operations of a service and the services of a registry are all
tables, so "the last entry under a name wins" and "names are listed in order" are settled here once.

The entries are kept as an ascending list rather than a search tree: a table is then determined by
what it answers (`Table.ext_get?`), and two tables that answer alike are equal, not just alike.
-/

namespace ServiceCall

universe u v

/-- Entries in strictly ascending order of their keys. -/
structure Table (α : Type u) where
  entries : List (String × α)
  ascending : entries.Pairwise fun a b ↦ a.1 < b.1

namespace Table

variable {α : Type u} {β : Type v}

/-! ## Placing one entry -/

/-- Puts an entry into an ascending list, in place of an entry of the same key. -/
def place (key : String) (value : α) : List (String × α) → List (String × α)
  | [] => [(key, value)]
  | e :: rest =>
    if key < e.1 then (key, value) :: e :: rest
    else if key = e.1 then (key, value) :: rest
    else e :: place key value rest

theorem mem_place {key : String} {value : α} {l : List (String × α)} {e : String × α}
    (h : e ∈ place key value l) : e = (key, value) ∨ e ∈ l := by
  induction l with
  | nil => simpa [place] using h
  | cons d rest ih =>
    simp only [place] at h
    split at h
    · simpa using h
    · split at h
      · rcases List.mem_cons.1 h with h | h
        · exact .inl h
        · exact .inr (List.mem_cons_of_mem _ h)
      · rcases List.mem_cons.1 h with h | h
        · exact .inr (h ▸ List.mem_cons_self)
        · exact (ih h).imp_right (List.mem_cons_of_mem _)

theorem ascending_place {key : String} {value : α} {l : List (String × α)}
    (h : l.Pairwise fun a b ↦ a.1 < b.1) : (place key value l).Pairwise fun a b ↦ a.1 < b.1 := by
  induction l with
  | nil => simp [place]
  | cons d rest ih =>
    rw [List.pairwise_cons] at h
    simp only [place]
    split
    · rename_i hlt
      refine List.pairwise_cons.2 ⟨fun e he ↦ ?_, List.pairwise_cons.2 h⟩
      rcases List.mem_cons.1 he with rfl | he
      · exact hlt
      · exact String.lt_trans hlt (h.1 e he)
    · split
      · rename_i _ heq
        exact List.pairwise_cons.2 ⟨fun e he ↦ heq ▸ h.1 e he, h.2⟩
      · rename_i hnlt hne
        refine List.pairwise_cons.2 ⟨fun e he ↦ ?_, ih h.2⟩
        rcases mem_place he with rfl | he
        · exact String.not_le.1 fun hle ↦ hne (String.le_antisymm hle (String.not_lt.1 hnlt))
        · exact h.1 e he

theorem lookup_cons_ite (k d : String) (value : α) (l : List (String × α)) :
    ((d, value) :: l).lookup k = if k = d then some value else l.lookup k := by
  by_cases h : k = d
  · simp [h]
  · have : (k == d) = false := by simpa using h
    simp [List.lookup_cons, h, this]

theorem lookup_place (key k : String) (value : α) (l : List (String × α)) :
    (place key value l).lookup k = if k = key then some value else l.lookup k := by
  induction l with
  | nil => simp [place, lookup_cons_ite]
  | cons d rest ih =>
    obtain ⟨dk, dv⟩ := d
    simp only [place]
    split
    · simp [lookup_cons_ite]
    · split
      · rename_i _ heq
        simp only [lookup_cons_ite, ← heq]
        split <;> rfl
      · rename_i _ hne
        simp only [lookup_cons_ite, ih]
        by_cases h : k = dk
        · have : ¬ k = key := fun e ↦ hne (e ▸ h)
          simp [h, h ▸ this]
        · simp [h]

/-! ## Tables -/

def empty : Table α := ⟨[], .nil⟩

instance : EmptyCollection (Table α) := ⟨empty⟩
instance : Inhabited (Table α) := ⟨empty⟩

def insert (t : Table α) (key : String) (value : α) : Table α :=
  ⟨place key value t.entries, ascending_place t.ascending⟩

def get? (t : Table α) (key : String) : Option α := t.entries.lookup key

def contains (t : Table α) (key : String) : Bool := (t.get? key).isSome

def keys (t : Table α) : List String := t.entries.map Prod.fst

def size (t : Table α) : Nat := t.entries.length

def isEmpty (t : Table α) : Bool := t.entries.isEmpty

/-- Inserts in list order, so of two entries under one key the later is kept. -/
def ofList (l : List (String × α)) : Table α := l.foldl (fun t e ↦ t.insert e.1 e.2) empty

@[simp] theorem get?_empty (k : String) : (empty : Table α).get? k = none := rfl

@[simp] theorem get?_insert (t : Table α) (key k : String) (value : α) :
    (t.insert key value).get? k = if k = key then some value else t.get? k :=
  lookup_place key k value t.entries

theorem get?_insert_self (t : Table α) (key : String) (value : α) :
    (t.insert key value).get? key = some value := by simp

theorem get?_insert_of_ne (t : Table α) {key k : String} (value : α) (h : k ≠ key) :
    (t.insert key value).get? k = t.get? k := by simp [h]

/-! ## A table is what it answers -/

theorem lookup_eq_some_iff {l : List (String × α)} (h : l.Pairwise fun a b ↦ a.1 < b.1)
    {k : String} {v : α} : l.lookup k = some v ↔ (k, v) ∈ l := by
  induction l with
  | nil => simp
  | cons d rest ih =>
    obtain ⟨dk, dv⟩ := d
    rw [List.pairwise_cons] at h
    rw [lookup_cons_ite]
    by_cases hk : k = dk
    · subst hk
      have hno : (k, v) ∉ rest := fun hm ↦ String.lt_irrefl k (h.1 _ hm)
      simp [hno, eq_comm]
    · simp [hk, ih h.2]

theorem get?_eq_some_iff {t : Table α} {k : String} {v : α} :
    t.get? k = some v ↔ (k, v) ∈ t.entries :=
  lookup_eq_some_iff t.ascending

theorem mem_keys_iff {t : Table α} {k : String} : k ∈ t.keys ↔ ∃ v, t.get? k = some v := by
  simp [keys, get?_eq_some_iff]

theorem contains_iff_mem_keys {t : Table α} {k : String} : t.contains k = true ↔ k ∈ t.keys := by
  rw [mem_keys_iff, contains, Option.isSome_iff_exists]

theorem keys_ascending (t : Table α) : t.keys.Pairwise (· < ·) :=
  List.pairwise_map.2 t.ascending

theorem length_keys (t : Table α) : t.keys.length = t.size := by simp [keys, size]

/-- Ascending lists with the same members are the same list. -/
theorem eq_of_mem_iff {l m : List (String × α)} (hl : l.Pairwise fun a b ↦ a.1 < b.1)
    (hm : m.Pairwise fun a b ↦ a.1 < b.1) (h : ∀ e, e ∈ l ↔ e ∈ m) : l = m := by
  induction l generalizing m with
  | nil =>
    cases m with
    | nil => rfl
    | cons b _ => exact absurd ((h b).2 List.mem_cons_self) (by simp)
  | cons a l ih =>
    cases m with
    | nil => exact absurd ((h a).1 List.mem_cons_self) (by simp)
    | cons b m =>
      rw [List.pairwise_cons] at hl hm
      have hab : a = b := by
        rcases List.mem_cons.1 ((h a).1 List.mem_cons_self) with hab | ha
        · exact hab
        · rcases List.mem_cons.1 ((h b).2 List.mem_cons_self) with hba | hb
          · exact hba.symm
          · exact absurd (String.lt_trans (hm.1 a ha) (hl.1 b hb)) (String.lt_irrefl _)
      subst hab
      refine congrArg (a :: ·) (ih hl.2 hm.2 fun e ↦ ⟨fun he ↦ ?_, fun he ↦ ?_⟩)
      · rcases List.mem_cons.1 ((h e).1 (List.mem_cons_of_mem _ he)) with rfl | hm'
        · exact absurd (hl.1 e he) (String.lt_irrefl _)
        · exact hm'
      · rcases List.mem_cons.1 ((h e).2 (List.mem_cons_of_mem _ he)) with rfl | hl'
        · exact absurd (hm.1 e he) (String.lt_irrefl _)
        · exact hl'

theorem ext_get? {s t : Table α} (h : ∀ k, s.get? k = t.get? k) : s = t := by
  have : s.entries = t.entries := eq_of_mem_iff s.ascending t.ascending fun e ↦ by
    rw [← get?_eq_some_iff (t := s), ← get?_eq_some_iff (t := t), h]
  cases s
  cases t
  cases this
  rfl

end Table

end ServiceCall

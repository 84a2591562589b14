import ServiceCall.Proofs.Outlines

/-!
# Well-formed texts

A text is well formed if it is one value and nothing else, however deep the value is nested and
however large its numbers are (`Json.isWellFormed`). Whatever is read is well formed
(`Json.isWellFormed_of_read`, `Json.Shape.isWellFormed_of_read`), so a text that is not leads to a
fault wherever it is read.

A record can also be given as a list of its values. If all its fields take texts and none may be
left out of a list, then it is read from the lists of as many values as it has fields, each of which
the field in its place takes (`Json.Shape.read_eq_ok_iff_of_bracket`).
-/

namespace ServiceCall.Json

/-- The text is one value, with nothing but blanks behind it. -/
def isWellFormed (text : String) : Bool := ((skipValue text.toList).bind finish).toBool

theorem isWellFormed_of_skims {text : String} {rest : List Char}
    (h : Skims (.value, [], text.toList) (.next, [], rest)) (hrest : (finish rest).toBool = true) :
    isWellFormed text = true := by
  rw [isWellFormed, skipValue_eq_ok_iff.2 h]
  exact hrest

theorem isWellFormed_of_read {text : String} {v : Json} (h : read text = .ok v) :
    isWellFormed text = true := by
  obtain ⟨rest, hvalue, hfinish⟩ := bind_finish_eq_ok_iff.1 h
  exact isWellFormed_of_skims (isSkimmed_value maxDepth hvalue) hfinish

namespace Shape

/-! ## Records -/

theorem skims_of_readCode {cs rest : List Char} {v : Json} (h : readCode cs = .ok (v, rest)) :
    Skims (.value, [], cs) (.next, [], rest) := by
  unfold readCode at h
  dsimp only at h
  split at h
  · cases h
  · rename_i c ds
    split at h
    · rename_i hc
      obtain ⟨⟨n, more⟩, hnumber, hcode⟩ := bind_eq_ok_iff.1 h
      have hend : more = rest := by
        repeat' split at hcode
        all_goals cases hcode
        rfl
      subst hc hend
      exact skims_scalar (skipNumber_of_number hnumber) rfl
    · split at h
      · rename_i hc
        obtain ⟨⟨n, more⟩, hnumber, hcode⟩ := bind_eq_ok_iff.1 h
        have hend : more = rest := by
          repeat' split at hcode
          all_goals cases hcode
          rfl
        subst hend
        exact skims_scalar (skipNumber_of_number hnumber) (skipStep_digit hc ds)
      · obtain ⟨_, hrefused, -⟩ := bind_eq_ok_iff.1 h
        exact absurd hrefused (refuse_ne_ok _ _ _)

theorem isSkimmed_readSlot (slot : Slot) : IsSkimmed (readSlot slot) := by
  intro cs v rest h
  cases slot with
  | text => exact isSkimmed_value 0 ((readSlot_eq_ok_iff (.inl rfl)).1 h).1
  | optionalText => exact isSkimmed_value 0 ((readSlot_eq_ok_iff (.inr rfl)).1 h).1
  | anything => exact isSkimmed_value _ h
  | optionalCode =>
    refine (skims_skipGaps [] cs).trans ?_
    rw [readSlot, orNull] at h
    split at h
    · rename_i hcs
      rw [hcs]
      obtain ⟨_, hword, heq⟩ := exists_of_map_eq_ok h
      cases heq
      exact skims_scalar hword rfl
    · exact skims_of_readCode h

theorem skims_of_objectFrom {fields : List Field} {bound : Nat} {first : Bool} {cs rest : List Char}
    {done t : Table Json} (h : objectFrom fields bound first done cs = .ok (t, rest)) :
    Skims (inObject first cs) (.next, [], rest) := by
  induction bound generalizing first done cs with
  | zero => cases h
  | succ bound ih =>
    rw [objectFrom] at h
    split at h
    · cases h
    · rename_i hnext
      cases h
      exact skims_of_nextKey_none hnext
    · rename_i hnext
      split at h
      · -- The name is unknown.
        split at h
        · cases h
        · rename_i hcolon
          split at h
          · cases h
          · rename_i hskip
            exact (skims_of_field hnext hcolon (skipValue_eq_ok_iff.1 hskip)).trans (ih h)
      · split at h
        · cases h
        · split at h
          · cases h
          · rename_i hcolon
            split at h
            · cases h
            · rename_i hread
              exact (skims_of_field hnext hcolon (isSkimmed_readSlot _ hread)).trans (ih h)

theorem skipGaps_of_closeList {cs rest : List Char} (h : closeList cs = .ok rest) :
    skipGaps cs = ']' :: rest := by
  unfold closeList at h
  split at h
  · cases h
  · rename_i hcs
    cases h
    exact hcs
  · split at h <;> cases h
  · cases h

theorem nextItem_of_skipGaps {cs rest : List Char} (hcs : skipGaps cs = ']' :: rest)
    (first : Bool) : nextItem first cs = .ok (none, rest) := by
  rw [nextItem, hcs]
  rfl

section Lists

variable {expected : String} {index : Nat} {cs rest : List Char} {f : Field} {fields : List Field}
  {vs : List Json}

/-- A list ends before the fields do, or goes on with the value of the next field. -/
theorem listFrom_cons_cases (h : listFrom expected index (f :: fields) cs = .ok (vs, rest)) :
    (nextItem (index = 0) cs = .ok (none, rest) ∧
      restOfList expected rest index (f :: fields) = .ok vs) ∨
    ∃ ds more v behind ws, nextItem (index = 0) cs = .ok (some ds, more) ∧
      readSlot f.slot ds = .ok (v, behind) ∧
      listFrom expected (index + 1) fields behind = .ok (ws, rest) ∧ vs = v :: ws := by
  rw [listFrom] at h
  obtain ⟨⟨item?, more⟩, hnext, h⟩ := bind_eq_ok_iff.1 h
  cases item? with
  | none =>
    obtain ⟨ws, hrest, h⟩ := bind_eq_ok_iff.1 h
    cases h
    exact .inl ⟨hnext, hrest⟩
  | some ds =>
    obtain ⟨⟨v, behind⟩, hread, h⟩ := bind_eq_ok_iff.1 h
    obtain ⟨⟨ws, end'⟩, hlater, h⟩ := bind_eq_ok_iff.1 h
    cases h
    exact .inr ⟨ds, more, v, behind, ws, hnext, hread, hlater, rfl⟩

theorem skims_of_listFrom (h : listFrom expected index fields cs = .ok (vs, rest)) :
    Skims (inList (index = 0) cs) (.next, [], rest) := by
  induction fields generalizing index cs vs with
  | nil =>
    obtain ⟨_, hclose, heq⟩ := exists_of_map_eq_ok h
    cases heq
    exact skims_of_nextItem_none (nextItem_of_skipGaps (skipGaps_of_closeList hclose) _)
  | cons f fields ih =>
    rcases listFrom_cons_cases h with ⟨hnext, -⟩ |
      ⟨ds, more, v, behind, ws, hnext, hread, hlater, -⟩
    · exact skims_of_nextItem_none hnext
    · exact (skims_of_item hnext (isSkimmed_readSlot _ hread)).trans (ih hlater)

end Lists

/-- A record is read from well-formed texts only. -/
theorem isWellFormed_of_read {shape : Shape} {text : String} {vs : List Json}
    (h : shape.read text = .ok vs) : isWellFormed text = true := by
  obtain ⟨rest, hrecord, hfinish⟩ := bind_finish_eq_ok_iff.1 h
  refine isWellFormed_of_skims ((skims_skipGaps [] _).trans ?_) hfinish
  rw [readRecord] at hrecord
  split at hrecord
  · cases hrecord
  · rename_i cs hcs
    rw [hcs]
    exact skims_of_listFrom hrecord
  · rename_i cs hcs
    rw [hcs]
    obtain ⟨⟨done, behind⟩, hobject, hrecord⟩ := bind_eq_ok_iff.1 hrecord
    obtain ⟨values, -, hrecord⟩ := bind_eq_ok_iff.1 hrecord
    cases hrecord
    exact skims_of_objectFrom hobject
  · exact absurd hrecord (refuse_ne_ok _ _ _)

/-- A record is an object or a list. -/
theorem exists_bracket_of_read {shape : Shape} {text : String} {vs : List Json}
    (h : shape.read text = .ok vs) :
    ∃ cs, skipGaps text.toList = '[' :: cs ∨ skipGaps text.toList = '\x7b' :: cs := by
  obtain ⟨rest, hrecord, -⟩ := bind_finish_eq_ok_iff.1 h
  rw [readRecord] at hrecord
  split at hrecord
  · cases hrecord
  · rename_i cs hcs
    exact ⟨cs, .inl hcs⟩
  · rename_i cs hcs
    exact ⟨cs, .inr hcs⟩
  · exact absurd hrecord (refuse_ne_ok _ _ _)

/-! ## Records from lists -/

end Shape

theorem exists_bracket_of_read_arr {text : String} {items : List Json}
    (h : read text = .ok (.arr items)) : ∃ cs, skipGaps text.toList = '[' :: cs := by
  obtain ⟨rest, hvalue, -⟩ := bind_finish_eq_ok_iff.1 h
  have hspelled := spelled_of_value hvalue
  generalize skipGaps text.toList = cs at hspelled
  obtain ⟨⟩ := hspelled
  exact ⟨_, rfl⟩

theorem length_of_nextItem {first : Bool} {cs ds more : List Char}
    (h : nextItem first cs = .ok (some ds, more)) : ds.length ≤ cs.length := by
  have hgaps := length_skipGaps cs
  cases first with
  | true =>
    obtain ⟨c, es, hcs, rfl, -⟩ := skipGaps_of_nextItem_first h
    rwa [hcs] at hgaps
  | false =>
    obtain ⟨es, hcs, rfl⟩ := skipGaps_of_nextItem_next h
    have hinside := length_skipGaps es
    rw [hcs, List.length_cons] at hgaps
    omega

/-- A value takes a character at least. -/
theorem Skims.length_lt {cs rest : List Char} (h : Skims (.value, [], cs) (.next, [], rest)) :
    rest.length < cs.length := by
  obtain ⟨n, hlength, hsteps⟩ := h
  have hpos : n ≠ 0 := by
    rintro rfl
    have hactive : Awaiting.value = .next → ([] : List Container) ≠ [] := by simp
    have hsame := hsteps [] 1
    rw [Nat.add_zero, List.append_nil, skipFrom_succ hactive] at hsame
    cases hstep : skipStep .value [] cs with
    | error f =>
      rw [hstep] at hsame
      cases hsame
    | ok t =>
      rw [hstep] at hsame
      cases hsame
  dsimp only at hlength
  omega

theorem exists_of_itemsFrom {item : Reader Json} {bound : Nat} {first : Bool}
    {done items : List Json} {cs rest : List Char}
    (h : itemsFrom item bound first done cs = .ok (items, rest)) :
    ∃ more, items = done.reverse ++ more := by
  induction bound generalizing first done cs with
  | zero => cases h
  | succ bound ih =>
    rw [itemsFrom] at h
    split at h
    · cases h
    · cases h
      exact ⟨[], (List.append_nil _).symm⟩
    · split at h
      · cases h
      · rename_i v _ _
        obtain ⟨more, rfl⟩ := ih h
        exact ⟨v :: more, by rw [List.reverse_cons, List.append_assoc, List.singleton_append]⟩

/-- A list ends, or goes on with an item. -/
theorem itemsFrom_cases {item : Reader Json} {bound : Nat} {first : Bool} {done items : List Json}
    {cs rest : List Char} (h : itemsFrom item (bound + 1) first done cs = .ok (items, rest)) :
    (nextItem first cs = .ok (none, rest) ∧ items = done.reverse) ∨
    ∃ ds more v behind ws, nextItem first cs = .ok (some ds, more) ∧ item ds = .ok (v, behind) ∧
      itemsFrom item bound false (v :: done) behind = .ok (items, rest) ∧
      items = done.reverse ++ v :: ws := by
  rw [itemsFrom] at h
  split at h
  · cases h
  · rename_i hnext
    cases h
    exact .inl ⟨hnext, rfl⟩
  · rename_i ds more hnext
    split at h
    · cases h
    · rename_i v behind hitem
      obtain ⟨ws, hitems⟩ := exists_of_itemsFrom h
      rw [List.reverse_cons, List.append_assoc, List.singleton_append] at hitems
      exact .inr ⟨ds, more, v, behind, ws, hnext, hitem, h, hitems⟩

namespace Shape

variable {fields : List Field}

/-- Where no field may be left out, a record is read from the lists of as many values, each of which
the field in its place takes. -/
theorem listFrom_eq_ok_iff (htextual : ∀ f ∈ fields, f.slot.IsTextual)
    (hneeded : ∀ f ∈ fields, f.inList = none) (d : Nat) (expected : String) (index : Nat)
    {bound : Nat} {cs : List Char} (hbound : cs.length < bound) (done : List Json)
    (vs : List Json) (rest : List Char) :
    listFrom expected index fields cs = .ok (vs, rest) ↔
      itemsFrom (value d) bound (index = 0) done cs = .ok (done.reverse ++ vs, rest) ∧
        List.Forall₂ (fun f v ↦ f.slot.takes v = true) fields vs := by
  induction fields generalizing index bound cs done vs with
  | nil =>
    obtain ⟨bound, rfl⟩ := Nat.exists_eq_add_one.2 (Nat.zero_lt_of_lt hbound)
    constructor
    · intro h
      obtain ⟨_, hclose, heq⟩ := exists_of_map_eq_ok h
      cases heq
      have hnext := nextItem_of_skipGaps (skipGaps_of_closeList hclose) (index = 0)
      rw [itemsFrom, hnext, List.append_nil]
      exact ⟨rfl, .nil⟩
    · rintro ⟨hitems, htakes⟩
      cases htakes
      rcases itemsFrom_cases hitems with ⟨hnext, -⟩ | ⟨_, _, v, _, ws, -, -, -, heq⟩
      · have hclose : closeList cs = .ok rest := by
          rw [closeList, skipGaps_of_nextItem_none hnext]
          rfl
        rw [listFrom, hclose]
        rfl
      · cases List.append_cancel_left heq
  | cons f fields ih =>
    obtain ⟨bound, rfl⟩ := Nat.exists_eq_add_one.2 (Nat.zero_lt_of_lt hbound)
    have hslot := htextual f List.mem_cons_self
    have hlater : ∀ {ds behind more v}, nextItem (index = 0) cs = .ok (some ds, more) →
        value d ds = .ok (v, behind) → ∀ ws,
        (listFrom expected (index + 1) fields behind = .ok (ws, rest) ↔
          itemsFrom (value d) bound false (v :: done) behind
              = .ok ((v :: done).reverse ++ ws, rest) ∧
            List.Forall₂ (fun f v ↦ f.slot.takes v = true) fields ws) := by
      intro ds behind more v hnext hvalue ws
      have hds := length_of_nextItem hnext
      have hbehind := (isSkimmed_value d hvalue).length_lt
      exact ih (fun f hf ↦ htextual f (List.mem_cons_of_mem _ hf))
        (fun f hf ↦ hneeded f (List.mem_cons_of_mem _ hf)) (index + 1) (by omega) (v :: done) ws
    constructor
    · intro h
      rcases listFrom_cons_cases h with ⟨-, hrest⟩ |
        ⟨ds, more, v, behind, ws, hnext, hread, hlist, rfl⟩
      · rw [restOfList, hneeded f List.mem_cons_self] at hrest
        cases hrest
      · obtain ⟨hvalue, htakes⟩ := (readSlot_eq_ok_iff hslot).1 hread
        obtain ⟨hitems, hall⟩ := (hlater hnext hvalue ws).1 hlist
        rw [List.reverse_cons, List.append_assoc, List.singleton_append] at hitems
        refine ⟨?_, .cons htakes hall⟩
        rw [itemsFrom, hnext]
        simp only [hvalue]
        exact hitems
    · rintro ⟨hitems, hall⟩
      obtain ⟨v, ws, htakes, htail, rfl⟩ := List.forall₂_cons_left_iff.1 hall
      rcases itemsFrom_cases hitems with ⟨-, heq⟩ |
        ⟨ds, more, _, behind, _, hnext, hvalue, hlist, heq⟩
      · cases List.self_eq_append_right.1 heq.symm
      · obtain ⟨rfl, rfl⟩ := List.cons.inj (List.append_cancel_left heq)
        have hrest := (hlater hnext hvalue ws).2
          ⟨by rw [List.reverse_cons, List.append_assoc, List.singleton_append]; exact hlist, htail⟩
        rw [listFrom, hnext]
        change Except.bind (readSlot f.slot ds) _ = _
        rw [(readSlot_eq_ok_iff hslot).2 ⟨hvalue, htakes⟩]
        change Except.bind (listFrom expected (index + 1) fields behind) _ = _
        rw [hrest]
        rfl

/-- Such a record is read from the lists that hold what its fields take. -/
theorem read_eq_ok_iff_of_bracket {shape : Shape} (htextual : ∀ f ∈ shape.fields, f.slot.IsTextual)
    (hneeded : ∀ f ∈ shape.fields, f.inList = none) {text : String} {cs : List Char}
    (hcs : skipGaps text.toList = '[' :: cs) (vs : List Json) :
    shape.read text = .ok vs ↔ Json.read text = .ok (.arr vs) ∧
      List.Forall₂ (fun f v ↦ f.slot.takes v = true) shape.fields vs := by
  have hgaps : skipGaps text.toList = skipGaps ('[' :: cs) := by rw [hcs, skipGaps_cons rfl]
  have hvalue : value maxDepth text.toList
      = (itemsFrom (value 126) (cs.length + 1) true [] cs).map fun r ↦ (arr r.1, r.2) := by
    rw [value_congr hgaps]
    rfl
  obtain ⟨expected, hrecord⟩ :
      ∃ expected, shape.readRecord text.toList = listFrom expected 0 shape.fields cs := by
    rw [readRecord, hcs]
    exact ⟨_, rfl⟩
  have hbound := Nat.lt_succ_self cs.length
  have hlist := listFrom_eq_ok_iff htextual hneeded 126 expected 0 hbound [] vs
  have hread : shape.read text = .ok vs ↔ _ := bind_finish_eq_ok_iff
  have hwhole : Json.read text = .ok (.arr vs) ↔ _ := bind_finish_eq_ok_iff
  rw [hread, hwhole, hrecord, hvalue]
  constructor
  · rintro ⟨rest, hfrom, hfinish⟩
    obtain ⟨hitems, htakes⟩ := (hlist rest).1 hfrom
    exact ⟨⟨rest, congrArg (Except.map fun r ↦ (arr r.1, r.2)) hitems, hfinish⟩, htakes⟩
  · rintro ⟨⟨rest, hitems, hfinish⟩, htakes⟩
    refine ⟨rest, (hlist rest).2 ⟨?_, htakes⟩, hfinish⟩
    obtain ⟨r, hr, heq⟩ := exists_of_map_eq_ok hitems
    cases heq
    exact hr

end Shape

end ServiceCall.Json

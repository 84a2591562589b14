import ServiceCall.Proofs.Scalars

/-!
# Values passed over

Passing over a value takes less than reading it, and takes the same characters: whatever is read
where a value stands, passing over stops behind it (`Json.skipValue_of_value`). So a record leaves
an unknown field at the place where a reader of values would leave it.

## Steps

Reading recurs on the levels of nesting, passing over goes step by step with a stack of open
containers. The states are related by where these steps lead (`Json.Skims`), with any containers
open around them and within as many steps as characters are taken. So runs are put together by
transitivity, and neither the bound on the steps nor the containers around have to be mentioned
again.
-/

namespace ServiceCall.Json

/-! ## Between the tokens -/

section Tokens

variable {cs ds rest : List Char} {k : String}

theorem skipGaps_of_nextItem_none {first : Bool} (h : nextItem first cs = .ok (none, rest)) :
    skipGaps cs = ']' :: rest := by
  unfold nextItem at h
  split at h
  · cases h
  · rename_i hcs
    cases h
    exact hcs
  · split at h
    · cases h
    · split at h
      · split at h <;> cases h
      · cases h

theorem skipGaps_of_nextItem_first (h : nextItem true cs = .ok (some ds, rest)) :
    ∃ c es, skipGaps cs = c :: es ∧ ds = c :: es ∧ c ≠ ']' := by
  unfold nextItem at h
  split at h
  · cases h
  · cases h
  · rename_i c more hne hcs
    cases h
    exact ⟨c, more, hcs, rfl, hne⟩

theorem skipGaps_of_nextItem_next (h : nextItem false cs = .ok (some ds, rest)) :
    ∃ more, skipGaps cs = ',' :: more ∧ skipGaps more = ds := by
  unfold nextItem at h
  split at h
  · cases h
  · cases h
  · rename_i c more hne hcs
    rw [if_neg Bool.false_ne_true] at h
    split at h
    · rename_i hc
      subst hc
      split at h
      · cases h
      · cases h
      · cases h
        exact ⟨more, hcs, rfl⟩
    · cases h

theorem skipGaps_of_nextKey_none {first : Bool} (h : nextKey first cs = .ok (none, rest)) :
    skipGaps cs = '\x7d' :: rest := by
  unfold nextKey at h
  split at h
  · cases h
  · rename_i hcs
    cases h
    exact hcs
  · rename_i c more hne hcs
    have hkey : ∀ {r : Except Fault (String × List Char)},
        (r.map fun r ↦ (some r.1, r.2)) ≠ .ok (none, rest) := by
      intro r hr
      obtain ⟨_, -, hsome⟩ := exists_of_map_eq_ok hr
      cases hsome
    split at h
    · split at h
      · exact absurd h hkey
      · cases h
    · split at h
      · split at h
        · cases h
        · exact absurd h hkey
        · cases h
        · cases h
      · cases h

theorem string_of_nextKey_first (h : nextKey true cs = .ok (some k, rest)) :
    ∃ ds, skipGaps cs = '"' :: ds ∧ string ds = .ok (k, rest) := by
  unfold nextKey at h
  split at h
  · cases h
  · cases h
  · rename_i c ds hne hcs
    rw [if_pos rfl] at h
    split at h
    · rename_i hc
      subst hc
      obtain ⟨r, hr, hkey⟩ := exists_of_map_eq_ok h
      cases hkey
      exact ⟨ds, hcs, hr⟩
    · cases h

theorem string_of_nextKey_next (h : nextKey false cs = .ok (some k, rest)) :
    ∃ more ds, skipGaps cs = ',' :: more ∧ skipGaps more = '"' :: ds ∧
      string ds = .ok (k, rest) := by
  unfold nextKey at h
  split at h
  · cases h
  · cases h
  · rename_i c more hne hcs
    rw [if_neg Bool.false_ne_true] at h
    split at h
    · rename_i hc
      subst hc
      split at h
      · cases h
      · rename_i ds hds
        obtain ⟨r, hr, hkey⟩ := exists_of_map_eq_ok h
        cases hkey
        exact ⟨more, ds, hcs, hds, hr⟩
      · cases h
      · cases h
    · cases h

theorem length_of_colon (h : colon cs = .ok rest) : rest.length < cs.length := by
  have hgaps := length_skipGaps cs
  rw [colon] at h
  split at h
  · cases h
  · rename_i hcs
    cases h
    rw [hcs] at hgaps
    exact hgaps
  · cases h

theorem length_of_skipKey (h : skipKey cs = .ok rest) : rest.length < cs.length := by
  have hgaps := length_skipGaps cs
  unfold skipKey at h
  split at h
  · rename_i ds hcs
    rw [hcs, List.length_cons] at hgaps
    cases hstring : skipString ds with
    | error f =>
      rw [hstring] at h
      cases h
    | ok more =>
      rw [hstring] at h
      have hmore := length_of_skipString hstring
      have hrest := length_of_colon h
      omega
  · cases h
  · cases h

theorem skipKey_of_string (hcs : skipGaps cs = '"' :: ds) {more : List Char}
    (hstring : string ds = .ok (k, more)) (hcolon : colon more = .ok rest) :
    skipKey cs = .ok rest := by
  unfold skipKey
  rw [hcs]
  change skipString ds >>= _ = _
  rw [skipString_of_string hstring]
  exact hcolon

end Tokens

/-! ## Single steps -/

/-- Where one step leads, with more containers open around. -/
def within (outer : List Container) (t : Awaiting × List Container × List Char) :
    Awaiting × List Container × List Char :=
  (t.1, t.2.1 ++ outer, t.2.2)

theorem map_within {r : Except Fault (List Char)} (awaiting : Awaiting)
    (openOnes outer : List Container) :
    (r.map fun rest ↦ (awaiting, openOnes ++ outer, rest))
      = (r.map fun rest ↦ (awaiting, openOnes, rest)).map (within outer) := by
  cases r <;> rfl

theorem skipStep_value_append (openOnes outer : List Container) (cs : List Char) :
    skipStep .value (openOnes ++ outer) cs = (skipStep .value openOnes cs).map (within outer) := by
  unfold skipStep
  dsimp only
  split
  · rfl
  · repeat' split
    all_goals first
      | rfl
      | exact map_within .next openOnes outer
      | exact map_within .value (.object :: openOnes) outer

/-- A step does not look at the containers around the innermost one. -/
theorem skipStep_append {awaiting : Awaiting} {openOnes : List Container}
    (hactive : awaiting = .next → openOnes ≠ []) (outer : List Container) (cs : List Char) :
    skipStep awaiting (openOnes ++ outer) cs
      = (skipStep awaiting openOnes cs).map (within outer) := by
  cases awaiting with
  | value => exact skipStep_value_append openOnes outer cs
  | next =>
    cases openOnes with
    | nil => exact absurd rfl (hactive rfl)
    | cons container openOnes =>
      cases container
      all_goals
        unfold skipStep
        dsimp only [List.cons_append]
        split
        all_goals first
          | rfl
          | exact map_within .value (.object :: openOnes) outer

section Lengths

variable {awaiting awaiting' : Awaiting} {openOnes openOnes' : List Container}
  {cs rest : List Char}

theorem length_of_map {r : Except Fault (List Char)} {n : Nat}
    (h : (r.map fun rest ↦ (awaiting, openOnes, rest)) = .ok (awaiting', openOnes', rest))
    (hlength : ∀ more, r = .ok more → more.length < n) : rest.length < n := by
  obtain ⟨more, rfl, hmore⟩ := exists_of_map_eq_ok h
  cases hmore
  exact hlength _ rfl

theorem length_of_skipStep_value
    (h : skipStep .value openOnes cs = .ok (awaiting', openOnes', rest)) :
    rest.length < cs.length := by
  have hgaps := length_skipGaps cs
  unfold skipStep at h
  dsimp only at h
  split at h
  · cases h
  · rename_i c ds hcs
    rw [hcs, List.length_cons] at hgaps
    have hword : ∀ {ws more : List Char}, word ws ds = .ok more → more.length < cs.length :=
      fun hmore ↦ Nat.lt_of_le_of_lt (length_of_word hmore) hgaps
    have hinside := length_skipGaps ds
    split at h
    · exact length_of_map h fun _ ↦ hword
    split at h
    · exact length_of_map h fun _ ↦ hword
    split at h
    · exact length_of_map h fun _ ↦ hword
    split at h
    · exact length_of_map h fun _ hmore ↦ (length_of_skipNumber hmore).trans hgaps
    split at h
    · exact length_of_map h fun _ hmore ↦ (length_of_skipNumber hmore).trans_le hgaps
    split at h
    · exact length_of_map h fun _ hmore ↦ (length_of_skipString hmore).trans hgaps
    split at h
    · split at h
      · cases h
      · rename_i hds
        cases h
        rw [hds, List.length_cons] at hinside
        omega
      · cases h
        omega
    split at h
    · split at h
      · cases h
      · rename_i hds
        cases h
        rw [hds, List.length_cons] at hinside
        omega
      · exact length_of_map h fun _ hmore ↦
          (length_of_skipKey hmore).trans (Nat.lt_of_le_of_lt hinside hgaps)
    · cases h

/-- A step takes a character at least. -/
theorem length_of_skipStep (hactive : awaiting = .next → openOnes ≠ [])
    (h : skipStep awaiting openOnes cs = .ok (awaiting', openOnes', rest)) :
    rest.length < cs.length := by
  have hgaps := length_skipGaps cs
  cases awaiting with
  | value => exact length_of_skipStep_value h
  | next =>
    cases openOnes with
    | nil => exact absurd rfl (hactive rfl)
    | cons container openOnes =>
      cases container
      all_goals
        unfold skipStep at h
        dsimp only at h
        split at h
        · cases h
      · rename_i hcs
        cases h
        rw [hcs] at hgaps
        exact hgaps
      · rename_i hcs
        cases h
        rw [hcs] at hgaps
        exact hgaps
      · cases h
      · rename_i hcs
        rw [hcs] at hgaps
        exact length_of_map h fun _ hmore ↦ (length_of_skipKey hmore).trans hgaps
      · rename_i hcs
        cases h
        rw [hcs] at hgaps
        exact hgaps
      · cases h

end Lengths

/-! ## Many steps -/

/-- Passing over gets from one state to the other, within as many steps as characters are taken and
with any containers open around. -/
def Skims (s t : Awaiting × List Container × List Char) : Prop :=
  ∃ n, n + t.2.2.length ≤ s.2.2.length ∧ ∀ outer bound,
    skipFrom (bound + n) s.1 (s.2.1 ++ outer) s.2.2 = skipFrom bound t.1 (t.2.1 ++ outer) t.2.2

namespace Skims

variable {s t u : Awaiting × List Container × List Char}

theorem refl (s : Awaiting × List Container × List Char) : Skims s s :=
  ⟨0, by omega, fun _ _ ↦ rfl⟩

theorem trans (h : Skims s t) (h' : Skims t u) : Skims s u := by
  obtain ⟨n, hlength, hsteps⟩ := h
  obtain ⟨n', hlength', hsteps'⟩ := h'
  refine ⟨n' + n, by omega, fun outer bound ↦ ?_⟩
  rw [← Nat.add_assoc, hsteps, hsteps']

/-- More containers may be open around. -/
theorem within (h : Skims s t) (outer : List Container) :
    Skims (Json.within outer s) (Json.within outer t) := by
  obtain ⟨n, hlength, hsteps⟩ := h
  refine ⟨n, hlength, fun outer' bound ↦ ?_⟩
  simp only [Json.within, List.append_assoc]
  exact hsteps (outer ++ outer') bound

end Skims

section Runs

variable {awaiting : Awaiting} {openOnes : List Container} {cs rest : List Char}
  {t : Awaiting × List Container × List Char}

theorem skipFrom_succ (hactive : awaiting = .next → openOnes ≠ []) (bound : Nat) :
    skipFrom (bound + 1) awaiting openOnes cs
      = (skipStep awaiting openOnes cs).bind fun t ↦ skipFrom bound t.1 t.2.1 t.2.2 := by
  rw [skipFrom, if_neg fun h ↦ hactive h.1 h.2]
  cases skipStep awaiting openOnes cs <;> rfl

theorem Skims.step (hactive : awaiting = .next → openOnes ≠ [])
    (h : skipStep awaiting openOnes cs = .ok t) : Skims (awaiting, openOnes, cs) t := by
  refine ⟨1, ?_, fun outer bound ↦ ?_⟩
  · have hlength : t.2.2.length < cs.length := length_of_skipStep hactive h
    change 1 + t.2.2.length ≤ cs.length
    omega
  · have hactive' : awaiting = .next → openOnes ++ outer ≠ [] := fun hnext hnil ↦
      hactive hnext (List.append_eq_nil_iff.1 hnil).1
    rw [skipFrom_succ hactive', skipStep_append hactive, h]
    rfl

theorem skims_of_skipFrom {bound : Nat} (h : skipFrom bound awaiting openOnes cs = .ok rest) :
    Skims (awaiting, openOnes, cs) (.next, [], rest) := by
  induction bound generalizing awaiting openOnes cs with
  | zero => cases h
  | succ bound ih =>
    by_cases hdone : awaiting = .next ∧ openOnes = []
    · rw [skipFrom, if_pos hdone] at h
      obtain ⟨rfl, rfl⟩ := hdone
      cases h
      exact .refl _
    · have hactive : awaiting = .next → openOnes ≠ [] := fun hnext hnil ↦ hdone ⟨hnext, hnil⟩
      rw [skipFrom_succ hactive] at h
      cases hstep : skipStep awaiting openOnes cs with
      | error f =>
        rw [hstep] at h
        cases h
      | ok t =>
        rw [hstep] at h
        exact (Skims.step hactive hstep).trans (ih h)

/-- A value is passed over exactly if the steps lead behind it. -/
theorem skipValue_eq_ok_iff :
    skipValue cs = .ok rest ↔ Skims (.value, [], cs) (.next, [], rest) := by
  constructor
  · exact skims_of_skipFrom
  · rintro ⟨n, hlength, hsteps⟩
    have hbound : cs.length + 2 = (cs.length + 1 - n) + 1 + n := by
      dsimp only at hlength
      omega
    rw [skipValue, hbound]
    exact (hsteps [] _).trans (if_pos ⟨rfl, rfl⟩)

/-- Blanks in front of a value need no step. -/
theorem skims_skipGaps (openOnes : List Container) (cs : List Char) :
    Skims (.value, openOnes, cs) (.value, openOnes, skipGaps cs) := by
  refine ⟨0, by simpa using length_skipGaps cs, fun outer bound ↦ ?_⟩
  have hactive : Awaiting.value = .next → openOnes ++ outer ≠ [] := by simp
  cases bound with
  | zero => rfl
  | succ bound =>
    dsimp only
    rw [Nat.add_zero, skipFrom_succ hactive, skipFrom_succ hactive]
    simp only [skipStep, skipGaps_skipGaps]

end Runs

/-! ## Inside containers -/

section Containers

variable {first : Bool} {cs ds rest : List Char}

/-- Inside a list, in front of its first item or behind an item. -/
def inList (first : Bool) (cs : List Char) : Awaiting × List Container × List Char :=
  if first then (.value, [], '[' :: cs) else (.next, [.list], cs)

/-- Inside an object, in front of its first field or behind a field. -/
def inObject (first : Bool) (cs : List Char) : Awaiting × List Container × List Char :=
  if first then (.value, [], '\x7b' :: cs) else (.next, [.object], cs)

theorem skims_of_nextItem_none (h : nextItem first cs = .ok (none, rest)) :
    Skims (inList first cs) (.next, [], rest) := by
  have hcs := skipGaps_of_nextItem_none h
  cases first with
  | true =>
    refine Skims.step (by simp) ?_
    simp [skipStep, skipGaps_cons (c := '[') rfl, hcs]
  | false =>
    refine Skims.step (by simp) ?_
    simp only [skipStep, hcs]

theorem skims_of_item {more : List Char} (h : nextItem first cs = .ok (some ds, more))
    (hitem : Skims (.value, [], ds) (.next, [], rest)) :
    Skims (inList first cs) (inList false rest) := by
  have hinside : Skims (.value, [.list], ds) (inList false rest) := hitem.within [.list]
  cases first with
  | true =>
    obtain ⟨c, es, hcs, rfl, hc⟩ := skipGaps_of_nextItem_first h
    refine .trans (Skims.step (by simp) ?_) hinside
    simp [skipStep, skipGaps_cons (c := '[') rfl, hcs, hc]
  | false =>
    obtain ⟨es, hcs, rfl⟩ := skipGaps_of_nextItem_next h
    refine .trans (Skims.step (by simp) ?_) ((skims_skipGaps [.list] es).trans hinside)
    simp only [skipStep, hcs]

theorem skims_of_nextKey_none (h : nextKey first cs = .ok (none, rest)) :
    Skims (inObject first cs) (.next, [], rest) := by
  have hcs := skipGaps_of_nextKey_none h
  cases first with
  | true =>
    refine Skims.step (by simp) ?_
    simp [skipStep, skipGaps_cons (c := '\x7b') rfl, hcs]
  | false =>
    refine Skims.step (by simp) ?_
    simp only [skipStep, hcs]

theorem skims_of_field {k : String} {more : List Char}
    (h : nextKey first cs = .ok (some k, more)) (hcolon : colon more = .ok ds)
    (hvalue : Skims (.value, [], ds) (.next, [], rest)) :
    Skims (inObject first cs) (inObject false rest) := by
  have hinside : Skims (.value, [.object], ds) (inObject false rest) := hvalue.within [.object]
  cases first with
  | true =>
    obtain ⟨es, hcs, hstring⟩ := string_of_nextKey_first h
    refine .trans (Skims.step (by simp) ?_) hinside
    have hkey : skipKey (skipGaps cs) = .ok ds :=
      skipKey_of_string (by rw [skipGaps_skipGaps, hcs]) hstring hcolon
    rw [hcs] at hkey
    simp [skipStep, skipGaps_cons (c := '\x7b') rfl, hcs, hkey]
    rfl
  | false =>
    obtain ⟨es, fs, hcs, hes, hstring⟩ := string_of_nextKey_next h
    refine .trans (Skims.step (by simp) ?_) hinside
    have hkey : skipKey es = .ok ds := skipKey_of_string hes hstring hcolon
    simp only [skipStep, hcs, hkey]
    rfl

end Containers

/-! ## What is read -/

/-- How a value that is read is spelled, told by the first character. -/
inductive Spelled : (depth : Nat) → List Char → Json → List Char → Prop
  | null {d cs rest} : word ['u', 'l', 'l'] cs = .ok rest → Spelled d ('n' :: cs) null rest
  | true {d cs rest} : word ['r', 'u', 'e'] cs = .ok rest → Spelled d ('t' :: cs) (bool true) rest
  | false {d cs rest} :
    word ['a', 'l', 's', 'e'] cs = .ok rest → Spelled d ('f' :: cs) (bool false) rest
  | minus {d cs n rest} : number true cs = .ok (n, rest) → Spelled d ('-' :: cs) (num n) rest
  | digit {d c cs n rest} :
    c.isDigit = true → number false (c :: cs) = .ok (n, rest) → Spelled d (c :: cs) (num n) rest
  | str {d cs s rest} : string cs = .ok (s, rest) → Spelled d ('"' :: cs) (str s) rest
  | arr {d cs items rest} :
    itemsFrom (value d) (cs.length + 1) Bool.true [] cs = .ok (items, rest) →
    Spelled (d + 1) ('[' :: cs) (arr items) rest
  | obj {d cs t rest} :
    fieldsFrom (value d) (cs.length + 1) Bool.true .empty cs = .ok (t, rest) →
    Spelled (d + 1) ('\x7b' :: cs) (ofTable t) rest

theorem spelled_of_value {d : Nat} {cs rest : List Char} {v : Json}
    (h : value d cs = .ok (v, rest)) : Spelled d (skipGaps cs) v rest := by
  rw [value.eq_def] at h
  split at h
  · cases h
  · rename_i c ds hcs
    rw [hcs]
    split at h
    · rename_i hc
      subst hc
      obtain ⟨_, hword, heq⟩ := exists_of_map_eq_ok h
      cases heq
      exact .null hword
    split at h
    · rename_i hc
      subst hc
      obtain ⟨_, hword, heq⟩ := exists_of_map_eq_ok h
      cases heq
      exact .true hword
    split at h
    · rename_i hc
      subst hc
      obtain ⟨_, hword, heq⟩ := exists_of_map_eq_ok h
      cases heq
      exact .false hword
    split at h
    · rename_i hc
      subst hc
      obtain ⟨_, hnumber, heq⟩ := exists_of_map_eq_ok h
      cases heq
      exact .minus hnumber
    split at h
    · rename_i hc
      obtain ⟨_, hnumber, heq⟩ := exists_of_map_eq_ok h
      cases heq
      exact .digit hc hnumber
    split at h
    · rename_i hc
      subst hc
      obtain ⟨_, hstring, heq⟩ := exists_of_map_eq_ok h
      cases heq
      exact .str hstring
    split at h
    · rename_i hc
      subst hc
      cases d with
      | zero => cases h
      | succ d =>
        obtain ⟨_, hitems, heq⟩ := exists_of_map_eq_ok h
        cases heq
        exact .arr hitems
    split at h
    · rename_i hc
      subst hc
      cases d with
      | zero => cases h
      | succ d =>
        obtain ⟨_, hfields, heq⟩ := exists_of_map_eq_ok h
        cases heq
        exact .obj hfields
    · cases h

section Values

variable {bound : Nat} {first : Bool} {cs rest : List Char}

/-- Whatever the reader takes is passed over. -/
def IsSkimmed (item : Reader Json) : Prop :=
  ∀ ⦃cs v rest⦄, item cs = .ok (v, rest) → Skims (.value, [], cs) (.next, [], rest)

theorem IsSkimmed.itemsFrom {item : Reader Json} (hitem : IsSkimmed item) {done items : List Json}
    (h : itemsFrom item bound first done cs = .ok (items, rest)) :
    Skims (inList first cs) (.next, [], rest) := by
  induction bound generalizing first done cs with
  | zero => cases h
  | succ bound ih =>
    rw [Json.itemsFrom] at h
    split at h
    · cases h
    · rename_i hnext
      cases h
      exact skims_of_nextItem_none hnext
    · rename_i hnext
      split at h
      · cases h
      · rename_i hvalue
        exact (skims_of_item hnext (hitem hvalue)).trans (ih h)

theorem IsSkimmed.fieldsFrom {item : Reader Json} (hitem : IsSkimmed item) {done t : Table Json}
    (h : fieldsFrom item bound first done cs = .ok (t, rest)) :
    Skims (inObject first cs) (.next, [], rest) := by
  induction bound generalizing first done cs with
  | zero => cases h
  | succ bound ih =>
    rw [Json.fieldsFrom] at h
    split at h
    · cases h
    · rename_i hnext
      cases h
      exact skims_of_nextKey_none hnext
    · rename_i hnext
      split at h
      · cases h
      · rename_i hcolon
        split at h
        · cases h
        · rename_i hvalue
          exact (skims_of_field hnext hcolon (hitem hvalue)).trans (ih h)

/-- Where a step passes over a scalar at once, it gets behind it. -/
theorem skims_scalar {r : Except Fault (List Char)} (hr : r = .ok rest)
    (hstep : skipStep .value [] cs = r.map fun rest ↦ (.next, [], rest)) :
    Skims (.value, [], cs) (.next, [], rest) := by
  refine Skims.step (by simp) ?_
  rw [hstep, hr]
  rfl

theorem skipStep_digit {c : Char} (hc : c.isDigit = true) (cs : List Char) :
    skipStep .value [] (c :: cs)
      = (skipNumber (c :: cs)).map fun rest ↦ (Awaiting.next, [], rest) := by
  unfold skipStep
  rw [skipGaps_cons (isGap_of_isDigit hc)]
  simp only [if_neg (ne_of_isDigit (e := 'n') hc rfl), if_neg (ne_of_isDigit (e := 't') hc rfl),
    if_neg (ne_of_isDigit (e := 'f') hc rfl), if_neg (ne_of_isDigit (e := '-') hc rfl), if_pos hc]

/-- What is read is passed over, however deep the reader goes. -/
theorem isSkimmed_value (d : Nat) : IsSkimmed (value d) := by
  induction d using Nat.strong_induction_on with
  | _ d ih =>
    intro cs v rest h
    have hspelled := spelled_of_value h
    refine (skims_skipGaps [] cs).trans ?_
    generalize skipGaps cs = ds at hspelled ⊢
    cases hspelled with
    | null hword | true hword | false hword => exact skims_scalar hword rfl
    | minus hnumber => exact skims_scalar (skipNumber_of_number hnumber) rfl
    | digit hc hnumber => exact skims_scalar (skipNumber_of_number hnumber) (skipStep_digit hc _)
    | str hstring => exact skims_scalar (skipString_of_string hstring) rfl
    | arr hitems => exact (ih _ (Nat.lt_succ_self _)).itemsFrom hitems
    | obj hfields => exact (ih _ (Nat.lt_succ_self _)).fieldsFrom hfields

theorem skipValue_of_value {d : Nat} {v : Json} (h : value d cs = .ok (v, rest)) :
    skipValue cs = .ok rest :=
  skipValue_eq_ok_iff.2 (isSkimmed_value d h)

end Values

end ServiceCall.Json

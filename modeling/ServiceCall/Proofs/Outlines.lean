import ServiceCall.Proofs.Passing
import ServiceCall.Proofs.Records

/-!
# The outline of an object

A record made of texts looks at little of an object: at its keys, in the order of the text and with
repetitions, and behind each key at the text or null that stands there. This much of a text is its
outline (`Json.outline?`). What else an unknown field holds, it need only be well formed.

The outline settles what is read of such a record (`Json.Shape.toOption_read`). Known names may not
be repeated, and each of them must hold what its field takes (`Json.Shape.Accepts`); then the record
holds these values (`Json.Shape.toOption_read_of_accepts`).

Two ways lead to an outline. A text that is read as an object has one, and so does the printed form
of any object.
-/

namespace ServiceCall.Json

/-! ## Fields of text -/

/-- The field takes texts and nothing but texts and null. -/
def Slot.IsTextual (slot : Slot) : Prop := slot = .text ∨ slot = .optionalText

theorem Slot.IsTextual.takes_optionalText {slot : Slot} (hslot : slot.IsTextual) {v : Json}
    (h : slot.takes v = true) : Slot.optionalText.takes v = true := by
  rcases hslot with rfl | rfl
  · cases v with
    | str s => rfl
    | _ => cases h
  · exact h

section Heads

variable {cs ds : List Char} {d : Nat}

theorem value_of_skipGaps_eq_quote (hcs : skipGaps cs = '"' :: ds) :
    value d cs = (string ds).map fun r ↦ (.str r.1, r.2) := by
  have hgaps : skipGaps cs = skipGaps ('"' :: ds) := by rw [hcs, skipGaps_cons rfl]
  rw [value_congr hgaps]
  cases d <;> rfl

theorem value_of_skipGaps_eq_n (hcs : skipGaps cs = 'n' :: ds) :
    value d cs = (word ['u', 'l', 'l'] ds).map fun rest ↦ (.null, rest) := by
  have hgaps : skipGaps cs = skipGaps ('n' :: ds) := by rw [hcs, skipGaps_cons rfl]
  rw [value_congr hgaps]
  cases d <;> rfl

end Heads

namespace Shape

/-- A value of the wrong kind is never taken. -/
theorem refuse_ne_ok {α : Type} (expected : String) (cs : List Char) (a : α) :
    refuse expected cs ≠ .ok a := by
  have hbind : ∀ {β : Type} {r : Except Fault β} {fault : β → Fault},
      (r >>= fun b ↦ (.error (fault b) : Except Fault α)) ≠ .ok a := by
    intro β r fault h
    cases r <;> cases h
  unfold refuse
  cases cs with
  | nil => exact fun h ↦ by cases h
  | cons c cs =>
    dsimp only
    repeat' split
    all_goals first
      | exact hbind
      | exact fun h ↦ by cases h

section Slots

variable {cs rest : List Char} {v : Json} {d : Nat}

theorem readText_of_skipGaps_eq {ds : List Char} (hcs : skipGaps cs = '"' :: ds) :
    readText cs = (string ds).map fun r ↦ (.str r.1, r.2) := by
  rw [readText, hcs]
  rfl

/-- What is read as text stands in quotes. -/
theorem exists_string_of_readText (h : readText cs = .ok (v, rest)) :
    ∃ s ds, skipGaps cs = '"' :: ds ∧ string ds = .ok (s, rest) ∧ v = .str s := by
  rw [readText] at h
  split at h
  · cases h
  · rename_i ds hcs
    obtain ⟨r, hr, heq⟩ := exists_of_map_eq_ok h
    cases heq
    exact ⟨_, ds, hcs, hr, rfl⟩
  · exact absurd h (refuse_ne_ok _ _ _)

/-- A text is read as a value of this kind. -/
theorem readText_eq_ok_iff :
    readText cs = .ok (v, rest) ↔ value d cs = .ok (v, rest) ∧ Slot.text.takes v = true := by
  constructor
  · intro h
    obtain ⟨s, ds, hcs, hstring, rfl⟩ := exists_string_of_readText h
    rw [value_of_skipGaps_eq_quote hcs, hstring]
    exact ⟨rfl, rfl⟩
  · rintro ⟨hvalue, htakes⟩
    have hspelled := spelled_of_value hvalue
    generalize hcs : skipGaps cs = ds at hspelled
    cases hspelled with
    | str hstring =>
      rw [readText_of_skipGaps_eq hcs, hstring]
      rfl
    | _ => cases htakes

theorem orNull_readText_eq_ok_iff :
    orNull readText cs = .ok (v, rest) ↔
      value d cs = .ok (v, rest) ∧ Slot.optionalText.takes v = true := by
  rw [orNull]
  split
  · rename_i ds hcs
    rw [value_of_skipGaps_eq_n hcs]
    constructor
    · intro h
      refine ⟨h, ?_⟩
      obtain ⟨_, -, heq⟩ := exists_of_map_eq_ok h
      cases heq
      rfl
    · exact And.left
  · rename_i hcs
    rw [readText_eq_ok_iff (d := d), value_skipGaps]
    refine and_congr_right fun hvalue ↦ ?_
    have hspelled := spelled_of_value hvalue
    generalize hds : skipGaps cs = ds at hspelled
    cases hspelled with
    | null => exact absurd hds (hcs _)
    | _ => exact Iff.rfl

/-- A field of text reads what stands there as a value, as far as it takes that. -/
theorem readSlot_eq_ok_iff {slot : Slot} (hslot : slot.IsTextual) :
    readSlot slot cs = .ok (v, rest) ↔ value d cs = .ok (v, rest) ∧ slot.takes v = true := by
  rcases hslot with rfl | rfl
  · exact readText_eq_ok_iff
  · exact orNull_readText_eq_ok_iff

end Slots

end Shape

/-! ## Outlines -/

/-- The text or null that stands in front. -/
def textualAt (cs : List Char) : Option Json :=
  (Shape.readSlot .optionalText cs).toOption.map Prod.fst

/-- The value, if it is a text or null. -/
def textual? (v : Json) : Option Json := (some v).filter Slot.optionalText.takes

/-- The keys of an object up to its closing brace, each with the text or null behind it. -/
def outlineFrom : (bound : Nat) → (first : Bool) → List Char →
    Option (List (String × Option Json) × List Char)
  | 0, _, _ => none
  | bound + 1, first, cs =>
    match nextKey first cs with
    | .error _ => none
    | .ok (none, rest) => some ([], rest)
    | .ok (some key, rest) =>
      match colon rest with
      | .error _ => none
      | .ok inside =>
        match skipValue inside with
        | .error _ => none
        | .ok rest =>
          (outlineFrom bound false rest).map fun r ↦ ((key, textualAt inside) :: r.1, r.2)

/-- The outline of a text that holds an object and nothing else. -/
def outline? (text : String) : Option (List (String × Option Json)) :=
  match skipGaps text.toList with
  | '\x7b' :: cs =>
    ((outlineFrom (cs.length + 1) true cs).filter fun r ↦ (finish r.2).toBool).map Prod.fst
  | _ => none

example : outline? "\x7b\"a\": \"b\", \"a\": [1e999], \"c\": null\x7d"
    = some [("a", some (.str "b")), ("a", none), ("c", some .null)] := by
  decide +kernel

section Values

variable {d : Nat} {cs rest : List Char} {v : Json}

theorem toOption_eq_some_iff {α ε : Type} {r : Except ε α} {a : α} :
    r.toOption = some a ↔ r = .ok a := by
  cases r with
  | error e => simp [Except.toOption]
  | ok b => simp [Except.toOption]

theorem exists_eq_error_of_toOption {α ε : Type} {r : Except ε α} (h : r.toOption = none) :
    ∃ e, r = .error e := by
  cases r with
  | error e => exact ⟨e, rfl⟩
  | ok a => cases h

theorem textualAt_eq_some_iff : textualAt cs = some v ↔
    ∃ rest, value d cs = .ok (v, rest) ∧ Slot.optionalText.takes v = true := by
  rw [textualAt, Option.map_eq_some_iff]
  constructor
  · rintro ⟨⟨w, rest⟩, hread, rfl⟩
    exact ⟨rest, (Shape.readSlot_eq_ok_iff (.inr rfl)).1 (toOption_eq_some_iff.1 hread)⟩
  · rintro ⟨rest, h⟩
    exact ⟨(v, rest), toOption_eq_some_iff.2 ((Shape.readSlot_eq_ok_iff (.inr rfl)).2 h), rfl⟩

theorem textualAt_of_value (h : value d cs = .ok (v, rest)) : textualAt cs = textual? v := by
  refine Option.ext fun w ↦ ?_
  rw [textualAt_eq_some_iff (d := d), textual?, Option.filter_eq_some_iff, h]
  constructor
  · rintro ⟨_, ⟨⟩, htakes⟩
    exact ⟨rfl, htakes⟩
  · rintro ⟨⟨⟩, htakes⟩
    exact ⟨rest, rfl, htakes⟩

/-- What a field of text reads is in the outline, and ends where passing over it ends. -/
theorem toOption_readSlot {slot : Slot} (hslot : slot.IsTextual) (cs : List Char) :
    (Shape.readSlot slot cs).toOption = (skipValue cs).toOption.bind fun rest ↦
      ((textualAt cs).filter slot.takes).map (·, rest) := by
  refine Option.ext fun r ↦ ?_
  obtain ⟨v, rest⟩ := r
  rw [toOption_eq_some_iff, Shape.readSlot_eq_ok_iff hslot (d := 0)]
  simp only [Option.bind_eq_some_iff, Option.map_eq_some_iff, Option.filter_eq_some_iff,
    toOption_eq_some_iff, textualAt_eq_some_iff (d := 0), Prod.mk.injEq]
  constructor
  · rintro ⟨hvalue, htakes⟩
    exact ⟨rest, skipValue_of_value hvalue, v,
      ⟨⟨rest, hvalue, hslot.takes_optionalText htakes⟩, htakes⟩, rfl, rfl⟩
  · rintro ⟨more, hskip, _, ⟨⟨rest', hvalue, -⟩, htakes⟩, rfl, rfl⟩
    rw [skipValue_of_value hvalue] at hskip
    cases hskip
    exact ⟨hvalue, htakes⟩

end Values

/-! ## What is read of a record -/

namespace Shape

/-- The values of the known fields, if none is repeated and each field takes its value. -/
def gather (fields : List Field) : (done : Table Json) → List (String × Option Json) →
    Option (Table Json)
  | done, [] => some done
  | done, (key, held) :: entries =>
    match fields.find? (·.name = key) with
    | none => gather fields done entries
    | some field =>
      if done.contains key then none
      else (held.filter field.slot.takes).bind fun v ↦ gather fields (done.insert key v) entries

variable {fields : List Field} (htextual : ∀ f ∈ fields, f.slot.IsTextual)

include htextual

/-- Of the fields of an object, its outline is all that is read. -/
theorem toOption_objectFrom (bound : Nat) (first : Bool) (done : Table Json) (cs : List Char) :
    (objectFrom fields bound first done cs).toOption = (outlineFrom bound first cs).bind fun r ↦
      (gather fields done r.1).map (·, r.2) := by
  induction bound generalizing first done cs with
  | zero => rfl
  | succ bound ih =>
    rw [objectFrom, outlineFrom]
    cases hkey : nextKey first cs with
    | error f => rfl
    | ok r =>
      obtain ⟨key?, rest⟩ := r
      cases key? with
      | none => rfl
      | some key =>
        cases hcolon : colon rest with
        | error f =>
          simp only [hcolon]
          repeat' split
          all_goals rfl
        | ok inside =>
          cases hfield : fields.find? (·.name = key) with
          | none =>
            cases hskip : skipValue inside with
            | error f =>
              simp only [hcolon, hfield, hskip]
              rfl
            | ok more =>
              simp only [hcolon, hfield, hskip, ih, Option.bind_map, Function.comp_def, gather]
          | some field =>
            have hread := toOption_readSlot
              (htextual field (List.mem_of_find?_eq_some hfield)) inside
            have hgather : ∀ held entries, gather fields done ((key, held) :: entries)
                = if done.contains key then none
                  else (held.filter field.slot.takes).bind fun v ↦
                    gather fields (done.insert key v) entries := by
              intro held entries
              simp only [gather, hfield]
            simp only [hcolon, hfield]
            cases hskip : skipValue inside with
            | error f =>
              rw [hskip] at hread
              split
              · rfl
              · obtain ⟨fault, hfault⟩ := exists_eq_error_of_toOption hread
                rw [hfault]
                rfl
            | ok more =>
              rw [hskip] at hread
              simp only [Option.bind_map, Function.comp_def, hgather]
              split
              · cases outlineFrom bound false more <;> rfl
              · cases hheld : (textualAt inside).filter field.slot.takes with
                | none =>
                  rw [hheld] at hread
                  obtain ⟨fault, hfault⟩ := exists_eq_error_of_toOption hread
                  rw [hfault]
                  cases outlineFrom bound false more <;> rfl
                | some v =>
                  rw [hheld] at hread
                  rw [toOption_eq_some_iff.1 hread]
                  exact ih false (done.insert key v) more

omit htextual in
theorem toOption_collect (t : Table Json) (rest : List Char) (fields : List Field) :
    (collect t rest fields).toOption = fields.mapM fun f ↦ (t.get? f.name).or f.inObject := by
  induction fields with
  | nil => rfl
  | cons f fields ih =>
    rw [collect, List.mapM_cons, ← ih]
    cases (t.get? f.name).or f.inObject with
    | none => rfl
    | some v => cases collect t rest fields <;> rfl

end Shape

theorem outline?_of_skipGaps {text : String} {cs : List Char}
    (hcs : skipGaps text.toList = '\x7b' :: cs) :
    outline? text = ((outlineFrom (cs.length + 1) true cs).filter fun r ↦
      (finish r.2).toBool).map Prod.fst := by
  rw [outline?, hcs]
  rfl

theorem exists_skipGaps_of_outline? {text : String} {entries : List (String × Option Json)}
    (h : outline? text = some entries) : ∃ cs, skipGaps text.toList = '\x7b' :: cs := by
  rw [outline?] at h
  split at h
  · rename_i cs hcs
    exact ⟨cs, hcs⟩
  · cases h

theorem toOption_bind {α β ε : Type} (r : Except ε α) (f : α → Except ε β) :
    (r.bind f).toOption = r.toOption.bind fun a ↦ (f a).toOption := by
  cases r <;> rfl

theorem toOption_map {α β ε : Type} (r : Except ε α) (f : α → β) :
    (r.map f).toOption = r.toOption.map f := by
  cases r <;> rfl

/-- What is read of a whole text, behind which nothing may stand. -/
theorem toOption_finish {α : Type} (r : Except Fault (α × List Char)) :
    (r.bind fun r ↦ (finish r.2).bind fun _ ↦ .ok r.1).toOption
      = (r.toOption.filter fun r ↦ (finish r.2).toBool).map Prod.fst := by
  cases r with
  | error f => rfl
  | ok r =>
    change ((finish r.2).bind fun _ ↦ .ok r.1).toOption
      = ((some r).filter fun r ↦ (finish r.2).toBool).map Prod.fst
    rw [Option.filter_some]
    cases finish r.2 <;> rfl

theorem bind_finish_eq_ok_iff {α : Type} {r : Except Fault (α × List Char)} {a : α} :
    (r.bind fun r ↦ (finish r.2).bind fun _ ↦ .ok r.1) = .ok a ↔
      ∃ rest, r = .ok (a, rest) ∧ (finish rest).toBool = true := by
  rw [← toOption_eq_some_iff, toOption_finish, Option.map_eq_some_iff]
  simp only [Option.filter_eq_some_iff, toOption_eq_some_iff]
  constructor
  · rintro ⟨⟨_, rest⟩, h, rfl⟩
    exact ⟨rest, h⟩
  · rintro ⟨rest, h⟩
    exact ⟨(a, rest), h, rfl⟩

/-- The record that an object holds is told by the outline of the object. -/
theorem Shape.toOption_read (shape : Shape) (htextual : ∀ f ∈ shape.fields, f.slot.IsTextual)
    {text : String} {cs : List Char} (hcs : skipGaps text.toList = '\x7b' :: cs) :
    (shape.read text).toOption = (outline? text).bind fun entries ↦
      (gather shape.fields .empty entries).bind fun t ↦
        shape.fields.mapM fun f ↦ (t.get? f.name).or f.inObject := by
  have hrecord : (shape.readRecord text.toList).toOption
      = (outlineFrom (cs.length + 1) true cs).bind fun r ↦
          (gather shape.fields .empty r.1).bind fun t ↦
            (shape.fields.mapM fun f ↦ (t.get? f.name).or f.inObject).map (·, r.2) := by
    have hbrace : shape.readRecord text.toList = shape.readRecord ('\x7b' :: cs) := by
      rw [readRecord, hcs, readRecord, skipGaps_cons rfl]
    have hobject := toOption_objectFrom htextual (cs.length + 1) true .empty cs
    rw [hbrace, readRecord_brace, toOption_bind, hobject, Option.bind_assoc]
    simp only [Option.bind_map, Function.comp_def, toOption_map, toOption_collect]
  have hread : shape.read text
      = (shape.readRecord text.toList).bind fun r ↦ (finish r.2).bind fun _ ↦ .ok r.1 := rfl
  rw [hread, toOption_finish, hrecord, outline?_of_skipGaps hcs]
  cases outlineFrom (cs.length + 1) true cs with
  | none => rfl
  | some r =>
    cases hgather : gather shape.fields .empty r.1 with
    | none => cases hfinish : (finish r.2).toBool <;> simp [Option.filter_some, hgather, hfinish]
    | some t =>
      cases hvalues : shape.fields.mapM fun f ↦ (t.get? f.name).or f.inObject
      all_goals
        cases hfinish : (finish r.2).toBool <;>
          simp [Option.filter_some, hgather, hvalues, hfinish]

/-! ## What is accepted -/

namespace Shape

/-- The name is that of a field. -/
def Knows (fields : List Field) (name : String) : Prop := ∃ f, fields.find? (·.name = name) = some f

theorem knows_of_mem {fields : List Field} {f : Field} (hf : f ∈ fields) :
    Knows fields f.name := by
  refine Option.isSome_iff_exists.1 (List.find?_isSome.2 ⟨f, hf, ?_⟩)
  exact decide_eq_true rfl

theorem knows_iff_mem {fields : List Field} {name : String} :
    Knows fields name ↔ name ∈ fields.map (·.name) := by
  constructor
  · rintro ⟨f, hf⟩
    obtain rfl : f.name = name := by simpa using List.find?_some hf
    exact List.mem_map_of_mem (List.mem_of_find?_eq_some hf)
  · intro h
    obtain ⟨f, hf, rfl⟩ := List.mem_map.1 h
    exact knows_of_mem hf

/-- No known name is repeated, and each stands with a value that its field takes. -/
structure Accepts (fields : List Field) (entries : List (String × Option Json)) : Prop where
  once : ∀ name, Knows fields name → (entries.map Prod.fst).count name ≤ 1
  taken : ∀ e ∈ entries, ∀ f, fields.find? (·.name = e.1) = some f →
    ∃ v, e.2 = some v ∧ f.slot.takes v = true

variable {fields : List Field} {entries : List (String × Option Json)}

theorem accepts_nil : Accepts fields [] where
  once _ _ := Nat.zero_le 1
  taken _ h := by cases h

theorem accepts_cons_of_unknown {key : String} {held : Option Json}
    (hkey : fields.find? (·.name = key) = none) :
    Accepts fields ((key, held) :: entries) ↔ Accepts fields entries := by
  have hcount : ∀ name, Knows fields name →
      (((key, held) :: entries).map Prod.fst).count name = (entries.map Prod.fst).count name := by
    rintro name ⟨f, hf⟩
    rw [List.map_cons, List.count_cons_of_ne]
    rintro rfl
    rw [hkey] at hf
    cases hf
  constructor
  · rintro ⟨honce, htaken⟩
    exact ⟨fun name hname ↦ hcount name hname ▸ honce name hname,
      fun e he ↦ htaken e (List.mem_cons_of_mem _ he)⟩
  · rintro ⟨honce, htaken⟩
    refine ⟨fun name hname ↦ (hcount name hname).symm ▸ honce name hname, fun e he f hf ↦ ?_⟩
    rcases List.mem_cons.1 he with rfl | he
    · rw [hkey] at hf
      cases hf
    · exact htaken e he f hf

theorem accepts_cons_of_known {key : String} {held : Option Json} {f : Field}
    (hkey : fields.find? (·.name = key) = some f) :
    Accepts fields ((key, held) :: entries) ↔
      (∃ v, held = some v ∧ f.slot.takes v = true) ∧ key ∉ entries.map Prod.fst ∧
        Accepts fields entries := by
  constructor
  · rintro ⟨honce, htaken⟩
    have hfirst := honce key ⟨f, hkey⟩
    rw [List.map_cons, List.count_cons_self] at hfirst
    refine ⟨htaken _ List.mem_cons_self f hkey, List.count_eq_zero.1 (by omega), ?_,
      fun e he ↦ htaken e (List.mem_cons_of_mem _ he)⟩
    exact fun name hname ↦ (List.count_le_count_cons).trans (honce name hname)
  · rintro ⟨hheld, hkeys, honce, htaken⟩
    refine ⟨fun name hname ↦ ?_, fun e he g hg ↦ ?_⟩
    · rw [List.map_cons, List.count_cons]
      split
      · rename_i heq
        obtain rfl : key = name := by simpa using heq
        rw [List.count_eq_zero.2 hkeys]
      · exact honce name hname
    · rcases List.mem_cons.1 he with rfl | he
      · rw [hkey] at hg
        cases hg
        exact hheld
      · exact htaken e he g hg

/-- With the name of a field done, the others are free if it is not among them. -/
theorem free_insert_iff {key : String} {f : Field} (hkey : fields.find? (·.name = key) = some f)
    {done : Table Json} {v : Json} :
    (∀ e ∈ entries, Knows fields e.1 → (done.insert key v).get? e.1 = none) ↔
      key ∉ entries.map Prod.fst ∧ ∀ e ∈ entries, Knows fields e.1 → done.get? e.1 = none := by
  constructor
  · intro h
    refine ⟨fun hmem ↦ ?_, fun e he hknows ↦ ?_⟩
    · obtain ⟨e, he, rfl⟩ := List.mem_map.1 hmem
      have hnone := h e he ⟨f, hkey⟩
      rw [Table.get?_insert_self] at hnone
      cases hnone
    · have hnone := h e he hknows
      rw [Table.get?_insert] at hnone
      split at hnone
      · cases hnone
      · exact hnone
  · rintro ⟨hkeys, hfree⟩ e he hknows
    have hne : e.1 ≠ key := fun heq ↦ hkeys (heq ▸ List.mem_map_of_mem he)
    rw [Table.get?_insert_of_ne _ _ hne]
    exact hfree e he hknows

/-- The values are gathered exactly of what is accepted and not done yet. -/
theorem gather_isSome_iff (done : Table Json) :
    (gather fields done entries).isSome = true ↔ Accepts fields entries ∧
      ∀ e ∈ entries, Knows fields e.1 → done.get? e.1 = none := by
  induction entries generalizing done with
  | nil => simp [gather, accepts_nil]
  | cons e entries ih =>
    obtain ⟨key, held⟩ := e
    rw [gather]
    cases hkey : fields.find? (·.name = key) with
    | none =>
      have hnot : ¬ Knows fields key := by
        rintro ⟨f, hf⟩
        rw [hkey] at hf
        cases hf
      rw [accepts_cons_of_unknown hkey, List.forall_mem_cons]
      dsimp only
      rw [ih]
      exact and_congr_right fun _ ↦ (and_iff_right fun hknown ↦ absurd hknown hnot).symm
    | some f =>
      rw [accepts_cons_of_known hkey, List.forall_mem_cons]
      dsimp only
      by_cases hnew : done.contains key = true
      · have hdone : ¬ done.get? key = none := fun hnone ↦ by simp [Table.contains, hnone] at hnew
        simp [hnew, hdone, show Knows fields key from ⟨f, hkey⟩]
      · have hdone : done.get? key = none := by simpa [Table.contains] using hnew
        rw [if_neg hnew]
        cases hheld : held.filter f.slot.takes with
        | none =>
          have hnot : ¬ ∃ v, held = some v ∧ f.slot.takes v = true := by
            rintro ⟨v, rfl, htakes⟩
            rw [Option.filter_some_pos htakes] at hheld
            cases hheld
          simp [hnot]
        | some v =>
          have hsome : ∃ v, held = some v ∧ f.slot.takes v = true :=
            ⟨v, Option.filter_eq_some_iff.1 hheld⟩
          rw [Option.bind_some, ih, free_insert_iff hkey]
          tauto

/-- The table that is gathered holds what the known names stand with. -/
theorem get?_of_gather {done t : Table Json} (h : gather fields done entries = some t)
    {name : String} (hname : Knows fields name) :
    t.get? name = (done.get? name).or (entries.lookup name).join := by
  induction entries generalizing done with
  | nil =>
    cases h
    simp
  | cons e entries ih =>
    obtain ⟨key, held⟩ := e
    rw [Table.lookup_cons_ite]
    rw [gather] at h
    cases hkey : fields.find? (·.name = key) with
    | none =>
      simp only [hkey] at h
      obtain ⟨f, hf⟩ := hname
      have hne : name ≠ key := by
        rintro rfl
        rw [hkey] at hf
        cases hf
      rw [if_neg hne, ih h]
    | some f =>
      simp only [hkey] at h
      split at h
      · cases h
      · rename_i hnew
        obtain ⟨v, hheld, hgather⟩ := Option.bind_eq_some_iff.1 h
        obtain ⟨rfl, -⟩ := Option.filter_eq_some_iff.1 hheld
        rw [ih hgather, Table.get?_insert]
        by_cases hname : name = key
        · subst hname
          have hnone : done.get? name = none := by simpa [Table.contains] using hnew
          rw [if_pos rfl, if_pos rfl, hnone]
          rfl
        · rw [if_neg hname, if_neg hname]

/-- What is accepted can be looked up by the names of the fields. -/
theorem accepts_iff_lookup :
    Accepts fields entries ↔ ∀ name f, fields.find? (·.name = name) = some f →
      (entries.map Prod.fst).count name ≤ 1 ∧
        ∀ held, entries.lookup name = some held → ∃ v, held = some v ∧ f.slot.takes v = true := by
  constructor
  · intro h name f hf
    have honce := h.once name ⟨f, hf⟩
    refine ⟨honce, fun held hheld ↦ ?_⟩
    exact h.taken _ ((Table.lookup_eq_some_iff_mem_of_count honce).1 hheld) f hf
  · intro h
    refine ⟨fun name ⟨f, hf⟩ ↦ (h name f hf).1, fun e he f hf ↦ ?_⟩
    obtain ⟨honce, htaken⟩ := h e.1 f hf
    exact htaken e.2 ((Table.lookup_eq_some_iff_mem_of_count honce).2 he)

end Shape

/-- An outline holds nothing but texts and null. -/
theorem takes_of_mem_outlineFrom {bound : Nat} {first : Bool} {cs rest : List Char}
    {entries : List (String × Option Json)} (h : outlineFrom bound first cs = some (entries, rest))
    {name : String} {v : Json} (hv : (name, some v) ∈ entries) :
    Slot.optionalText.takes v = true := by
  induction bound generalizing first cs entries with
  | zero => cases h
  | succ bound ih =>
    rw [outlineFrom] at h
    split at h
    · cases h
    · cases h
      cases hv
    · split at h
      · cases h
      · split at h
        · cases h
        · obtain ⟨⟨later, behind⟩, hlater, heq⟩ := Option.map_eq_some_iff.1 h
          cases heq
          rcases List.mem_cons.1 hv with heq | hv
          · have htextual := (Prod.mk.inj heq).2
            obtain ⟨_, -, htakes⟩ := (textualAt_eq_some_iff (d := 0)).1 htextual.symm
            exact htakes
          · exact ih hlater hv

/-- With fields that take any text or null, an outline is accepted if no known name is repeated or
holds something else. -/
theorem Shape.accepts_iff_of_outline? {fields : List Field}
    (hslot : ∀ f ∈ fields, f.slot = .optionalText) {text : String}
    {entries : List (String × Option Json)} (houtline : outline? text = some entries) :
    Accepts fields entries ↔ ∀ name ∈ fields.map (·.name),
      (entries.map Prod.fst).count name ≤ 1 ∧ (name, none) ∉ entries := by
  constructor
  · intro h name hname
    obtain ⟨f, hf⟩ := knows_iff_mem.2 hname
    refine ⟨h.once name ⟨f, hf⟩, fun hmem ↦ ?_⟩
    obtain ⟨v, hv, -⟩ := h.taken _ hmem f hf
    cases hv
  · intro h
    refine ⟨fun name hname ↦ (h name (knows_iff_mem.1 hname)).1, fun e he f hf ↦ ?_⟩
    obtain ⟨name, held⟩ := e
    obtain ⟨cs, hcs⟩ := exists_skipGaps_of_outline? houtline
    rw [outline?_of_skipGaps hcs, Option.map_eq_some_iff] at houtline
    obtain ⟨⟨_, rest⟩, hfrom, rfl⟩ := houtline
    cases held with
    | none => exact absurd he (h name (knows_iff_mem.1 ⟨f, hf⟩)).2
    | some v =>
      refine ⟨v, rfl, ?_⟩
      rw [hslot f (List.mem_of_find?_eq_some hf)]
      exact takes_of_mem_outlineFrom (Option.filter_eq_some_iff.1 hfrom).1 he

theorem mapM_congr {α β : Type} {l : List α} {g g' : α → Option β} (h : ∀ a ∈ l, g a = g' a) :
    l.mapM g = l.mapM g' := by
  induction l with
  | nil => rfl
  | cons a l ih =>
    rw [List.mapM_cons, List.mapM_cons, h a List.mem_cons_self,
      ih fun b hb ↦ h b (List.mem_cons_of_mem a hb)]

section Reading

variable {shape : Shape} {text : String} {entries : List (String × Option Json)}
  (htextual : ∀ f ∈ shape.fields, f.slot.IsTextual) (houtline : outline? text = some entries)

include htextual houtline

/-- A record is read from an object with an acceptable outline, and holds what stands there or what
stands for a field that is left out. -/
theorem Shape.toOption_read_of_accepts (haccepts : Accepts shape.fields entries) :
    (shape.read text).toOption
      = shape.fields.mapM fun f ↦ (entries.lookup f.name).join.or f.inObject := by
  obtain ⟨cs, hcs⟩ := exists_skipGaps_of_outline? houtline
  have hgathered : (gather shape.fields .empty entries).isSome = true :=
    (gather_isSome_iff .empty).2 ⟨haccepts, fun _ _ _ ↦ rfl⟩
  obtain ⟨t, ht⟩ := Option.isSome_iff_exists.1 hgathered
  rw [shape.toOption_read htextual hcs, houtline, Option.bind_some, ht, Option.bind_some]
  refine mapM_congr fun f hf ↦ ?_
  rw [get?_of_gather ht (knows_of_mem hf), Table.get?_empty, Option.none_or]

theorem Shape.toOption_read_of_not_accepts (haccepts : ¬ Accepts shape.fields entries) :
    (shape.read text).toOption = none := by
  obtain ⟨cs, hcs⟩ := exists_skipGaps_of_outline? houtline
  have hgathered : gather shape.fields .empty entries = none := by
    rw [← Option.not_isSome_iff_eq_none, gather_isSome_iff]
    exact fun h ↦ haccepts h.1
  rw [shape.toOption_read htextual hcs, houtline, Option.bind_some, hgathered]
  rfl

end Reading

/-! ## Texts with an outline -/

/-- What is left of a field in the outline. -/
def sketch (e : String × Json) : String × Option Json := (e.1, textual? e.2)

section Outlined

variable {bound : Nat} {first : Bool} {cs rest : List Char}

/-- Where the fields of an object are read, the outline has them all, in the order of the text. -/
theorem exists_outlineFrom_of_fieldsFrom {d : Nat} {done t : Table Json}
    (h : fieldsFrom (value d) bound first done cs = .ok (t, rest)) :
    ∃ fields : List (String × Json), outlineFrom bound first cs = some (fields.map sketch, rest) ∧
      t = fields.foldl (fun t e ↦ t.insert e.1 e.2) done := by
  induction bound generalizing first done cs with
  | zero => cases h
  | succ bound ih =>
    rw [fieldsFrom] at h
    split at h
    · cases h
    · rename_i hkey
      cases h
      exact ⟨[], by rw [outlineFrom, hkey]; rfl, rfl⟩
    · rename_i key more hkey
      split at h
      · cases h
      · rename_i inside hcolon
        split at h
        · cases h
        · rename_i v behind hvalue
          obtain ⟨fields, houtline, rfl⟩ := ih h
          refine ⟨(key, v) :: fields, ?_, rfl⟩
          rw [outlineFrom]
          simp only [hkey, hcolon, skipValue_of_value hvalue, houtline, textualAt_of_value hvalue]
          rfl

theorem exists_outline?_of_read? {text : String} {fields : List (String × Json)}
    (h : read? text = some (obj fields)) :
    ∃ given : List (String × Json), outline? text = some (given.map sketch) ∧
      fields = (Table.ofList given).entries := by
  obtain ⟨rest, hvalue, hfinish⟩ := bind_finish_eq_ok_iff.1 (toOption_eq_some_iff.1 h)
  have hspelled := spelled_of_value hvalue
  generalize hcs : skipGaps text.toList = ds at hspelled
  generalize hv : obj fields = v at hspelled
  cases hspelled with
  | obj hfields =>
    obtain ⟨given, houtline, rfl⟩ := exists_outlineFrom_of_fieldsFrom hfields
    refine ⟨given, ?_, Json.obj.inj hv⟩
    rw [outline?_of_skipGaps hcs, houtline, Option.filter_some, if_pos hfinish]
    rfl
  | _ => cases hv

end Outlined

/-! ## Outlines of printed objects -/

theorem textualAt_of_head {cs ds : List Char} {c : Char} (hcs : skipGaps cs = c :: ds)
    (hnull : c ≠ 'n') (hquote : c ≠ '"') : textualAt cs = none := by
  refine Option.eq_none_iff_forall_not_mem.2 fun v hv ↦ ?_
  obtain ⟨rest, hvalue, htakes⟩ := (textualAt_eq_some_iff (d := 0)).1 hv
  have hspelled := spelled_of_value hvalue
  rw [hcs] at hspelled
  cases hspelled with
  | null => exact hnull rfl
  | str => exact hquote rfl
  | _ => cases htakes

theorem textualAt_compactText (v : Json) (rest : List Char) :
    textualAt (compactText v ++ rest) = textual? v := by
  have hother : v.kind ≠ "null" → v.kind ≠ "string" → textualAt (compactText v ++ rest) = none := by
    intro hnull hstring
    obtain ⟨c, cs, htext, hkind⟩ := exists_compactText_eq_cons v
    rw [htext, List.cons_append]
    refine textualAt_of_head (skipGaps_cons (isGap_of_kindAt hkind) _) ?_ ?_
    · rintro rfl
      exact hnull (Option.some.inj hkind).symm
    · rintro rfl
      exact hstring (Option.some.inj hkind).symm
  cases v with
  | null =>
    rw [compactText]
    exact textualAt_of_value (d := 0) rfl
  | str s =>
    have hvalue : value 0 (quoteText s ++ rest) = .ok (str s, rest) := by
      rw [quoteText_append, value_of_skipGaps_eq_quote (skipGaps_cons rfl _),
        string_flatMap_escapeChar]
      rfl
    rw [compactText]
    exact textualAt_of_value hvalue
  | _ => exact hother (by simp [kind]) (by simp [kind])

/-- A field of a printed object is passed over up to what stands behind it. -/
theorem skipValue_compactText (v : Json) (fields : List (String × Json)) (rest : List Char) :
    skipValue (compactText v ++ (compactFields fields ++ '\x7d' :: rest))
      = .ok (compactFields fields ++ '\x7d' :: rest) :=
  skipValue_eq_ok_iff.2 (skims_compactText v (endsNumber_compactFields fields rest))

theorem outlineFrom_compactFields {bound : Nat} {fields : List (String × Json)}
    (hbound : fields.length < bound) (rest : List Char) :
    outlineFrom bound false (compactFields fields ++ '\x7d' :: rest)
      = some (fields.map sketch, rest) := by
  induction fields generalizing bound with
  | nil =>
    obtain ⟨bound, rfl⟩ := Nat.exists_eq_add_one.2 hbound
    rfl
  | cons e fields ih =>
    obtain ⟨bound, rfl⟩ := Nat.exists_eq_add_one.2 (Nat.zero_lt_of_lt hbound)
    have hkey := nextKey_comma (List.forall_mem_nil _) e.1
      (':' :: (compactText e.2 ++ (compactFields fields ++ '\x7d' :: rest)))
    rw [List.nil_append] at hkey
    rw [compactFields_cons_append, outlineFrom]
    simp only [hkey, colon_cons, skipValue_compactText, textualAt_compactText,
      ih (Nat.lt_of_succ_lt_succ hbound)]
    rfl

/-- There are fewer fields than characters in their texts. -/
theorem length_le_length_compactFields (fields : List (String × Json)) :
    fields.length ≤ (compactFields fields).length := by
  induction fields with
  | nil => exact Nat.zero_le _
  | cons e fields ih =>
    have hlength := congrArg List.length (compactFields_cons_append e fields [])
    simp only [List.append_nil, List.length_cons, List.length_append] at hlength
    rw [hlength, List.length_cons]
    omega

/-- The printed form of an object has the outline of the object. -/
theorem outline?_compact (fields : List (String × Json)) :
    outline? (obj fields).compact = some (fields.map sketch) := by
  have hinside : ∃ cs, compactText (obj fields) = '\x7b' :: cs ∧
      outlineFrom (cs.length + 1) true cs = some (fields.map sketch, []) := by
    cases fields with
    | nil =>
      rw [compactText]
      exact ⟨_, rfl, rfl⟩
    | cons e fields =>
      have htext := compactText_obj_cons_append e fields []
      rw [List.append_nil] at htext
      have hkey := nextKey_first (List.forall_mem_nil _) e.1
        (':' :: (compactText e.2 ++ (compactFields fields ++ ['\x7d'])))
      rw [List.nil_append] at hkey
      refine ⟨_, htext, ?_⟩
      rw [outlineFrom]
      simp only [hkey, colon_cons, skipValue_compactText, textualAt_compactText]
      rw [outlineFrom_compactFields]
      · rfl
      · have hlength := length_le_length_compactFields fields
        simp only [List.length_append, List.length_cons]
        omega
  obtain ⟨cs, htext, hinside⟩ := hinside
  have hcs : skipGaps (obj fields).compact.toList = '\x7b' :: cs := by
    rw [compact, String.toList_ofList, htext, skipGaps_cons rfl]
  rw [outline?_of_skipGaps hcs, hinside]
  rfl

end ServiceCall.Json

import ServiceCall.Proofs.Layouts

/-!
# Records read back

A record is read straight from its text and never becomes a JSON value on the way. What is printed
as an object with the fields of a record is read as these fields (`Json.Layout.shape_read`),
provided that each field takes the value it is given (`Json.Slot.takes`).

For envelopes this closes the circle: the text that the program prints is the text of the envelope
that it prints, in either layout (`Envelope.read_text`).

## The level that the record takes

A record is one level of nesting itself, so a field that takes any value takes it one level less
deep than a whole text would.
-/

namespace ServiceCall

namespace Json

/-- The field is read back from the text of such a value. -/
def Slot.takes : Slot → Json → Bool
  | .text, .str _ => true
  | .optionalText, .null | .optionalText, .str _ => true
  | .anything, v => v.fits (maxDepth - 1)
  | .optionalCode, .null => true
  | .optionalCode, .num (.int i) => 0 ≤ i && i < 65536
  | _, _ => false

namespace Shape

/-! ## Fields -/

theorem readSlot_append {gaps : List Char} (hgaps : ∀ c ∈ gaps, isGap c = true) (slot : Slot)
    (cs : List Char) : readSlot slot (gaps ++ cs) = readSlot slot cs := by
  cases slot with
  | text => rw [readSlot, readText, skipGaps_append hgaps, readText]
  | optionalText => rw [readSlot, orNull, skipGaps_append hgaps, orNull]
  | anything => exact value_append hgaps _ cs
  | optionalCode => rw [readSlot, orNull, skipGaps_append hgaps, orNull]

theorem reads_orNull_null (r : Reader Json) : Reads (orNull r) ['n', 'u', 'l', 'l'] .null := by
  intro rest _
  rfl

theorem reads_readText (s : String) : Reads readText (quoteText s) (.str s) := by
  intro rest _
  rw [quoteText_append, readText, skipGaps_cons rfl]
  change (string _).map _ = _
  rw [string_flatMap_escapeChar]
  rfl

theorem reads_orNull_readText (s : String) : Reads (orNull readText) (quoteText s) (.str s) := by
  intro rest hrest
  have hread := reads_readText s rest hrest
  rw [quoteText_append] at hread ⊢
  rw [orNull, skipGaps_cons rfl]
  exact hread

theorem reads_orNull_readCode {i : Int} (hpos : 0 ≤ i) (hlt : i < 65536) :
    Reads (orNull readCode) (Number.intText i) (.num (.int i)) := by
  intro rest hrest
  have hmax : maxWord64 = 2 ^ 64 - 1 := rfl
  have hnumber := number_digits false (n := i.natAbs) (by omega) hrest
  obtain ⟨c, ds, hdigits, -⟩ := exists_digits_eq_cons i.natAbs
  have hc : c.isDigit = true := isDigit_of_mem_digits (hdigits ▸ List.mem_cons_self)
  have hinteger : integer false i.natAbs = .int i := congrArg Number.int (by omega)
  rw [hdigits, List.cons_append, hinteger] at hnumber
  rw [Number.intText, if_neg (by omega), hdigits, List.cons_append, orNull,
    skipGaps_cons (isGap_of_isDigit hc)]
  split
  · rename_i hnull
    cases hnull
    cases hc
  · rw [readCode]
    simp only [if_neg (ne_of_isDigit (e := '-') hc rfl), if_pos hc, hnumber, bind, Except.bind,
      if_pos (And.intro hpos hlt)]
    rfl

end Shape

theorem Layout.reads_slot (l : Layout) {slot : Slot} {v : Json} (h : slot.takes v = true)
    (depth : Nat) : Reads (Shape.readSlot slot) (l.text depth v) v := by
  unfold Slot.takes at h
  split at h
  · rw [l.text_str]
    exact Shape.reads_readText _
  · rw [l.text_null]
    exact Shape.reads_orNull_null _
  · rw [l.text_str]
    exact Shape.reads_orNull_readText _
  · exact l.reads_text h depth
  · rw [l.text_null]
    exact Shape.reads_orNull_null _
  · rw [Bool.and_eq_true, decide_eq_true_eq, decide_eq_true_eq] at h
    rw [l.text_num]
    exact Shape.reads_orNull_readCode h.1 h.2
  · cases h

/-- The value of a field is read behind its colon. -/
theorem Layout.readSlot_text (l : Layout) {slot : Slot} {v : Json} (h : slot.takes v = true)
    (depth : Nat) {more : List Char} (hmore : EndsNumber more) :
    Shape.readSlot slot (l.pad ++ (l.text depth v ++ more)) = .ok (v, more) := by
  rw [Shape.readSlot_append l.isGap_of_mem_pad, l.reads_slot h depth more hmore]

/-! ## Objects -/

/-- The fields are known, and each is given a value that it takes. -/
def Shape.Takes (known : List Field) (fields : List (String × Json)) : Prop :=
  ∀ e ∈ fields, ∃ field, known.find? (·.name = e.1) = some field ∧ field.slot.takes e.2 = true

namespace Shape

/-- Keys that differ from the one that is inserted are still free if they were. -/
theorem get?_insert_eq_none {e : String × Json} {fields : List (String × Json)} {done : Table Json}
    (hnew : e.1 ∉ fields.map Prod.fst) (hdone : ∀ f ∈ fields, done.get? f.1 = none) :
    ∀ f ∈ fields, (done.insert e.1 e.2).get? f.1 = none := by
  intro f hf
  have hne : f.1 ≠ e.1 := fun heq ↦ hnew (heq ▸ List.mem_map_of_mem hf)
  rw [Table.get?_insert_of_ne _ _ hne]
  exact hdone f hf

variable {known : List Field} {l : Layout} {before last : List Char}
  (hbefore : ∀ c ∈ before, isGap c = true) (hlast : ∀ c ∈ last, isGap c = true)

include hbefore hlast

theorem objectFrom_remainder {fields : List (String × Json)} (htakes : Takes known fields)
    (hnodup : (fields.map Prod.fst).Nodup) {bound : Nat} (hbound : fields.length < bound)
    {done : Table Json} (hdone : ∀ e ∈ fields, done.get? e.1 = none) (depth : Nat)
    (rest : List Char) :
    objectFrom known bound false done
        (remainder before last '\x7d' (fields.map (fieldText l.pad (l.text depth))) ++ rest)
      = .ok (fields.foldl (fun t e ↦ t.insert e.1 e.2) done, rest) := by
  induction fields generalizing bound done with
  | nil =>
    obtain ⟨bound, rfl⟩ := Nat.exists_eq_add_one.2 hbound
    rw [List.map_nil, remainder_nil_append, objectFrom, nextKey_close hlast, List.foldl_nil]
  | cons e fields ih =>
    obtain ⟨bound, rfl⟩ := Nat.exists_eq_add_one.2 (Nat.zero_lt_of_lt hbound)
    obtain ⟨field, hfield, htake⟩ := htakes e List.mem_cons_self
    have hread := l.readSlot_text htake depth (endsNumber_remainder before hlast
      continuesNumber_brace (fields.map (fieldText l.pad (l.text depth))) rest)
    have hnew : done.contains e.1 = false := by
      rw [Table.contains, hdone e List.mem_cons_self]
      rfl
    rw [List.map_cons, List.nodup_cons] at hnodup
    have hdone' := get?_insert_eq_none hnodup.1 fun f hf ↦ hdone f (List.mem_cons_of_mem e hf)
    rw [List.map_cons, remainder_cons_append, fieldText_append, objectFrom, nextKey_comma hbefore]
    simp only [hfield, hnew, colon_cons, hread]
    rw [if_neg Bool.false_ne_true, ih (fun f hf ↦ htakes f (List.mem_cons_of_mem e hf)) hnodup.2
      (Nat.lt_of_succ_lt_succ hbound) hdone', List.foldl_cons]

omit hbefore hlast in
theorem readRecord_brace (shape : Shape) (cs : List Char) :
    shape.readRecord ('\x7b' :: cs)
      = (objectFrom shape.fields (cs.length + 1) true .empty cs).bind fun r ↦
          (collect r.1 r.2 shape.fields).map (·, r.2) := by
  rw [readRecord, skipGaps_cons rfl]
  change Except.bind _ _ = _
  congr 1

theorem readRecord_container {shape : Shape} {fields : List (String × Json)}
    (htakes : Takes shape.fields fields) (hnodup : (fields.map Prod.fst).Nodup) (depth : Nat)
    (rest : List Char) :
    shape.readRecord (container '\x7b' '\x7d' before last
        (fields.map (fieldText l.pad (l.text depth))) ++ rest)
      = (collect (Table.ofList fields) rest shape.fields).map (·, rest) := by
  cases fields with
  | nil =>
    rw [List.map_nil, container, List.cons_append, readRecord_brace]
    rfl
  | cons e fields =>
    obtain ⟨field, hfield, htake⟩ := htakes e List.mem_cons_self
    have hread := l.readSlot_text htake depth (endsNumber_remainder before hlast
      continuesNumber_brace (fields.map (fieldText l.pad (l.text depth))) rest)
    have hlength := length_lt_length_remainder before last '\x7d'
      (fields.map (fieldText l.pad (l.text depth)))
    rw [List.length_map] at hlength
    have hnew : (Table.empty : Table Json).contains e.1 = false := rfl
    rw [List.map_cons, List.nodup_cons] at hnodup
    have hdone := get?_insert_eq_none hnodup.1 fun f _ ↦ Table.get?_empty f.1
    rw [List.map_cons, container_append, fieldText_append, readRecord_brace, objectFrom,
      nextKey_first hbefore]
    simp only [hfield, hnew, colon_cons, hread]
    rw [if_neg Bool.false_ne_true, objectFrom_remainder hbefore hlast
      (fun f hf ↦ htakes f (List.mem_cons_of_mem e hf)) hnodup.2 _ hdone]
    · rfl
    · simp only [List.length_append, List.length_cons]
      omega

end Shape

/-- The fields of a printed object are looked up in the table of its entries, and nothing is left
behind it. -/
theorem Layout.shape_read (l : Layout) {shape : Shape} {fields : List (String × Json)}
    (htakes : Shape.Takes shape.fields fields) (hnodup : (fields.map Prod.fst).Nodup) :
    shape.read (String.ofList (l.text 0 (.obj fields)))
      = Shape.collect (Table.ofList fields) [] shape.fields := by
  have hrecord := Shape.readRecord_container (l := l) (l.isGap_of_mem_line 1)
    (l.isGap_of_mem_line 0) htakes hnodup 1 []
  rw [List.append_nil, ← l.text_obj] at hrecord
  rw [Shape.read, String.toList_ofList, hrecord]
  cases Shape.collect (Table.ofList fields) [] shape.fields with
  | error f => rfl
  | ok vs => rfl

end Json

/-! ## Envelopes -/

namespace Envelope

open Json

theorem takes_codeJson (status : Option UInt16) :
    Slot.optionalCode.takes ((status.map codeJson).getD .null) = true := by
  cases status with
  | none => rfl
  | some status =>
    have hlt : status.toNat < 65536 := status.toNat_lt
    change (decide (0 ≤ (status.toNat : Int)) && decide ((status.toNat : Int) < 65536)) = true
    rw [decide_eq_true (by omega), decide_eq_true (by omega)]
    rfl

theorem code?_codeJson (status : Option UInt16) :
    code? ((status.map codeJson).getD .null) = status := by
  cases status with
  | none => rfl
  | some status => exact congrArg some UInt16.ofNat_toNat

theorem string?_str (contentType : Option String) :
    ((contentType.map Json.str).getD .null).string? = contentType := by
  cases contentType with
  | none => rfl
  | some contentType => rfl

/-- The fields of an envelope, before those without a value are left out. -/
def fields (e : Envelope) : List (String × Option Json) :=
  [("output", some e.output), ("status", some ((e.status.map codeJson).getD .null)),
    ("content_type", e.contentType.map .str)]

theorem nodup_fields (e : Envelope) : (e.fields.map Prod.fst).Nodup := by
  change ["output", "status", "content_type"].Nodup
  simp

theorem takes_fields {e : Envelope} (h : e.output.fits (maxDepth - 1) = true) :
    Shape.Takes shape.fields (entries e.fields) := by
  have hstatus := takes_codeJson e.status
  rw [fields]
  cases e.contentType with
  | none =>
    refine List.forall_mem_cons.2 ⟨⟨_, rfl, h⟩, List.forall_mem_cons.2 ⟨⟨_, rfl, hstatus⟩, ?_⟩⟩
    exact fun _ hmem ↦ absurd hmem List.not_mem_nil
  | some contentType =>
    refine List.forall_mem_cons.2 ⟨⟨_, rfl, h⟩, List.forall_mem_cons.2 ⟨⟨_, rfl, hstatus⟩, ?_⟩⟩
    exact List.forall_mem_singleton.2 ⟨_, rfl, rfl⟩

/-- A type that was left out is found to be null. -/
theorem collect_fields (e : Envelope) (rest : List Char) :
    Shape.collect (Table.ofList (entries e.fields)) rest shape.fields
      = .ok [e.output, (e.status.map codeJson).getD .null,
          (e.contentType.map Json.str).getD .null] := by
  have hentries := e.nodup_fields.sublist (keys_entries_sublist e.fields)
  have hget (k : String) : (Table.ofList (entries e.fields)).get? k = (e.fields.lookup k).join :=
    (Table.get?_ofList hentries k).trans (lookup_entries e.nodup_fields k)
  generalize Table.ofList (entries e.fields) = done at hget ⊢
  have houtput : done.get? "output" = some e.output := hget "output"
  have hstatus : done.get? "status" = some ((e.status.map codeJson).getD .null) := hget "status"
  have hcontent : done.get? "content_type" = e.contentType.map .str := hget "content_type"
  simp only [shape, Shape.collect, houtput, hstatus, hcontent]
  cases e.contentType with
  | none => rfl
  | some contentType => rfl

/-- An envelope is read back from any layout of its text. -/
theorem read_text (l : Layout) {e : Envelope} (h : e.output.fits (maxDepth - 1) = true) :
    read (String.ofList (l.text 0 e.toJson)) = .ok e := by
  have hentries := e.nodup_fields.sublist (keys_entries_sublist e.fields)
  have htext := l.shape_read (takes_fields h) hentries
  rw [collect_fields] at htext
  rw [read, show e.toJson = .obj (entries e.fields) from rfl, htext]
  change Except.ok (Envelope.mk e.output (code? _) (Json.string? _)) = _
  rw [code?_codeJson, string?_str]

/-- **Printed envelopes read back.** Whatever its status, and with a type of the content or without,
an envelope is read back from its compact text and from its indented text. Its output may be any
value without doubles, with integers of sixty-four bits and with containers nested up to 126 levels
deep: one level less than any other text, since the envelope is the first. -/
theorem printed_envelope_reads_back (e : Envelope) (h : e.output.fits 126 = true) :
    read e.toJson.compact = .ok e ∧ read e.toJson.indented = .ok e :=
  ⟨read_text .compact h, read_text .indented h⟩

/-- An output with text that needs escapes, the extreme integers, empty containers and nested ones;
the status is there and the type is not. -/
def nestedEnvelope : Envelope where
  output := .obj [("", .arr []), ("a\"\\\x1f\n", .arr [.int (-(2 ^ 63)), .int (2 ^ 64 - 1), .null]),
    ("é", .obj [("x", .obj []), ("y", .bool false)])]
  status := some 200
  contentType := none

theorem nested_envelope_reads_back :
    nestedEnvelope.output.fits 126 = true ∧
      read nestedEnvelope.toJson.compact = .ok nestedEnvelope ∧
      read nestedEnvelope.toJson.indented = .ok nestedEnvelope := by
  have hfits : nestedEnvelope.output.fits 126 = true := by decide
  exact ⟨hfits, printed_envelope_reads_back nestedEnvelope hfits⟩

end Envelope

end ServiceCall

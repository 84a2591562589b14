import ServiceCall.Proofs.Rows
import ServiceCall.Proofs.Unambiguous

/-!
# Rows that pass for one

A table takes rows with the same identifier for the same row and keeps one of them. Identifiers are
texts and the values they are made of are not, so it matters which values have one text. JSON texts
are unambiguous (`Json.compact_injective`), and the only other way to a text is to be a string. So
two values share a text if they are one value, or if one of them is a string that spells out the
other: the number 1 and the string of the digit 1, say. This is `Json.SharesText`, and rows share an
identifier only if their values do (`rows_of_one_identifier_share_a_text`).

## Null and blank texts

Null and blank strings are values like any other here, and what becomes of them is described with
the rows one by one. Everywhere else such a value counts as absent. That rows *do* share an
identifier is therefore shown for values that are present.
-/

namespace ServiceCall

/-! ## Values with one text -/

/-- The values are the same, or one of them is a string, namely the JSON text of the other. -/
inductive Json.SharesText : Json → Json → Prop where
  | refl (v : Json) : SharesText v v
  | text {v : Json} (h : v.string? = none) : SharesText v (.str v.compact)
  | textOf {v : Json} (h : v.string? = none) : SharesText (.str v.compact) v

namespace Json

variable {v w : Json}

theorem exists_identifies (v : Json) : ∃ text, v.Identifies text := by
  cases v with
  | str s => exact ⟨s, .str s⟩
  | null | bool b | num n | arr items | obj fields => exact ⟨_, .other rfl⟩

theorem Identifies.unique {s t : String} (hs : v.Identifies s) (ht : v.Identifies t) : s = t := by
  cases hs with
  | str s =>
    cases ht with
    | str t => rfl
    | other h => cases h
  | other h =>
    cases ht with
    | str t => cases h
    | other _ => rfl

theorem sharesText_iff : v.SharesText w ↔ ∃ text, v.Identifies text ∧ w.Identifies text := by
  constructor
  · intro h
    cases h with
    | refl v =>
      obtain ⟨text, htext⟩ := exists_identifies v
      exact ⟨text, htext, htext⟩
    | text h => exact ⟨v.compact, .other h, .str v.compact⟩
    | textOf h => exact ⟨w.compact, .str w.compact, .other h⟩
  · rintro ⟨text, hv, hw⟩
    cases hv with
    | str s =>
      cases hw with
      | str t => exact .refl (.str text)
      | other h => exact .textOf h
    | other h =>
      generalize htext : v.compact = text at hw
      cases hw with
      | str t =>
        rw [← htext]
        exact .text h
      | other h' =>
        rw [compact_injective htext]
        exact .refl w

end Json

/-! ## Rows with one identifier -/

section Entries

variable {args : Args} {row entry row' entry' : Json}

theorem Args.HoldsRow.insertId_eq_some_iff (h : args.HoldsRow row entry) {id : Json} :
    entry.field? "insertId" = some id ↔
      ∃ v text, args.IdentifiedBy row v ∧ v.Identifies text ∧ id = .str text := by
  constructor
  · intro hid
    by_cases hvalue : ∃ v, args.IdentifiedBy row v
    · obtain ⟨v, hv⟩ := hvalue
      obtain ⟨text, htext, hfield⟩ := h.insertId v hv
      rw [hfield] at hid
      exact ⟨v, text, hv, htext, (Option.some.inj hid).symm⟩
    · rw [h.insertId_none (not_exists.1 hvalue)] at hid
      cases hid
  · rintro ⟨v, text, hv, htext, rfl⟩
    obtain ⟨text', htext', hfield⟩ := h.insertId v hv
    rw [hfield, htext.unique htext']

theorem Args.HoldsRow.exists_sharesText (h : args.HoldsRow row entry)
    (h' : args.HoldsRow row' entry') {id : Json} (hid : entry.field? "insertId" = some id)
    (hid' : entry'.field? "insertId" = some id) :
    ∃ v w, args.IdentifiedBy row v ∧ args.IdentifiedBy row' w ∧ v.SharesText w := by
  obtain ⟨v, text, hv, htext, rfl⟩ := h.insertId_eq_some_iff.1 hid
  obtain ⟨w, text', hw, htext', htexts⟩ := h'.insertId_eq_some_iff.1 hid'
  cases htexts
  exact ⟨v, w, hv, hw, Json.sharesText_iff.2 ⟨text, htext, htext'⟩⟩

theorem Args.HoldsRow.exists_insertId (h : args.HoldsRow row entry)
    (h' : args.HoldsRow row' entry') {v w : Json} (hv : args.IdentifiedBy row v)
    (hw : args.IdentifiedBy row' w) (hshares : v.SharesText w) :
    ∃ text, entry.field? "insertId" = some (.str text) ∧
      entry'.field? "insertId" = some (.str text) := by
  obtain ⟨text, htext, htext'⟩ := Json.sharesText_iff.1 hshares
  exact ⟨text, h.insertId_eq_some_iff.2 ⟨v, text, hv, htext, rfl⟩,
    h'.insertId_eq_some_iff.2 ⟨w, text, hw, htext', rfl⟩⟩

end Entries

theorem Catalog.BigQuery.exists_rows_of_prepare {base : Option String} {args : Args} {call : Call}
    (h : connector.prepare base args = .ok call) (hoperation : call.operation = "insert_rows") :
    ∃ rows payload, args.get? "rows" = some (.arr rows) ∧ call.payload = some payload ∧
      payload.get? "rows"
        = some (.arr (rows.map (Part.rowEntry (args.string? "insert_id_field")))) := by
  obtain ⟨op, hop, hcheck, hpayload⟩ := Connector.exists_operation_of_prepare h
  rw [hoperation] at hop hpayload
  obtain ⟨rows, hrows, -⟩ := rows_of_check hop hcheck
  have hbody : (connector.operations.get? "insert_rows").bind (·.body) = some insertBody := rfl
  have hpresent : args.present? "rows" = some (.arr rows) :=
    Args.present?_eq_some_iff.2 ⟨hrows, rfl⟩
  refine ⟨rows, _, hrows, hpayload.trans (Connector.payload?_of_body hbody args), ?_⟩
  rw [get?_rows_insertBody, Part.rowEntries, hpresent]
  rfl

/-- **Rows share an identifier only within a text.** Take any two rows of an accepted call, each
with the object that holds it. If the two objects have the same identifier, then both rows have a
value under the key that the arguments name, and the values share a text. Conversely values that are
present and share a text give both rows the same identifier. -/
theorem rows_of_one_identifier_share_a_text {base : Option String} {args : Args} {call : Call}
    (h : Catalog.BigQuery.connector.prepare base args = .ok call)
    (hoperation : call.operation = "insert_rows") :
    ∃ rows entries payload, args.get? "rows" = some (.arr rows) ∧ call.payload = some payload ∧
      payload.get? "rows" = some (.arr entries) ∧
      List.Forall₂ (fun row entry ↦ entry.field? "json" = some row) rows entries ∧
      ∀ {row entry row' entry' : Json}, (row, entry) ∈ rows.zip entries →
        (row', entry') ∈ rows.zip entries →
        (∀ id, entry.field? "insertId" = some id → entry'.field? "insertId" = some id →
          ∃ v w, args.IdentifiedBy row v ∧ args.IdentifiedBy row' w ∧ v.SharesText w) ∧
        ∀ v w, args.IdentifiedBy row v → args.IdentifiedBy row' w → v.isPresent = true →
          w.isPresent = true → v.SharesText w →
          ∃ text, entry.field? "insertId" = some (.str text) ∧
            entry'.field? "insertId" = some (.str text) := by
  obtain ⟨rows, payload, hrows, hpayload, hentries⟩ :=
    Catalog.BigQuery.exists_rows_of_prepare h hoperation
  have hholds := Part.forall₂_holdsRow args rows
  refine ⟨rows, _, payload, hrows, hpayload, hentries, hholds.imp fun _ _ h ↦ h.json, ?_⟩
  intro row entry row' entry' hmem hmem'
  have hrow : args.HoldsRow row entry := List.forall₂_zip hholds hmem
  have hrow' : args.HoldsRow row' entry' := List.forall₂_zip hholds hmem'
  exact ⟨fun id ↦ hrow.exists_sharesText hrow',
    fun v w hv hw _ _ ↦ hrow.exists_insertId hrow' hv hw⟩

/-- Rows with a number, the string of its digit, null and a blank text under the key of the
identifier. -/
def lookalikeRows : Args :=
  ⟨.ofList [("operation", .str "insert_rows"), ("project_id", .str "analytics"),
    ("dataset_id", .str "events"), ("table_id", .str "clicks"),
    ("service_account_json", .str "{}"), ("insert_id_field", .str "id"),
    ("rows", .arr [.obj [("id", .int 1)], .obj [("id", .str "1")], .obj [("id", .null)],
      .obj [("id", .str " ")]])]⟩

/-- The objects that hold these rows. -/
def lookalikeEntries : List Json :=
  [.object [("json", .obj [("id", .int 1)]), ("insertId", .str "1")],
    .object [("json", .obj [("id", .str "1")]), ("insertId", .str "1")],
    .object [("json", .obj [("id", .null)]), ("insertId", .str "null")],
    .object [("json", .obj [("id", .str " ")]), ("insertId", .str " ")]]

theorem prepare_lookalikeRows :
    (Catalog.BigQuery.connector.prepare none lookalikeRows).toOption.map
        (fun call ↦ (call.operation, call.payload.bind (·.get? "rows")))
      = some ("insert_rows", some (.arr lookalikeEntries)) := by
  decide +kernel

theorem number_shares_identifier_with_its_digit :
    ∃ (call : Call) (row row' entry entry' : Json) (others : List Json),
      Catalog.BigQuery.connector.prepare none lookalikeRows = .ok call ∧
      call.operation = "insert_rows" ∧
      row = .obj [("id", .int 1)] ∧ row' = .obj [("id", .str "1")] ∧
      call.payload.bind (·.get? "rows") = some (.arr (entry :: entry' :: others)) ∧
      (∃ v w, lookalikeRows.IdentifiedBy row v ∧ lookalikeRows.IdentifiedBy row' w ∧
        v.SharesText w) ∧
      ∃ text, entry.field? "insertId" = some (.str text) ∧
        entry'.field? "insertId" = some (.str text) := by
  obtain ⟨call, hprepare, hcall⟩ := exists_eq_ok_of_toOption prepare_lookalikeRows
  rw [Prod.mk.injEq] at hcall
  obtain ⟨rows, entries, payload, hrows, hpayload, hentries, -, hpairs⟩ :=
    rows_of_one_identifier_share_a_text hprepare hcall.1
  have hsent := hcall.2
  rw [hpayload, Option.bind_some, hentries, Option.some.injEq, Json.arr.injEq] at hsent
  cases hsent
  cases hrows
  have htext : (Json.int 1).SharesText (.str "1") := by
    have hcompact : (Json.int 1).compact = "1" := by decide +kernel
    rw [← hcompact]
    exact .text rfl
  obtain ⟨hshares, hone⟩ := hpairs (.head _) (.tail _ (.head _))
  exact ⟨call, _, _, _, _, _, hprepare, hcall.1, rfl, rfl, hcall.2, hshares (.str "1") rfl rfl,
    hone (.int 1) (.str "1") ⟨"id", _, rfl, rfl, rfl, rfl⟩ ⟨"id", _, rfl, rfl, rfl, rfl⟩ rfl rfl
      htext⟩

/-- Different values make one identifier, and null and a blank text make identifiers as well. -/
theorem different_values_make_one_identifier :
    ∃ call number digit unset blank,
      Catalog.BigQuery.connector.prepare none lookalikeRows = .ok call ∧
      lookalikeRows.get? "rows" = some (.arr [.obj [("id", .int 1)], .obj [("id", .str "1")],
        .obj [("id", .null)], .obj [("id", .str " ")]]) ∧
      call.payload.bind (·.get? "rows") = some (.arr [number, digit, unset, blank]) ∧
      lookalikeRows.IdentifiedBy (.obj [("id", .int 1)]) (.int 1) ∧
      lookalikeRows.IdentifiedBy (.obj [("id", .str "1")]) (.str "1") ∧
      Json.int 1 ≠ .str "1" ∧
      number.field? "insertId" = some (.str "1") ∧ digit.field? "insertId" = some (.str "1") ∧
      unset.field? "insertId" = some (.str "null") ∧ blank.field? "insertId" = some (.str " ") := by
  obtain ⟨call, hprepare, hcall⟩ := exists_eq_ok_of_toOption prepare_lookalikeRows
  rw [Prod.mk.injEq] at hcall
  exact ⟨call, _, _, _, _, hprepare, rfl, hcall.2, ⟨"id", _, rfl, rfl, rfl, rfl⟩,
    ⟨"id", _, rfl, rfl, rfl, rfl⟩, nofun, rfl, rfl, rfl, rfl⟩

end ServiceCall

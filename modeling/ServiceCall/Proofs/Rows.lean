import Mathlib.Data.List.Forall2
import ServiceCall.Proofs.Bodies

/-!
# Rows on their way into a table

Rows are sent in a list of objects, each of which holds one row and perhaps the identifier of that
row. The row itself is passed on as the value that it is, of whatever kind, and only the identifier
is taken out of it and made into a text. What such an object has to hold is `Args.HoldsRow`, and in
an accepted call the objects hold the rows one by one (`rows_are_sent_as_given`).

## Rows without an identifier

Whether a row has an identifier depends on two values, the name of the key and the row. A row that
is no object has none, whatever the key. An object has one if the key is there, and then even null
is an identifier, with the text of null.
-/

namespace ServiceCall

/-! ## Identifiers -/

/-- The text by which a value identifies a row: a string as it is, and of every other value its JSON
text. -/
inductive Json.Identifies : Json → String → Prop where
  | str (s : String) : Identifies (.str s) s
  | other {v : Json} (h : v.string? = none) : Identifies v v.compact

/-- The row is an object, and the value in it stands under the key that the arguments name. -/
def Args.IdentifiedBy (args : Args) (row id : Json) : Prop :=
  ∃ name cells, args.get? "insert_id_field" = some (.str name) ∧ Text.isBlank name = false ∧
    row = .obj cells ∧ cells.lookup name = some id

/-- The object holds the row, as it is, and the text that identifies the row, if anything does, and
nothing else. -/
structure Args.HoldsRow (args : Args) (row entry : Json) : Prop where
  isObject : ∃ fields : Table Json, entry = .ofTable fields
  json : entry.field? "json" = some row
  insertId : ∀ id, args.IdentifiedBy row id →
    ∃ text, id.Identifies text ∧ entry.field? "insertId" = some (.str text)
  insertId_none : (∀ id, ¬ args.IdentifiedBy row id) → entry.field? "insertId" = none
  others : ∀ key, key ≠ "json" → key ≠ "insertId" → entry.field? key = none

namespace Part

variable {args : Args} {row : Json}

theorem identifiedBy_iff {id : Json} :
    args.IdentifiedBy row id ↔ (args.string? "insert_id_field").bind row.field? = some id := by
  simp only [Args.IdentifiedBy, Option.bind_eq_some_iff, Args.string?_eq_some_iff,
    Json.field?_eq_some_iff, and_assoc, exists_and_left]

theorem exists_rowId? {idKey : Option String} {id : Json} (h : idKey.bind row.field? = some id) :
    ∃ text, id.Identifies text ∧ rowId? idKey row = some text := by
  rw [rowId?, h, Option.map_some]
  cases id with
  | str s => exact ⟨s, .str s, rfl⟩
  | null | bool b | num n | arr items | obj fields => exact ⟨_, .other rfl, rfl⟩

theorem field?_rowEntry (idKey : Option String) (row : Json) (key : String) :
    (rowEntry idKey row).field? key
      = if key = "json" then some row
        else if key = "insertId" then (rowId? idKey row).map .str else none := by
  -- The two keys differ, so neither entry takes the place of the other.
  have hkeys : ((("json", row) :: ((rowId? idKey row).map fun id ↦
      ("insertId", Json.str id)).toList).map Prod.fst).Nodup := by
    cases rowId? idKey row <;> simp
  rw [rowEntry, Json.field?_object hkeys, Table.lookup_cons_ite]
  cases rowId? idKey row with
  | none => simp
  | some text => simp [Table.lookup_cons_ite]

theorem holdsRow_rowEntry (args : Args) (row : Json) :
    args.HoldsRow row (rowEntry (args.string? "insert_id_field") row) where
  isObject := ⟨_, rfl⟩
  json := by rw [field?_rowEntry, if_pos rfl]
  insertId id hid := by
    obtain ⟨text, htext, hrow⟩ := exists_rowId? (identifiedBy_iff.1 hid)
    exact ⟨text, htext, by rw [field?_rowEntry, hrow]; rfl⟩
  insertId_none hnone := by
    have hrow : rowId? (args.string? "insert_id_field") row = none := by
      rw [rowId?, Option.map_eq_none_iff, Option.eq_none_iff_forall_ne_some]
      exact fun id hid ↦ hnone id (identifiedBy_iff.2 hid)
    rw [field?_rowEntry, hrow]
    rfl
  others key hjson hid := by rw [field?_rowEntry, if_neg hjson, if_neg hid]

theorem forall₂_holdsRow (args : Args) (rows : List Json) :
    List.Forall₂ args.HoldsRow rows
      (rows.map (rowEntry (args.string? "insert_id_field"))) := by
  rw [List.forall₂_map_right_iff, List.forall₂_same]
  exact fun row _ ↦ holdsRow_rowEntry args row

end Part

/-! ## Calls that insert rows -/

namespace Catalog.BigQuery

/-- What stands beside the rows is put in under other keys. -/
theorem get?_rows_insertBody (args : Args) :
    (Part.build insertBody args).get? "rows"
      = some (Part.rowEntries args "rows" "insert_id_field") := by
  rw [Part.build, insertBody, Part.applyAll, Part.applyAll, Part.applyAll, Part.applyAll,
    Part.applyAll, Part.get?_apply_copy, if_neg (by decide), Part.get?_apply_copy,
    if_neg (by decide)]
  simp only [Part.apply, Table.get?_insert_self]

theorem operation_insert_rows {op : Operation}
    (hop : connector.operations.get? "insert_rows" = some op) :
    ⟨"rows", some Json.isNonEmptyList⟩ ∈ op.required ∧ op.body = some insertBody := by
  cases hop
  exact ⟨.tail _ (.tail _ (.head _)), rfl⟩

theorem rows_of_check {op : Operation} (hop : connector.operations.get? "insert_rows" = some op)
    {args : Args} (hcheck : op.check args = .ok ()) :
    ∃ rows, args.get? "rows" = some (.arr rows) ∧ rows ≠ [] := by
  obtain ⟨v, hv, hlist⟩ :=
    Operation.exists_present_of_check hcheck (operation_insert_rows hop).1
  have hget : args.get? "rows" = some v := (Args.present?_eq_some_iff.1 hv).1
  cases v with
  | arr rows =>
    refine ⟨rows, hget, fun hnil ↦ ?_⟩
    rw [hnil] at hlist
    cases hlist
  | null | bool b | num n | str s | obj fields => cases hlist

end Catalog.BigQuery

/-- **Rows are sent as they are given.** In an accepted call the rows are a list with an element,
and the body has an object for each of them, in their order. It holds the row unchanged, and besides
it at most an identifier, which is a text: that of the value found in the row, if the row is an
object and has the key that the arguments name. -/
theorem rows_are_sent_as_given {base : Option String} {args : Args} {call : Call}
    (h : Catalog.BigQuery.connector.prepare base args = .ok call)
    (hoperation : call.operation = "insert_rows") :
    ∃ rows entries payload, args.get? "rows" = some (.arr rows) ∧ rows ≠ [] ∧
      call.payload = some payload ∧ payload.get? "rows" = some (.arr entries) ∧
      List.Forall₂ args.HoldsRow rows entries ∧
      ∀ headers timeout, (call.request headers timeout).content = .json (.ofTable payload) := by
  obtain ⟨name, op, haccept, rfl⟩ := Connector.prepare_eq_ok_iff.1 h
  obtain rfl : name = "insert_rows" := hoperation
  obtain ⟨-, hop, -, -, hcheck⟩ := Connector.accept_eq_ok_iff.1 haccept
  obtain ⟨rows, hrows, hne⟩ := Catalog.BigQuery.rows_of_check hop hcheck
  have hpayload : (Catalog.BigQuery.connector.build base args "insert_rows" op).payload
      = some (Part.build Catalog.BigQuery.insertBody args) := by
    rw [Connector.build, Operation.payload, (Catalog.BigQuery.operation_insert_rows hop).2]
    rfl
  have hentries : (Part.build Catalog.BigQuery.insertBody args).get? "rows"
      = some (.arr (rows.map (Part.rowEntry (args.string? "insert_id_field")))) := by
    have hpresent : args.present? "rows" = some (.arr rows) :=
      Args.present?_eq_some_iff.2 ⟨hrows, rfl⟩
    rw [Catalog.BigQuery.get?_rows_insertBody, Part.rowEntries, hpresent]
    rfl
  refine ⟨rows, _, _, hrows, hne, hpayload, hentries, Part.forall₂_holdsRow args rows,
    fun headers timeout ↦ ?_⟩
  rw [Call.request, hpayload]

/-- Rows of all kinds, one with a number, one with an empty text and one with null under the key of
the identifier. -/
def mixedRows : Args :=
  ⟨.ofList [("operation", .str "insert_rows"), ("project_id", .str "analytics"),
    ("dataset_id", .str "events"), ("table_id", .str "clicks"),
    ("service_account_json", .str "{}"), ("insert_id_field", .str "id"),
    ("rows", .arr [.obj [("id", .int 7), ("page", .str "/")], .obj [("id", .str "")],
      .obj [("id", .null)], .arr [.str "id"], .null])]⟩

theorem mixed_rows_are_sent_as_given :
    ∃ call rows entries payload,
      Catalog.BigQuery.connector.prepare none mixedRows = .ok call ∧
      call.operation = "insert_rows" ∧ mixedRows.get? "rows" = some (.arr rows) ∧
      call.payload = some payload ∧ payload.get? "rows" = some (.arr entries) ∧
      List.Forall₂ mixedRows.HoldsRow rows entries ∧
      entries = [.object [("json", .obj [("id", .int 7), ("page", .str "/")]),
          ("insertId", .str "7")],
        .object [("json", .obj [("id", .str "")]), ("insertId", .str "")],
        .object [("json", .obj [("id", .null)]), ("insertId", .str "null")],
        .object [("json", .arr [.str "id"])], .object [("json", .null)]] := by
  have hcall : (Catalog.BigQuery.connector.prepare none mixedRows).toOption.map
      (fun call ↦ (call.operation, call.payload.bind (·.get? "rows")))
      = some ("insert_rows", some (.arr
        [.object [("json", .obj [("id", .int 7), ("page", .str "/")]), ("insertId", .str "7")],
          .object [("json", .obj [("id", .str "")]), ("insertId", .str "")],
          .object [("json", .obj [("id", .null)]), ("insertId", .str "null")],
          .object [("json", .arr [.str "id"])], .object [("json", .null)]])) := by
    decide +kernel
  obtain ⟨call, hprepare, hcall⟩ := exists_eq_ok_of_toOption hcall
  rw [Prod.mk.injEq] at hcall
  obtain ⟨rows, entries, payload, hrows, -, hpayload, hentries, hholds, -⟩ :=
    rows_are_sent_as_given hprepare hcall.1
  have hsent := hcall.2
  rw [hpayload, Option.bind_some, hentries, Option.some.injEq, Json.arr.injEq] at hsent
  exact ⟨call, rows, entries, payload, hprepare, hcall.1, hrows, hpayload, hentries, hholds, hsent⟩

end ServiceCall

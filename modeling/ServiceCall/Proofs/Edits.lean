import ServiceCall.Proofs.Blanks
import ServiceCall.Proofs.Presence
import ServiceCall.Proofs.QueryArguments

/-!
# Edits of a document

An edit puts a text at the end of a document or in the place of another text. Which texts these are
is up to the arguments, and whether the edit is made depends only on which arguments are there
(`Connector.exists_call_iff`). What is sent then comes from two readers, which fail in two ways.

* A text to be found or to be added is the text of its argument. A list or an object has none, and
  the empty text is sent (`Args.Sends`).
* A text to be put in the place of another one is a string or it is empty. A number or a truth value
  is not written out, so that every match is deleted (`Args.Puts`), as it is on purpose where
  nothing is to be put there.

The two lists of values that go wrong are exact (`edits_keep_texts_iff`).
-/

namespace ServiceCall

/-! ## Calls that depend on presence only -/

/-- A service makes a call for an operation without further checks if everything that it needs is
there, whatever it is. -/
theorem Connector.exists_call_iff {c : Connector} {name : String} {op : Operation}
    (hop : c.operations.get? name = some op) (hforms : op.ChecksForms)
    (hoptional : op.optional = []) (base : Option String) (args : Args) :
    (∃ call, c.prepare base args = .ok call ∧ call.operation = name) ↔
      args.text? "operation" = some name ∧
        ∀ field ∈ c.connectionFields ++ c.credentialFields ++ op.required.map (·.name),
          args.isPresent field = true := by
  have hcheck : op.check args = .ok () ↔
      ∀ field ∈ op.required.map (·.name), args.isPresent field = true := by
    rw [Operation.check_eq_ok_iff, ← checkEach_eq_ok_iff, hforms.checkEach_required_eq_ok_iff,
      hoptional]
    exact and_iff_left fun r hr ↦ absurd hr List.not_mem_nil
  rw [List.forall_mem_append, List.forall_mem_append, ← hcheck, and_assoc]
  constructor
  · rintro ⟨call, hcall, hname⟩
    obtain ⟨name', op', haccept, rfl⟩ := Connector.prepare_eq_ok_iff.1 hcall
    obtain rfl : name' = name := hname
    obtain ⟨htext, hop', hpresent⟩ := Connector.accept_eq_ok_iff.1 haccept
    obtain rfl : op = op' := Option.some.inj (hop.symm.trans hop')
    exact ⟨htext, hpresent⟩
  · rintro ⟨htext, hpresent⟩
    exact ⟨c.build base args name op, Connector.prepare_eq_ok_iff.2
      ⟨name, op, Connector.accept_eq_ok_iff.2 ⟨htext, hop, hpresent⟩, rfl⟩, rfl⟩

/-! ## Texts of arguments -/

namespace Args

variable {args : Args} {key : String}

/-- What is sent for an argument is its text, which is not blank, unless the argument is a list or
an object; for these the empty text is sent. -/
structure Sends (args : Args) (key sent : String) : Prop where
  holds_iff : args.Holds key sent ↔ args.isComposite key = false
  eq_empty : args.isComposite key = true → sent = ""

theorem sends_textOr (hpresent : args.isPresent key = true) :
    args.Sends key (args.textOr key "") where
  holds_iff := holds_textOr_iff.trans (exists_holds_iff hpresent)
  eq_empty h := textOr_of_isComposite h ""

/-- The text that an argument asks to be put somewhere: none for no argument or null, and else the
text of the value, even if it is blank. -/
inductive AsksFor (args : Args) (key : String) : String → Prop where
  | nothing (h : (args.get? key).getD .null = .null) : AsksFor args key ""
  | text {v : Json} {text : String} (hget : args.get? key = some v)
    (htext : v.scalarText? = some text) : AsksFor args key text

theorem verbatim_of_isNonString (h : args.isNonString key = true) : args.verbatim key = "" := by
  rw [isNonString] at h
  rw [verbatim]
  cases hget : args.get? key with
  | none => rfl
  | some v =>
    rw [hget] at h
    cases v with
    | str s => cases h
    | null | bool b | num n | arr items | obj fields => rfl

/-- No number and no truth value has the empty text. -/
theorem not_asksFor_empty (h : args.isNonString key = true) : ¬ args.AsksFor key "" := by
  rintro (hnull | ⟨hget, htext⟩)
  · rw [isNonString] at h
    cases hget : args.get? key with
    | none =>
      rw [hget] at h
      cases h
    | some v =>
      rw [hget, Option.getD_some] at hnull
      rw [hget, hnull] at h
      cases h
  · rename_i v
    have hvalue : v.isNonString = true := by
      rw [isNonString, hget] at h
      exact h
    have hpresent : v.isPresent = true := by
      cases v with
      | null | str s => cases hvalue
      | bool b | num n | arr items | obj fields => rfl
    have hscalar : v.isComposite = false := by
      cases v with
      | arr items | obj fields => cases htext
      | null | bool b | num n | str s => rfl
    obtain ⟨text, htext', hblank⟩ := Json.exists_scalarText? hpresent hscalar
    rw [htext] at htext'
    cases htext'
    exact absurd hblank (by decide)

/-- What is put somewhere for an argument is what the argument asks for, unless it is there and no
string; then it is the empty text. -/
structure Puts (args : Args) (key sent : String) : Prop where
  asksFor_iff : args.AsksFor key sent ↔ args.isNonString key = false
  eq_empty : args.isNonString key = true → sent = ""

theorem puts_verbatim (args : Args) (key : String) : args.Puts key (args.verbatim key) where
  asksFor_iff := by
    constructor
    · intro h
      refine Bool.eq_false_iff.2 fun hnon ↦ not_asksFor_empty hnon ?_
      rwa [verbatim_of_isNonString hnon] at h
    · intro h
      rw [isNonString] at h
      rw [verbatim]
      cases hget : args.get? key with
      | none => exact .nothing (by rw [hget]; rfl)
      | some v =>
        rw [hget] at h
        cases v with
        | null => exact .nothing (by rw [hget]; rfl)
        | str s => exact .text hget rfl
        | bool b | num n | arr items | obj fields => cases h
  eq_empty := verbatim_of_isNonString

end Args

/-! ## The two edits -/

namespace Catalog.GoogleDocs

def appendOperation : Operation :=
  ((Operation.plain .post editPath).needs ["document_id", "text"]).withBody appendBody

theorem get?_append_text : operations.get? "append_text" = some appendOperation := rfl

/-- The edit that puts the text at the end of the document. -/
def insertion (text : String) : Payload :=
  .ofList [("requests", .arr [.object [("insertText",
    .object [("endOfSegmentLocation", .object []), ("text", .str text)])]])]

theorem payload_appendOperation (args : Args) :
    appendOperation.payload args = some (insertion (args.textOr "text" "")) := by
  change some (Part.applyAll args .empty appendBody) = _
  simp only [appendBody, Part.applyAll, Part.apply]
  rfl

theorem payload_of_prepare {base : Option String} {args : Args} {call : Call} {op : Operation}
    (h : connector.prepare base args = .ok call)
    (hop : operations.get? call.operation = some op) : call.payload = op.payload args := by
  obtain ⟨name, op', haccept, rfl⟩ := Connector.prepare_eq_ok_iff.1 h
  obtain ⟨-, hop', -⟩ := Connector.accept_eq_ok_iff.1 haccept
  obtain rfl : op = op' := Option.some.inj (hop.symm.trans hop')
  rfl

/-- Of what an edit needs nothing is asked but that it is there. -/
theorem checksForms_edit {field : String} {parts : List Part} :
    (((Operation.plain .post editPath).needs ["document_id", field]).withBody parts).ChecksForms :=
  Operation.checksForms_iff.2 (by simp [Operation.plain, Operation.needs, Operation.withBody])

theorem exists_append_iff (base : Option String) (args : Args) :
    (∃ call, connector.prepare base args = .ok call ∧ call.operation = "append_text") ↔
      args.text? "operation" = some "append_text" ∧
        ∀ field ∈ ["service_account_json", "document_id", "text"], args.isPresent field = true :=
  Connector.exists_call_iff (c := connector) get?_append_text checksForms_edit rfl base args

theorem exists_replace_iff (base : Option String) (args : Args) :
    (∃ call, connector.prepare base args = .ok call ∧ call.operation = "replace_text") ↔
      args.text? "operation" = some "replace_text" ∧
        ∀ field ∈ ["service_account_json", "document_id", "find_text"],
          args.isPresent field = true :=
  Connector.exists_call_iff (c := connector) get?_replace_text checksForms_edit rfl base args

end Catalog.GoogleDocs

/-- **Edits keep texts, with exceptions.** An edit is made if what it needs is there, and nothing is
refused for what it is. A text is then added that is the text of its argument, unless that is a list
or an object; and one text is put in the place of another, of which the former is what the argument
asks for unless that is neither null nor a string, and the latter the text of its argument unless
that is a list or an object. In all these cases the text sent is the empty one. -/
theorem edits_keep_texts_iff (base : Option String) (args : Args) :
    ((∃ call, Catalog.GoogleDocs.connector.prepare base args = .ok call ∧
        call.operation = "append_text") ↔
      args.text? "operation" = some "append_text" ∧
        ∀ field ∈ ["service_account_json", "document_id", "text"], args.isPresent field = true) ∧
    ((∃ call, Catalog.GoogleDocs.connector.prepare base args = .ok call ∧
        call.operation = "replace_text") ↔
      args.text? "operation" = some "replace_text" ∧
        ∀ field ∈ ["service_account_json", "document_id", "find_text"],
          args.isPresent field = true) ∧
    ∀ call, Catalog.GoogleDocs.connector.prepare base args = .ok call →
      (call.operation = "append_text" →
        call.payload = some (Catalog.GoogleDocs.insertion (args.textOr "text" "")) ∧
        args.Sends "text" (args.textOr "text" "")) ∧
      (call.operation = "replace_text" →
        call.payload
          = some (Catalog.GoogleDocs.replacement args (args.verbatim "replace_text")) ∧
        args.Sends "find_text" (args.textOr "find_text" "") ∧
        args.Puts "replace_text" (args.verbatim "replace_text")) := by
  have happend := Catalog.GoogleDocs.exists_append_iff base args
  have hreplace := Catalog.GoogleDocs.exists_replace_iff base args
  refine ⟨happend, hreplace, fun call hcall ↦ ⟨fun hoperation ↦ ?_, fun hoperation ↦ ?_⟩⟩
  · have htext : args.isPresent "text" = true :=
      (happend.1 ⟨call, hcall, hoperation⟩).2 "text" (by simp)
    have hop : Catalog.GoogleDocs.operations.get? call.operation
        = some Catalog.GoogleDocs.appendOperation := by
      rw [hoperation, Catalog.GoogleDocs.get?_append_text]
    refine ⟨?_, Args.sends_textOr htext⟩
    rw [Catalog.GoogleDocs.payload_of_prepare hcall hop,
      Catalog.GoogleDocs.payload_appendOperation]
  · have hfind : args.isPresent "find_text" = true :=
      (hreplace.1 ⟨call, hcall, hoperation⟩).2 "find_text" (by simp)
    have hop : Catalog.GoogleDocs.operations.get? call.operation
        = some Catalog.GoogleDocs.replaceOperation := by
      rw [hoperation, Catalog.GoogleDocs.get?_replace_text]
    refine ⟨?_, Args.sends_textOr hfind, args.puts_verbatim "replace_text"⟩
    rw [Catalog.GoogleDocs.payload_of_prepare hcall hop,
      Catalog.GoogleDocs.payload_replaceOperation]

/-- An edit that puts a year, given as a number, in the place of a word. -/
def yearEdit : Args := ⟨.ofList [("operation", .str "replace_text"), ("document_id", .str "1AbC"),
  ("find_text", .str "YEAR"), ("replace_text", .int 2024),
  ("service_account_json", .str "\x7b\x7d")]⟩

theorem operation_of_yearEdit :
    (Catalog.GoogleDocs.connector.prepare none yearEdit).toOption.map Call.operation
      = some "replace_text" := by
  decide +kernel

theorem year_is_found_but_not_put :
    ∃ call, Catalog.GoogleDocs.connector.prepare none yearEdit = .ok call ∧
      call.operation = "replace_text" ∧
      call.payload
        = some (Catalog.GoogleDocs.replacement yearEdit (yearEdit.verbatim "replace_text")) ∧
      yearEdit.Holds "find_text" "YEAR" ∧
      ¬ yearEdit.AsksFor "replace_text" (yearEdit.verbatim "replace_text") := by
  obtain ⟨call, hcall, hoperation⟩ := exists_eq_ok_of_toOption operation_of_yearEdit
  obtain ⟨hpayload, hfind, hput⟩ :=
    ((edits_keep_texts_iff none yearEdit).2.2 call hcall).2 hoperation
  refine ⟨call, hcall, hoperation, hpayload, hfind.holds_iff.2 rfl, ?_⟩
  rw [hput.asksFor_iff]
  decide

/-- A number has a text, and the text is not put in the place of the matches: they are deleted. -/
theorem number_to_be_put_deletes_matches :
    ∃ call, Catalog.GoogleDocs.connector.prepare none yearEdit = .ok call ∧
      call.operation = "replace_text" ∧ yearEdit.get? "replace_text" = some (.int 2024) ∧
      (Json.int 2024).scalarText? = some "2024" ∧
      call.payload = some (Catalog.GoogleDocs.replacement yearEdit "") ∧
      call.payload ≠ some (Catalog.GoogleDocs.replacement yearEdit "2024") := by
  obtain ⟨call, hcall, hoperation⟩ := exists_eq_ok_of_toOption operation_of_yearEdit
  have hop : Catalog.GoogleDocs.operations.get? call.operation
      = some Catalog.GoogleDocs.replaceOperation := by
    rw [hoperation, Catalog.GoogleDocs.get?_replace_text]
  have hpayload : call.payload = some (Catalog.GoogleDocs.replacement yearEdit "") := by
    rw [Catalog.GoogleDocs.payload_of_prepare hcall hop,
      Catalog.GoogleDocs.payload_replaceOperation]
    rfl
  refine ⟨call, hcall, hoperation, rfl, by decide +kernel, hpayload, fun h ↦ ?_⟩
  rw [hpayload] at h
  exact absurd (Catalog.GoogleDocs.replacement_injective (Option.some.inj h)) (by decide)

end ServiceCall

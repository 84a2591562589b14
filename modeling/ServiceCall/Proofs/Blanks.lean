import Mathlib.Data.List.Nodup
import ServiceCall.Proofs.Accounting
import ServiceCall.Proofs.Secrecy

/-!
# Blank arguments

An argument that is null or blank counts as one that was left out. Leaving it out therefore changes
nothing: not what is checked, not what is built, not which credentials are looked up and not whether
a call is made (`blank_arguments_count_as_absent`).

## The one exception

The text that is put in the place of another one may be blank, and taking it for absent would turn
a replacement by white space into a deletion. Which operations see such a text can be read off their
bodies (`Part.verbatims`); the law below is proved for any service from that, and the catalog has
one operation of the kind.
-/

namespace ServiceCall

open Http (Client)

/-! ## Arguments that differ in blanks only -/

namespace Args

/-- The arguments that are neither null nor blank. -/
def withoutBlanks (args : Args) : Args := ⟨args.table.filter (·.2.isPresent)⟩

theorem get?_withoutBlanks (args : Args) (key : String) :
    args.withoutBlanks.get? key = args.present? key :=
  args.table.get?_filter _ key

/-- Arguments of which the same are there. -/
def Alike (a b : Args) : Prop := ∀ key, a.present? key = b.present? key

theorem withoutBlanks_alike (args : Args) : args.withoutBlanks.Alike args := by
  intro key
  rw [present?, get?_withoutBlanks, present?, Option.filter_filter]
  simp only [Bool.and_self]

theorem Alike.insert {a b : Args} (h : a.Alike b) (field : String) (value : Json) :
    (a.insert field value).Alike (b.insert field value) := by
  intro key
  rw [present?, present?, get?_insert, get?_insert]
  split
  · rfl
  · exact h key

/-- A blank argument may be put back. -/
theorem withoutBlanks_insert_alike {args : Args} {field : String} {value : Json}
    (h : args.get? field = some value) : (args.withoutBlanks.insert field value).Alike args := by
  intro key
  by_cases hkey : key = field
  · rw [hkey, present?, get?_insert, if_pos rfl, ← h, present?]
  · rw [present?, get?_insert, if_neg hkey, ← present?]
    exact args.withoutBlanks_alike key

/-- Leaving out blanks changes a text only if it is blank without being empty. -/
theorem verbatim_withoutBlanks {args : Args} {key : String}
    (h : ∀ s, args.get? key = some (.str s) → Text.isBlank s = true → s = "") :
    args.withoutBlanks.verbatim key = args.verbatim key := by
  rw [verbatim, verbatim, get?_withoutBlanks, present?]
  cases hget : args.get? key with
  | none => rfl
  | some v =>
    cases hv : v.isPresent with
    | true => rw [Option.filter_some_pos hv]
    | false =>
      -- What is left out is null, which has no text, or a blank text.
      cases v with
      | null => rfl
      | str s =>
        have hs : s = "" := h s hget (by simpa [Json.isPresent] using hv)
        rw [hs]
        rfl
      | bool _ | num _ | arr _ | obj _ => cases hv

end Args

/-! ## Looking up credentials -/

theorem Fallback.fillField_alike (lookup : Lookup) (service field : String) {a b : Args}
    (h : a.Alike b) :
    (fillField lookup service a field).1.Alike (fillField lookup service b field).1 := by
  rw [fillField, fillField, Args.isPresent_congr (h field)]
  split
  · exact h
  · cases find? lookup service field with
    | none => exact h
    | some value => exact h.insert field (.str value)

theorem Fallback.fill_alike (lookup : Lookup) (service : String) (fields : List String)
    {a b : Args} (h : a.Alike b) :
    (fill lookup service fields a).1.Alike (fill lookup service fields b).1 := by
  -- A credential that is not there is not there in either table, so both are filled alike.
  induction fields generalizing a b with
  | nil => exact h
  | cons field fields ih => exact ih (fillField_alike lookup service field h)

theorem Registry.withCredentials_alike (lookup : Fallback.Lookup) (name : String) (c : Connector)
    {a b : Args} (h : a.Alike b) :
    (withCredentials lookup name c a).Alike (withCredentials lookup name c b) := by
  have hall : c.credentialFields.all a.isPresent = c.credentialFields.all b.isPresent :=
    congrArg c.credentialFields.all (funext fun field ↦ Args.isPresent_congr (h field))
  rw [withCredentials, withCredentials, hall]
  split
  · exact h
  · exact Fallback.fill_alike lookup name c.credentialFields h

/-! ## Calls and runs -/

namespace Connector

variable {c : Connector} {a b : Args}

/-- The arguments of which the operation asked for sees even a blank text. -/
def verbatims (c : Connector) (args : Args) : List String :=
  ((c.operation? args).map Operation.verbatims).getD []

theorem mem_verbatims_iff {k : String} :
    k ∈ c.verbatims a ↔ ∃ name op, a.text? "operation" = some name ∧
      c.operations.get? name = some op ∧ k ∈ op.verbatims := by
  rw [verbatims, operation?]
  cases a.text? "operation" with
  | none => simp
  | some name => cases hop : c.operations.get? name <;> simp [hop]

theorem mem_openReads_of_mem_verbatims {k : String} (h : k ∈ c.verbatims a) : k ∈ c.openReads := by
  obtain ⟨name, op, -, hop, hk⟩ := mem_verbatims_iff.1 h
  exact reads_of_get? hop (Operation.mem_reads_of_mem_verbatims hk)

theorem accept_alike (h : a.Alike b) : c.accept a = c.accept b :=
  accept_congr (fun k _ ↦ h k) fun f _ ↦ Args.isPresent_congr (h f)

/-- Arguments of which the same are there build the same but for the body. -/
theorem build_alike (h : a.Alike b) (base : Option String) {name : String} {op : Operation}
    (hop : c.operations.get? name = some op) :
    c.build base a name op = { c.build base b name op with payload := op.payload a } := by
  have hread : c.credentials.read a = c.credentials.read b :=
    Credentials.Source.read_congr fun k _ ↦ h k
  rw [build_eq (fun k _ ↦ h k) base hop, hread]
  rfl

theorem prepare_alike (h : a.Alike b) (hv : ∀ k ∈ c.verbatims b, a.verbatim k = b.verbatim k)
    (base : Option String) : c.prepare base a = c.prepare base b := by
  rw [prepare_eq_map_accept, prepare_eq_map_accept, accept_alike h]
  cases haccept : c.accept b with
  | error refusal => rfl
  | ok e =>
    -- The calls are the same but for the body, and so are the texts that the body sees.
    obtain ⟨hname, hop, -⟩ := accept_eq_ok_iff.1 haccept
    have hpayload : e.2.payload a = e.2.payload b :=
      Operation.payload_congr (fun k _ ↦ h k) fun k hk ↦
        hv k (mem_verbatims_iff.2 ⟨e.1, e.2, hname, hop, hk⟩)
    rw [Except.map, Except.map, build_alike h base hop, hpayload]
    rfl

theorem run_alike (h : a.Alike b) (hv : ∀ k ∈ c.verbatims b, a.verbatim k = b.verbatim k)
    {σ : Type} (client : Client σ) (options : CallOptions) (now : Int) :
    c.run client options now a = c.run client options now b := by
  rw [run, run, prepare_alike h hv, isDryRun, isDryRun, Args.flag_congr (h "dry_run")]

/-- Two tables of arguments lead to the same call, and to the same end by the same requests, under
any registry that offers the service and over any client. -/
structure SameAnswers (c : Connector) (a b : Args) : Prop where
  prepare_eq : ∀ base, c.prepare base a = c.prepare base b
  invoke_eq : ∀ (r : Registry) (name : String), r.get? name = some c →
    ∀ {σ : Type} (client : Client σ) (lookup : Fallback.Lookup) (now : Int),
      r.invoke client lookup now name a = r.invoke client lookup now name b

/-- For a service that looks at no credential other than for authorizing, blanks do not count
except where they are seen. -/
theorem sameAnswers_of_alike (hopen : ∀ k ∈ c.openReads, k ∉ c.credentialFields) (h : a.Alike b)
    (hv : ∀ k ∈ c.verbatims b, a.verbatim k = b.verbatim k) : c.SameAnswers a b where
  prepare_eq := prepare_alike h hv
  invoke_eq r name hget σ client lookup now := by
    -- What is looked up goes into credentials, so the texts that are seen stay as they are.
    have hkept : ∀ k ∈ c.openReads, ∀ args : Args,
        (Registry.withCredentials lookup name c args).get? k = args.get? k := fun k hk args ↦
      Registry.get?_withCredentials (.inr (hopen k hk))
    have hoperation : (Registry.withCredentials lookup name c b).text? "operation"
        = b.text? "operation" :=
      Args.text?_congr (Args.present?_congr (hkept "operation" (by simp [openReads]) b))
    have hverbatim : ∀ k ∈ c.verbatims (Registry.withCredentials lookup name c b),
        (Registry.withCredentials lookup name c a).verbatim k
          = (Registry.withCredentials lookup name c b).verbatim k := by
      intro k hk
      rw [verbatims, operation?, hoperation, ← operation?, ← verbatims] at hk
      have hread := mem_openReads_of_mem_verbatims hk
      rw [Args.verbatim_congr (hkept k hread a), Args.verbatim_congr (hkept k hread b), hv k hk]
    rw [Registry.invoke, Registry.invoke, hget]
    exact run_alike (Registry.withCredentials_alike lookup name c h) hverbatim client _ now

end Connector

/-! ## The operation that sees blanks -/

namespace Catalog

theorem eq_of_mem_entries_verbatims : ∀ c ∈ all, ∀ e ∈ c.operations.entries, ∀ k ∈ e.2.verbatims,
    c.name = "google_docs" ∧ e.1 = "replace_text" ∧ k = "replace_text" := by decide +kernel

theorem eq_of_mem_verbatims {c : Connector} (hc : c ∈ all) {args : Args} {k : String}
    (h : k ∈ c.verbatims args) :
    c.name = "google_docs" ∧ args.text? "operation" = some "replace_text" ∧ k = "replace_text" := by
  obtain ⟨name, op, hname, hop, hk⟩ := Connector.mem_verbatims_iff.1 h
  obtain ⟨hservice, rfl, hkey⟩ :=
    eq_of_mem_entries_verbatims c hc (name, op) (Table.get?_eq_some_iff.1 hop) k hk
  exact ⟨hservice, hname, hkey⟩

/-- Every service has a name of its own. -/
theorem eq_of_name_eq {c d : Connector} (hc : c ∈ all) (hd : d ∈ all) (h : c.name = d.name) :
    c = d :=
  List.inj_on_of_nodup_map (f := Connector.name) (by decide) hc hd h

namespace GoogleDocs

def replaceOperation : Operation :=
  ((Operation.plain .post editPath).needs ["document_id", "find_text"]).withBody replaceBody

theorem get?_replace_text : operations.get? "replace_text" = some replaceOperation := rfl

/-- What is to be found, and what is to take its place. -/
def replaceAllText (args : Args) (text : String) : Json :=
  .object [("containsText", .object [("text", .str (args.textOr "find_text" "")),
    ("matchCase", .bool (args.flag "match_case"))]), ("replaceText", .str text)]

/-- The edit that puts the text in the place of what is to be found. -/
def replacement (args : Args) (text : String) : Payload :=
  .ofList [("requests", .arr [.object [("replaceAllText", replaceAllText args text)]])]

theorem payload_replaceOperation (args : Args) :
    replaceOperation.payload args = some (replacement args (args.verbatim "replace_text")) := by
  change some (Part.applyAll args .empty replaceBody) = _
  simp only [replaceBody, Part.applyAll, Part.apply]
  rfl

theorem replacement_alike {a b : Args} (h : a.Alike b) (text : String) :
    replacement a text = replacement b text := by
  rw [replacement, replacement, replaceAllText, replaceAllText, Args.flag_congr (h "match_case"),
    Args.textOr_congr (h "find_text")]

theorem field?_replaceAllText (args : Args) (text : String) :
    (replaceAllText args text).field? "replaceText" = some (.str text) := by
  rw [replaceAllText, Json.field?_object (by simp)]
  rfl

theorem get?_replacement (args : Args) (text : String) : (replacement args text).get? "requests"
    = some (.arr [.obj [("replaceAllText", replaceAllText args text)]]) := rfl

theorem replacement_injective {args : Args} {s t : String}
    (h : replacement args s = replacement args t) : s = t := by
  have hrequests := congrArg (Table.get? · "requests") h
  have hedit : replaceAllText args s = replaceAllText args t := by
    simpa [get?_replacement] using hrequests
  have htext := congrArg (Json.field? "replaceText") hedit
  rw [field?_replaceAllText, field?_replaceAllText] at htext
  simpa using htext

end GoogleDocs

end Catalog

/-- A text that is blank without being empty is to be put in the place of another one. -/
structure Connector.ReplacesByBlank (c : Connector) (args : Args) (s : String) : Prop where
  name_eq : c.name = "google_docs"
  operation_eq : args.text? "operation" = some "replace_text"
  get?_eq : args.get? "replace_text" = some (.str s)
  isBlank : Text.isBlank s = true
  ne_empty : s ≠ ""

/-- Without the text, the call is another one if it is made at all. -/
theorem Connector.prepare_of_replacesByBlank {c : Connector} (hc : c ∈ Catalog.all) {args : Args}
    {s : String} (h : c.ReplacesByBlank args s) (base : Option String) :
    (∃ refusal, c.prepare base args.withoutBlanks = .error refusal ∧
        c.prepare base args = .error refusal) ∨
      ∃ call, c.prepare base args = .ok call ∧
        call.payload = some (Catalog.GoogleDocs.replacement args s) ∧
        c.prepare base args.withoutBlanks
          = .ok { call with payload := some (Catalog.GoogleDocs.replacement args "") } ∧
        Catalog.GoogleDocs.replacement args s ≠ Catalog.GoogleDocs.replacement args "" := by
  obtain rfl : Catalog.GoogleDocs.connector = c :=
    Catalog.eq_of_name_eq (by simp [Catalog.all]) hc h.name_eq.symm
  have halike := args.withoutBlanks_alike
  have haccept := accept_alike (c := Catalog.GoogleDocs.connector) halike
  cases hb : Catalog.GoogleDocs.connector.accept args with
  | error refusal =>
    exact .inl ⟨refusal, prepare_eq_error_iff.2 (haccept.trans hb), prepare_eq_error_iff.2 hb⟩
  | ok e =>
    obtain ⟨name, op⟩ := e
    obtain ⟨hname, hop, -⟩ := accept_eq_ok_iff.1 hb
    obtain rfl : "replace_text" = name := Option.some.inj (h.operation_eq.symm.trans hname)
    obtain rfl : Catalog.GoogleDocs.replaceOperation = op :=
      Option.some.inj (Catalog.GoogleDocs.get?_replace_text.symm.trans hop)
    -- From here on the two calls differ in one text, `s` with the blanks and empty without.
    have hs : args.verbatim "replace_text" = s := by
      rw [Args.verbatim, h.get?_eq]
      rfl
    have hempty : args.withoutBlanks.verbatim "replace_text" = "" := by
      rw [Args.verbatim, Args.get?_withoutBlanks, Args.present?, h.get?_eq]
      simp [Option.filter, Json.isPresent, h.isBlank]
    refine .inr ⟨_, prepare_eq_ok_iff.2 ⟨_, _, hb, rfl⟩, ?_,
      prepare_eq_ok_iff.2 ⟨_, _, haccept.trans hb, ?_⟩,
      fun heq ↦ h.ne_empty (Catalog.GoogleDocs.replacement_injective heq)⟩
    · change Catalog.GoogleDocs.replaceOperation.payload args = _
      rw [Catalog.GoogleDocs.payload_replaceOperation, hs]
    · rw [build_alike halike base hop, Catalog.GoogleDocs.payload_replaceOperation, hempty,
        Catalog.GoogleDocs.replacement_alike halike]

/-- **Blank means absent.** Without the arguments that are null or blank, a call is prepared alike,
and an invocation ends alike after the same requests. Only where a text that is blank without being
empty is to take the place of another one does this text have to stay. It is then put there as it
is, and left out it would be the empty text. -/
theorem blank_arguments_count_as_absent {c : Connector} (hc : c ∈ Catalog.all) (args : Args) :
    ((∀ s, ¬ c.ReplacesByBlank args s) → c.SameAnswers args.withoutBlanks args) ∧
      ∀ s, c.ReplacesByBlank args s →
        c.SameAnswers (args.withoutBlanks.insert "replace_text" (.str s)) args ∧
        ∀ base, (∃ refusal, c.prepare base args.withoutBlanks = .error refusal ∧
            c.prepare base args = .error refusal) ∨
          ∃ call, c.prepare base args = .ok call ∧
            call.payload = some (Catalog.GoogleDocs.replacement args s) ∧
            c.prepare base args.withoutBlanks
              = .ok { call with payload := some (Catalog.GoogleDocs.replacement args "") } ∧
            Catalog.GoogleDocs.replacement args s ≠ Catalog.GoogleDocs.replacement args "" := by
  have hopen := Catalog.openReads_notMem_credentialFields c hc
  refine ⟨fun hnone ↦ ?_, fun s h ↦ ⟨?_, Connector.prepare_of_replacesByBlank hc h⟩⟩
  · refine Connector.sameAnswers_of_alike hopen args.withoutBlanks_alike fun k hk ↦ ?_
    -- A text seen by the only operation that sees one is empty if it is blank.
    obtain ⟨hname, hoperation, rfl⟩ := Catalog.eq_of_mem_verbatims hc hk
    refine Args.verbatim_withoutBlanks fun s hget hblank ↦ ?_
    by_contra hne
    exact hnone s ⟨hname, hoperation, hget, hblank, hne⟩
  · refine Connector.sameAnswers_of_alike hopen (Args.withoutBlanks_insert_alike h.get?_eq)
      fun k hk ↦ ?_
    obtain ⟨-, -, rfl⟩ := Catalog.eq_of_mem_verbatims hc hk
    refine Args.verbatim_congr ?_
    rw [Args.get?_insert, if_pos rfl, h.get?_eq]

/-- An edit that puts a space in the place of a word, with blanks under other names. -/
def spacingEdit : Args := ⟨.ofList [("operation", .str "replace_text"), ("document_id", .str "d1"),
  ("find_text", .str "draft"), ("replace_text", .str " "), ("match_case", .null),
  ("subject", .str ""), ("service_account_json", .str "key")]⟩

theorem spacing_edit_keeps_space :
    Catalog.GoogleDocs.connector ∈ Catalog.all ∧
      Catalog.GoogleDocs.connector.ReplacesByBlank spacingEdit " " ∧
      ∃ call, Catalog.GoogleDocs.connector.prepare none spacingEdit = .ok call ∧
        call.payload = some (Catalog.GoogleDocs.replacement spacingEdit " ") := by
  have hc : Catalog.GoogleDocs.connector ∈ Catalog.all := by simp [Catalog.all]
  have h : Catalog.GoogleDocs.connector.ReplacesByBlank spacingEdit " " :=
    ⟨rfl, by decide +kernel, by decide +kernel, by decide +kernel, by decide⟩
  have hok : (Catalog.GoogleDocs.connector.prepare none spacingEdit).isOk = true := by
    decide +kernel
  refine ⟨hc, h, ?_⟩
  rcases ((blank_arguments_count_as_absent hc spacingEdit).2 " " h).2 none with
    ⟨refusal, -, hrefused⟩ | ⟨call, hcall, hpayload, -⟩
  · rw [hrefused] at hok
    cases hok
  · exact ⟨call, hcall, hpayload⟩

end ServiceCall

import Mathlib.Data.List.Basic
import ServiceCall.Proofs.Admission

/-!
# What a call looks at

A description of a service is data, so the arguments that a call looks at can be listed
(`Connector.reads`). This file proves the list complete: two tables of arguments that agree on it
lead to the same call (`Connector.prepare_congr`).

## Credentials apart

Credentials are looked at in two places only: whether they are there is checked, and what they hold
goes into the call's own credentials. Everything else a call looks at is `Connector.openReads`. Of
arguments that agree there and hold the same credentials, whatever their values, one and the same
call is built but for those values (`Connector.accept_congr`, `Connector.build_congr`).
-/

namespace ServiceCall

/-! ## Arguments left out -/

/-- The entries that pass a test. -/
def Table.filter {α : Type} (t : Table α) (p : String × α → Bool) : Table α :=
  ⟨t.entries.filter p, t.ascending.filter p⟩

theorem Table.get?_filter {α : Type} (t : Table α) (p : String × α → Bool) (k : String) :
    (t.filter p).get? k = (t.get? k).filter fun v ↦ p (k, v) := by
  refine Option.ext fun v ↦ ?_
  rw [get?_eq_some_iff, filter, List.mem_filter, Option.filter_eq_some_iff, get?_eq_some_iff]

namespace Args

/-- The arguments but for one. -/
def without (args : Args) (key : String) : Args :=
  ⟨⟨args.table.entries.filter (·.1 ≠ key), args.table.ascending.filter _⟩⟩

theorem get?_without (args : Args) (key k : String) :
    (args.without key).get? k = if k = key then none else args.get? k := by
  refine (args.table.get?_filter _ k).trans ?_
  rw [get?]
  by_cases hk : k = key
  · cases args.table.get? k <;> simp [hk]
  · cases args.table.get? k <;> simp [hk]

end Args

/-! ## The parts of a call -/

section Parts

variable {a b : Args}

theorem Piece.renderAll_congr {pieces : List Piece}
    (h : ∀ k ∈ Piece.reads pieces, a.present? k = b.present? k) :
    Piece.renderAll a pieces = Piece.renderAll b pieces := by
  have hpiece : ∀ p ∈ pieces, Piece.render a p = Piece.render b p := by
    intro p hp
    cases p with
    | text s => rfl
    | segment arg =>
      have harg : arg ∈ Piece.reads pieces := List.mem_filterMap.2 ⟨_, hp, rfl⟩
      rw [Piece.render, Piece.render, Args.text?_congr (h arg harg)]
  rw [Piece.renderAll, Piece.renderAll, List.map_congr_left hpiece]

theorem Base.render_congr {base : Base} (h : ∀ k ∈ base.reads, a.present? k = b.present? k) :
    base.render a = base.render b := by
  cases base with
  | fixed pieces => exact Piece.renderAll_congr h
  | named arg default rest =>
    rw [Base.render, Base.render, Args.string?_congr (h arg (by simp [Base.reads]))]

theorem Param.render?_congr {p : Param} (h : a.present? p.arg = b.present? p.arg) :
    p.render? a = p.render? b := by
  cases p with
  | query arg => exact congrArg (Option.map (arg, ·)) (Args.query?_congr h)
  | text arg name => exact congrArg (Option.map (name, ·)) (Args.text?_congr h)
  | textOr arg default => exact congrArg (fun t ↦ some (arg, t)) (Args.textOr_congr h default)

theorem Param.renderAll_congr {params : List Param}
    (h : ∀ k ∈ Param.reads params, a.present? k = b.present? k) :
    Param.renderAll a params = Param.renderAll b params :=
  List.filterMap_congr fun p hp ↦ Param.render?_congr (h p.arg (List.mem_map_of_mem hp))

theorem Requirement.checkNeeded_congr {r : Requirement}
    (h : a.present? r.name = b.present? r.name) : r.checkNeeded a = r.checkNeeded b := by
  rw [Requirement.checkNeeded, Requirement.checkNeeded, h]

theorem Requirement.checkOptional_congr {r : Requirement}
    (h : a.present? r.name = b.present? r.name) : r.checkOptional a = r.checkOptional b := by
  rw [Requirement.checkOptional, Requirement.checkOptional, h]

theorem checkEach_congr {α ε : Type} {check check' : α → Except ε Unit} {l : List α}
    (h : ∀ x ∈ l, check x = check' x) : checkEach check l = checkEach check' l := by
  induction l with
  | nil => rfl
  | cons x xs ih =>
    rw [checkEach, checkEach, h x List.mem_cons_self,
      ih fun y hy ↦ h y (List.mem_cons_of_mem x hy)]

theorem Credentials.Source.read_congr {source : Credentials.Source}
    (h : ∀ k ∈ source.reads, a.present? k = b.present? k) : source.read a = source.read b := by
  cases source with
  | basic username ending password =>
    rw [Source.read, Source.read, Args.textOr_congr (h username (by simp [Source.reads])),
      Args.textOr_congr (h password (by simp [Source.reads]))]
  | bearer token =>
    rw [Source.read, Source.read, Args.textOr_congr (h token (by simp [Source.reads]))]
  | serviceAccount key scopes subject =>
    rw [Source.read, Source.read, keyText, keyText,
      h key (by simp [Source.reads]),
      Args.text?_congr (h subject (by simp [Source.reads]))]

end Parts

namespace Operation

/-- The arguments of which an operation sees even a blank text. -/
def verbatims (op : Operation) : List String := (op.body.map Part.verbatimsAll).getD []

theorem mem_reads_of_mem_verbatims {op : Operation} {k : String} (h : k ∈ op.verbatims) :
    k ∈ op.reads := by
  rw [verbatims] at h
  cases hbody : op.body with
  | none => simp [hbody] at h
  | some parts =>
    have hk : k ∈ Part.verbatimsAll parts := by simpa [hbody] using h
    simp [reads, hbody, Part.mem_readsAll_of_mem_verbatimsAll parts hk]

variable {op : Operation} {a b : Args} (h : ∀ k ∈ op.reads, a.present? k = b.present? k)
include h

theorem check_congr : op.check a = op.check b := by
  have hrequired : ∀ r ∈ op.required, a.present? r.name = b.present? r.name := fun r hr ↦
    h r.name (by simp [reads, List.mem_map_of_mem hr])
  have hoptional : ∀ r ∈ op.optional, a.present? r.name = b.present? r.name := fun r hr ↦
    h r.name (by simp [reads, List.mem_map_of_mem hr])
  rw [check, check,
    checkEach_congr fun r hr ↦ Requirement.checkNeeded_congr (hrequired r hr),
    checkEach_congr fun r hr ↦ Requirement.checkOptional_congr (hoptional r hr)]

theorem path_congr : Piece.renderAll a op.path = Piece.renderAll b op.path :=
  Piece.renderAll_congr fun k hk ↦ h k (by simp [reads, hk])

theorem params_congr : op.params a = op.params b := by
  rw [params, params]
  cases hquery : op.query with
  | none => rfl
  | some params =>
    exact Param.renderAll_congr fun k hk ↦ h k (by simp [reads, hquery, hk])

theorem payload_congr (hv : ∀ k ∈ op.verbatims, a.verbatim k = b.verbatim k) :
    op.payload a = op.payload b := by
  rw [payload, payload]
  cases hbody : op.body with
  | none => rfl
  | some parts =>
    exact congrArg some (Part.applyAll_congr parts (fun k hk ↦ h k (by simp [reads, hbody, hk]))
      (fun k hk ↦ hv k (by simp [verbatims, hbody, hk])) _)

end Operation

namespace Connector

/-! ## Whole calls -/

/-- The arguments that a call looks at, apart from what holds the credentials. -/
def openReads (c : Connector) : List String :=
  "operation" :: c.connectionFields ++ c.base.reads ++
    c.operations.entries.flatMap fun e ↦ e.2.reads

variable {c : Connector} {a b : Args}

theorem reads_of_get? {name : String} {op : Operation} (hop : c.operations.get? name = some op)
    {k : String} (hk : k ∈ op.reads) : k ∈ c.openReads := by
  have hmem : k ∈ c.operations.entries.flatMap fun e ↦ e.2.reads :=
    List.mem_flatMap.2 ⟨(name, op), Table.get?_eq_some_iff.1 hop, hk⟩
  simp [openReads, hmem]

/-- Of the credentials, the checks see only whether they are there. -/
theorem accept_congr (h : ∀ k ∈ c.openReads, a.present? k = b.present? k)
    (hcred : ∀ f ∈ c.credentialFields, a.isPresent f = b.isPresent f) :
    c.accept a = c.accept b := by
  have hname : a.text? "operation" = b.text? "operation" :=
    Args.text?_congr (h "operation" (by simp [openReads]))
  have hconnection : checkEach (needField a) c.connectionFields
      = checkEach (needField b) c.connectionFields := by
    refine checkEach_congr fun f hf ↦ ?_
    rw [needField, needField, Args.isPresent_congr (h f (by simp [openReads, hf]))]
  have hcredential : checkEach (needCredential a) c.credentialFields
      = checkEach (needCredential b) c.credentialFields := by
    refine checkEach_congr fun f hf ↦ ?_
    rw [needCredential, needCredential, hcred f hf]
  rw [accept, accept, hname]
  cases b.text? "operation" with
  | none => rfl
  | some name =>
    dsimp only
    cases hop : c.operations.get? name with
    | none => rfl
    | some op =>
      dsimp only
      rw [hconnection, hcredential, Operation.check_congr fun k hk ↦ h k (reads_of_get? hop hk)]

/-- Of the credentials, a call holds nothing outside its own, and of blank texts nothing outside its
body. -/
theorem build_eq (h : ∀ k ∈ c.openReads, a.present? k = b.present? k) (base : Option String)
    {name : String} {op : Operation} (hop : c.operations.get? name = some op) :
    c.build base a name op = { c.build base b name op with
      payload := op.payload a
      credentials := c.credentials.read a } := by
  have hreads : ∀ k ∈ op.reads, a.present? k = b.present? k := fun k hk ↦ h k (reads_of_get? hop hk)
  have hbase : c.baseUrl base a = c.baseUrl base b := by
    cases base with
    | none => exact Base.render_congr fun k hk ↦ h k (by simp [openReads, hk])
    | some s => rfl
  simp only [build, hbase, Operation.path_congr hreads, Operation.params_congr hreads]

/-- Arguments that hold the same build the same body. -/
theorem build_congr (h : ∀ k ∈ c.openReads, a.get? k = b.get? k) (base : Option String)
    {name : String} {op : Operation} (hop : c.operations.get? name = some op) :
    c.build base a name op
      = { c.build base b name op with credentials := c.credentials.read a } := by
  have hget : ∀ k ∈ op.reads, a.get? k = b.get? k := fun k hk ↦ h k (reads_of_get? hop hk)
  have hpayload : op.payload a = op.payload b :=
    Operation.payload_congr (fun k hk ↦ Args.present?_congr (hget k hk)) fun k hk ↦
      Args.verbatim_congr (hget k (Operation.mem_reads_of_mem_verbatims hk))
  rw [build_eq (fun k hk ↦ Args.present?_congr (h k hk)) base hop, hpayload]
  rfl

theorem mem_reads_of_mem_openReads {k : String} (h : k ∈ c.openReads) : k ∈ c.reads := by
  simp only [openReads, List.cons_append, List.mem_cons, List.mem_append] at h
  rcases h with h | (h | h) | h <;> simp [reads, h]

/-- **A call depends on the arguments it reads and on nothing else.** -/
theorem prepare_congr (h : ∀ k ∈ c.reads, a.get? k = b.get? k) (base : Option String) :
    c.prepare base a = c.prepare base b := by
  have hopen : ∀ k ∈ c.openReads, a.get? k = b.get? k := fun k hk ↦
    h k (mem_reads_of_mem_openReads hk)
  have hcred : ∀ f ∈ c.credentialFields, a.isPresent f = b.isPresent f := fun f hf ↦
    Args.isPresent_congr (Args.present?_congr (h f (by simp [reads, hf])))
  -- Both builds are the second one, the first with its own credentials, which are the same.
  have hread : c.credentials.read a = c.credentials.read b :=
    Credentials.Source.read_congr fun k hk ↦ Args.present?_congr (h k (by simp [reads, hk]))
  rw [prepare_eq_map_accept, prepare_eq_map_accept,
    accept_congr (fun k hk ↦ Args.present?_congr (hopen k hk)) hcred]
  cases haccept : c.accept b with
  | error r => rfl
  | ok e =>
    rw [Except.map, Except.map, build_congr hopen base (accept_eq_ok_iff.1 haccept).2.1, hread]
    rfl

end Connector

end ServiceCall

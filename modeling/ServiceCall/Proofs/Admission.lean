import ServiceCall.Call
import ServiceCall.Proofs.Objects

/-!
# Which calls are accepted

A call is prepared in two steps: all checks are made (`Connector.accept`), and only then the request
is built (`Connector.build`). What is checked is written out here as one list of demands, in the
order in which they are made, and a call is refused for the first demand of that list that is not
met.

## Why a list

The checks sit in two functions and five loops. As a list they have one order, and "the first that
fails decides" is one statement about it (`prepare_eq_error_iff_first_unmet`), whatever the table of
operations, the lists of fields and the conditions on them are.
-/

namespace ServiceCall

/-! ## Running checks one after the other -/

/-- What is computed from a result is computed from one that there is. -/
theorem exists_eq_ok_of_toOption {α β ε : Type} {x : Except ε α} {f : α → β} {b : β}
    (h : x.toOption.map f = some b) : ∃ a, x = .ok a ∧ f a = b := by
  cases x with
  | error e => cases h
  | ok a => exact ⟨a, rfl, Option.some.inj h⟩

section CheckEach

variable {α β ε : Type} {check : α → Except ε Unit}

theorem checkEach_append (l m : List α) :
    checkEach check (l ++ m) = checkEach check l >>= fun _ ↦ checkEach check m := by
  induction l with
  | nil => rfl
  | cons x xs ih =>
    rw [List.cons_append, checkEach, checkEach]
    cases check x with
    | error e => rfl
    | ok u => exact ih

theorem checkEach_map (f : β → α) (l : List β) :
    checkEach check (l.map f) = checkEach (fun x ↦ check (f x)) l := by
  induction l with
  | nil => rfl
  | cons x xs ih => rw [List.map_cons, checkEach, checkEach, ih]

/-- Several checks for each element amount to one check for each element. -/
theorem checkEach_flatMap {check' : β → Except ε Unit} {f : β → List α}
    (h : ∀ x, checkEach check (f x) = check' x) (l : List β) :
    checkEach check (l.flatMap f) = checkEach check' l := by
  induction l with
  | nil => rfl
  | cons x xs ih =>
    rw [List.flatMap_cons, checkEach_append, h, ih, checkEach]
    cases check' x <;> rfl

end CheckEach

namespace Connector

/-! ## Checks first, the call afterwards -/

/-- Makes all checks, and finds the operation that is named. -/
def accept (c : Connector) (args : Args) : Except Refusal (String × Operation) :=
  match args.text? "operation" with
  | none => .error (.missing "operation")
  | some name =>
    match c.operations.get? name with
    | none => .error (.unsupported name)
    | some op => do
      checkEach (needField args) c.connectionFields
      checkEach (needCredential args) c.credentialFields
      op.check args
      return (name, op)

/-- The call for an operation whose checks have passed. -/
def build (c : Connector) (base : Option String) (args : Args) (name : String) (op : Operation) :
    Call where
  operation := name
  method := op.method
  url := c.baseUrl base args ++ Piece.renderAll args op.path
  params := op.params args
  payload := op.payload args
  credentials := c.credentials.read args

theorem prepare_eq_map_accept (c : Connector) (base : Option String) (args : Args) :
    c.prepare base args = (c.accept args).map fun e ↦ c.build base args e.1 e.2 := by
  rw [prepare, accept]
  cases args.text? "operation" with
  | none => rfl
  | some name =>
    dsimp only
    cases c.operations.get? name with
    | none => rfl
    | some op =>
      dsimp only
      cases checkEach (needField args) c.connectionFields with
      | error e => rfl
      | ok u =>
        cases checkEach (needCredential args) c.credentialFields with
        | error e => rfl
        | ok u =>
          simp only [bind, Except.bind]
          cases op.check args <;> rfl

theorem prepare_eq_ok_iff {c : Connector} {base : Option String} {args : Args} {call : Call} :
    c.prepare base args = .ok call ↔
      ∃ name op, c.accept args = .ok (name, op) ∧ c.build base args name op = call := by
  rw [prepare_eq_map_accept]
  cases c.accept args with
  | error r => simp [Except.map]
  | ok e =>
    simp only [Except.map, Except.ok.injEq]
    exact ⟨fun h ↦ ⟨e.1, e.2, rfl, h⟩, fun ⟨_, _, he, h⟩ ↦ by rw [he]; exact h⟩

theorem prepare_eq_error_iff {c : Connector} {base : Option String} {args : Args} {r : Refusal} :
    c.prepare base args = .error r ↔ c.accept args = .error r := by
  rw [prepare_eq_map_accept]
  cases c.accept args with
  | error r => simp [Except.map]
  | ok e => simp [Except.map]

end Connector

/-! ## Demands

A demand is one condition on the arguments, together with what is said when it is not met: a status,
a message and, unless it is a matter of authorization, the argument to blame. -/

inductive Demand where
  /-- The operation is named by an argument that has a text. -/
  | named
  /-- The service offers the operation of that name. -/
  | offered (operation : String)
  /-- The service can be addressed. -/
  | connection (field : String)
  /-- The call can be authorized. -/
  | credential (field : String)
  /-- An argument that the operation needs is there. -/
  | supplied (field : String)
  /-- An argument satisfies its condition, if it is there. -/
  | accepted (r : Requirement)

namespace Demand

def isMet (c : Connector) (args : Args) : Demand → Bool
  | named => (args.text? "operation").isSome
  | offered operation => c.operations.contains operation
  | connection field | credential field | supplied field => args.isPresent field
  | accepted r => ((args.present? r.name).map r.admits).getD true

def message : Demand → String
  | named => "Missing required operation"
  | offered operation => "Unsupported operation: " ++ operation
  | connection field | supplied field => "Missing required " ++ field
  | credential field => "Missing credentials: " ++ field
  | accepted r => "Invalid " ++ r.name

def status : Demand → UInt16
  | credential _ => 401
  | _ => 400

/-- The argument to blame. -/
def field? : Demand → Option String
  | named | offered _ => some "operation"
  | connection field | supplied field => some field
  | credential _ => none
  | accepted r => some r.name

def refusal : Demand → Refusal
  | named => .missing "operation"
  | offered operation => .unsupported operation
  | connection field | supplied field => .missing field
  | credential field => .noCredential field
  | accepted r => .invalid r.name

/-- The refusal for a demand carries its status, its message and the argument to blame. -/
theorem envelope_refusal (d : Demand) :
    d.refusal.envelope.status = some d.status ∧
      d.refusal.envelope.errorMessage? = some d.message ∧
      d.refusal.envelope.output.field? "field" = d.field?.map .str := by
  cases d with
  | credential field =>
    exact ⟨rfl, Envelope.errorMessage?_failure .., Envelope.field?_failure ..⟩
  | named | offered operation | connection field | supplied field | accepted r =>
    exact ⟨rfl, Envelope.errorMessage?_badInput .., Envelope.field?_badInput ..⟩

def check (c : Connector) (args : Args) (d : Demand) : Except Refusal Unit :=
  if d.isMet c args then .ok () else .error d.refusal

theorem check_eq_ok_iff {c : Connector} {args : Args} {d : Demand} :
    d.check c args = .ok () ↔ d.isMet c args = true := by
  unfold check
  cases d.isMet c args <;> simp

theorem check_eq_error_iff {c : Connector} {args : Args} {d : Demand} {r : Refusal} :
    d.check c args = .error r ↔ d.isMet c args = false ∧ d.refusal = r := by
  unfold check
  cases d.isMet c args <;> simp

end Demand

/-! ## The order of the demands -/

/-- What an operation demands: of each needed argument that it is there and then that it is
accepted, and afterwards that the optional ones are accepted. -/
def Operation.demands (op : Operation) : List Demand :=
  op.required.flatMap (fun r ↦ [.supplied r.name, .accepted r]) ++ op.optional.map .accepted

theorem Operation.checkEach_demands (c : Connector) (args : Args) (op : Operation) :
    checkEach (Demand.check c args) op.demands = op.check args := by
  have hneeded (r : Requirement) :
      checkEach (Demand.check c args) [.supplied r.name, .accepted r] = r.checkNeeded args := by
    unfold Requirement.checkNeeded
    cases hv : args.present? r.name with
    | none => simp [checkEach, Demand.check, Demand.isMet, Demand.refusal, Args.isPresent, hv]
    | some v =>
      cases ha : r.admits v <;>
        simp [checkEach, Demand.check, Demand.isMet, Demand.refusal, Args.isPresent, hv, ha]
  have hoptional (r : Requirement) : Demand.check c args (.accepted r) = r.checkOptional args := by
    unfold Requirement.checkOptional
    cases hv : args.present? r.name <;> simp [Demand.check, Demand.isMet, Demand.refusal, hv]
  rw [demands, checkEach_append, checkEach_flatMap hneeded, checkEach_map, funext hoptional]
  rfl

/-- What an operation needs is there and accepted once its checks have passed. -/
theorem Operation.exists_present_of_check {op : Operation} {args : Args}
    (hcheck : op.check args = .ok ()) {r : Requirement} (hr : r ∈ op.required) :
    ∃ v, args.present? r.name = some v ∧ r.admits v = true :=
  Requirement.checkNeeded_eq_ok_iff.1 ((check_eq_ok_iff.1 hcheck).1 r hr)

namespace Connector

/-- The operation that the arguments name, if the service offers it. -/
def operation? (c : Connector) (args : Args) : Option Operation :=
  (args.text? "operation").bind c.operations.get?

/-- What a call demands of its arguments, in the order in which it is checked. -/
def demands (c : Connector) (args : Args) : List Demand :=
  [.named] ++ ((args.text? "operation").map Demand.offered).toList ++
    c.connectionFields.map .connection ++ c.credentialFields.map .credential ++
    ((c.operation? args).map Operation.demands).getD []

theorem checkEach_demands (c : Connector) (args : Args) :
    checkEach (Demand.check c args) (c.demands args) = (c.accept args).map fun _ ↦ () := by
  have hconnection : checkEach (Demand.check c args) (c.connectionFields.map .connection)
      = checkEach (needField args) c.connectionFields := checkEach_map ..
  have hcredential : checkEach (Demand.check c args) (c.credentialFields.map .credential)
      = checkEach (needCredential args) c.credentialFields := checkEach_map ..
  simp only [demands, operation?, accept, checkEach_append, hconnection, hcredential]
  cases hname : args.text? "operation" with
  | none => simp [checkEach, Demand.check, Demand.isMet, Demand.refusal, hname, bind, Except.bind,
      Except.map]
  | some name =>
    cases hop : c.operations.get? name with
    | none => simp [checkEach, Demand.check, Demand.isMet, Demand.refusal, hname, hop,
        Table.contains, bind, Except.bind, Except.map]
    | some op =>
      simp only [checkEach, Demand.check, Demand.isMet, hname, hop, Table.contains,
        Option.map_some, Option.toList_some, Option.bind_some, Option.getD_some,
        Option.isSome_some, if_true, Operation.checkEach_demands, bind, Except.bind, pure,
        Except.pure]
      cases checkEach (needField args) c.connectionFields with
      | error r => rfl
      | ok u =>
        cases checkEach (needCredential args) c.credentialFields with
        | error r => rfl
        | ok u => cases op.check args <;> rfl

theorem accept_eq_error_iff {c : Connector} {args : Args} {r : Refusal} :
    c.accept args = .error r ↔ checkEach (Demand.check c args) (c.demands args) = .error r := by
  rw [checkEach_demands]
  cases c.accept args <;> simp [Except.map]

theorem checkEach_needField_eq_ok_iff {args : Args} {fields : List String} :
    checkEach (needField args) fields = .ok () ↔ ∀ f ∈ fields, args.isPresent f = true := by
  simp [checkEach_eq_ok_iff, needField]

theorem checkEach_needCredential_eq_ok_iff {args : Args} {fields : List String} :
    checkEach (needCredential args) fields = .ok () ↔ ∀ f ∈ fields, args.isPresent f = true := by
  simp [checkEach_eq_ok_iff, needCredential]

theorem accept_eq_ok_iff {c : Connector} {args : Args} {name : String} {op : Operation} :
    c.accept args = .ok (name, op) ↔
      args.text? "operation" = some name ∧ c.operations.get? name = some op ∧
        (∀ f ∈ c.connectionFields, args.isPresent f = true) ∧
        (∀ f ∈ c.credentialFields, args.isPresent f = true) ∧ op.check args = .ok () := by
  rw [← checkEach_needField_eq_ok_iff, ← checkEach_needCredential_eq_ok_iff]
  constructor
  · intro h
    unfold accept at h
    split at h
    · cases h
    · rename_i name' hname
      split at h
      · cases h
      · rename_i op' hop
        obtain ⟨_, hconnection, h⟩ := bind_eq_ok_iff.1 h
        obtain ⟨_, hcredential, h⟩ := bind_eq_ok_iff.1 h
        obtain ⟨_, hcheck, h⟩ := bind_eq_ok_iff.1 h
        cases h
        exact ⟨hname, hop, hconnection, hcredential, hcheck⟩
  · rintro ⟨hname, hop, hconnection, hcredential, hcheck⟩
    unfold accept
    simp only [hname, hop, hconnection, hcredential, hcheck]
    rfl

/-! ## Acceptance, and the refusal -/

theorem prepare_isOk_iff {c : Connector} {base : Option String} {args : Args} :
    (∃ call, c.prepare base args = .ok call) ↔
      ∃ name op, args.text? "operation" = some name ∧ c.operations.get? name = some op ∧
        (∀ f ∈ c.connectionFields, args.isPresent f = true) ∧
        (∀ f ∈ c.credentialFields, args.isPresent f = true) ∧ op.check args = .ok () := by
  constructor
  · rintro ⟨call, h⟩
    obtain ⟨name, op, haccept, -⟩ := prepare_eq_ok_iff.1 h
    exact ⟨name, op, accept_eq_ok_iff.1 haccept⟩
  · rintro ⟨name, op, h⟩
    exact ⟨_, prepare_eq_ok_iff.2 ⟨name, op, accept_eq_ok_iff.2 h, rfl⟩⟩

/-- A call is refused for its first demand that is not met. -/
theorem prepare_eq_error_iff_first_unmet {c : Connector} {base : Option String} {args : Args}
    {r : Refusal} :
    c.prepare base args = .error r ↔
      ∃ before d after, c.demands args = before ++ d :: after ∧
        (∀ m ∈ before, m.isMet c args = true) ∧ d.isMet c args = false ∧ d.refusal = r := by
  rw [prepare_eq_error_iff, accept_eq_error_iff, checkEach_eq_error_iff]
  simp only [Demand.check_eq_ok_iff, Demand.check_eq_error_iff]

/-- **What decides whether a call is made.** The operation is named and offered, every argument that
addresses the service or holds a credential is present, and the operation accepts its own arguments.
Otherwise the first demand that is not met is reported, and nothing of the later ones. -/
theorem prepare_settled_by_first_unmet_demand (c : Connector) (base : Option String)
    (args : Args) :
    ((∃ call, c.prepare base args = .ok call) ↔
      ∃ name op, args.text? "operation" = some name ∧ c.operations.get? name = some op ∧
        (∀ f ∈ c.connectionFields, args.isPresent f = true) ∧
        (∀ f ∈ c.credentialFields, args.isPresent f = true) ∧
        (∀ r ∈ op.required, ∃ v, args.present? r.name = some v ∧ r.admits v = true) ∧
        ∀ r ∈ op.optional, ∀ v, args.present? r.name = some v → r.admits v = true) ∧
    ∀ refusal, c.prepare base args = .error refusal ↔
      ∃ before d after, c.demands args = before ++ d :: after ∧
        (∀ m ∈ before, m.isMet c args = true) ∧ d.isMet c args = false ∧ d.refusal = refusal ∧
        refusal.envelope.status = some d.status ∧
        refusal.envelope.errorMessage? = some d.message ∧
        refusal.envelope.output.field? "field" = d.field?.map .str := by
  constructor
  · simp only [prepare_isOk_iff, Operation.check_eq_ok_iff, Requirement.checkNeeded_eq_ok_iff,
      Requirement.checkOptional_eq_ok_iff]
  · intro refusal
    rw [prepare_eq_error_iff_first_unmet]
    constructor
    · rintro ⟨before, d, after, horder, hmet, hunmet, rfl⟩
      exact ⟨before, d, after, horder, hmet, hunmet, rfl, d.envelope_refusal⟩
    · rintro ⟨before, d, after, horder, hmet, hunmet, hrefusal, -⟩
      exact ⟨before, d, after, horder, hmet, hunmet, hrefusal⟩

end Connector

end ServiceCall

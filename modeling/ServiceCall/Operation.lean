import ServiceCall.Http.Method
import ServiceCall.Operation.Body
import ServiceCall.Operation.Path
import ServiceCall.Operation.Query
import ServiceCall.Refusal

/-!
# Operations

An operation says how one action of a service is called: the method, the path, which arguments it
needs, which ones it checks when they are supplied, and what query and body it builds from them.

Requirements are tried in the order in which they are declared, needed ones before optional ones,
and the first that fails is the one reported. An operation without a body is told apart from one
whose body came out empty.
-/

namespace ServiceCall

/-- An argument that an operation looks at before a call is made. -/
structure Requirement where
  name : String
  /-- What a present value has to satisfy. -/
  accepts : Option (Json → Bool)

namespace Requirement

/-- Whether a present value passes. -/
def admits (r : Requirement) (value : Json) : Bool :=
  match r.accepts with
  | none => true
  | some accepts => accepts value

/-- The argument must be there and pass. -/
def checkNeeded (args : Args) (r : Requirement) : Except Refusal Unit :=
  match args.present? r.name with
  | none => .error (.missing r.name)
  | some value => if r.admits value then .ok () else .error (.invalid r.name)

/-- The argument must pass if it is there. -/
def checkOptional (args : Args) (r : Requirement) : Except Refusal Unit :=
  match args.present? r.name with
  | none => .ok ()
  | some value => if r.admits value then .ok () else .error (.invalid r.name)

theorem checkNeeded_eq_ok_iff {args : Args} {r : Requirement} :
    r.checkNeeded args = .ok () ↔ ∃ v, args.present? r.name = some v ∧ r.admits v = true := by
  unfold checkNeeded
  cases args.present? r.name <;> simp

theorem checkOptional_eq_ok_iff {args : Args} {r : Requirement} :
    r.checkOptional args = .ok () ↔ ∀ v, args.present? r.name = some v → r.admits v = true := by
  unfold checkOptional
  cases args.present? r.name <;> simp

def describe (r : Requirement) : String :=
  Text.Description.record "RequiredField" [("name", Text.Description.quote r.name),
    ("predicate", Text.Description.bool r.accepts.isSome)] false

end Requirement

/-- Runs the checks one after the other, up to the first that fails. -/
def checkEach {α ε : Type} (check : α → Except ε Unit) : List α → Except ε Unit
  | [] => .ok ()
  | x :: xs =>
    match check x with
    | .error e => .error e
    | .ok () => checkEach check xs

theorem checkEach_eq_ok_iff {α ε : Type} {check : α → Except ε Unit} {l : List α} :
    checkEach check l = .ok () ↔ ∀ x ∈ l, check x = .ok () := by
  induction l with
  | nil => simp [checkEach]
  | cons x xs ih =>
    rw [checkEach]
    cases h : check x <;> simp [h, ih]

/-- The fault reported is that of the first check that fails. -/
theorem checkEach_eq_error_iff {α ε : Type} {check : α → Except ε Unit} {l : List α} {e : ε} :
    checkEach check l = .error e ↔
      ∃ before x after, l = before ++ x :: after ∧ (∀ y ∈ before, check y = .ok ()) ∧
        check x = .error e := by
  induction l with
  | nil => simp [checkEach]
  | cons d ds ih =>
    rw [checkEach]
    cases h : check d with
    | error f =>
      constructor
      · intro he
        exact ⟨[], d, ds, rfl, by simp, by rw [h]; exact he⟩
      · rintro ⟨before, x, after, hl, hok, hx⟩
        cases before with
        | nil => simp_all
        | cons b before =>
          simp only [List.cons_append, List.cons.injEq] at hl
          have := hok b List.mem_cons_self
          rw [← hl.1, h] at this
          cases this
    | ok u =>
      simp only [ih]
      constructor
      · rintro ⟨before, x, after, hl, hok, hx⟩
        refine ⟨d :: before, x, after, by rw [hl]; rfl, fun y hy ↦ ?_, hx⟩
        rcases List.mem_cons.1 hy with rfl | hy
        · exact h
        · exact hok y hy
      · rintro ⟨before, x, after, hl, hok, hx⟩
        cases before with
        | nil =>
          simp only [List.nil_append, List.cons.injEq] at hl
          rw [← hl.1, h] at hx
          cases hx
        | cons b before =>
          simp only [List.cons_append, List.cons.injEq] at hl
          exact ⟨before, x, after, hl.2, fun y hy ↦ hok y (List.mem_cons_of_mem _ hy), hx⟩

structure Operation where
  method : Http.Method
  path : List Piece
  /-- The arguments it needs. -/
  required : List Requirement := []
  /-- The arguments it checks when they are supplied. -/
  optional : List Requirement := []
  query : Option (List Param) := none
  body : Option (List Part) := none

/-- The operations of a service under their names. -/
abbrev Operations := Table Operation

namespace Operation

/-! ## Declaring operations -/

/-- Needs nothing, and sends neither query nor body. -/
def plain (method : Http.Method) (path : List Piece) : Operation := { method, path }

/-- Needs the arguments, whatever they hold. -/
def needs (op : Operation) (names : List String) : Operation :=
  { op with required := op.required ++ names.map (⟨·, none⟩) }

def needsThat (op : Operation) (name : String) (accepts : Json → Bool) : Operation :=
  { op with required := op.required ++ [⟨name, some accepts⟩] }

/-- Refuses the argument when it is supplied and not accepted. -/
def checks (op : Operation) (name : String) (accepts : Json → Bool) : Operation :=
  { op with optional := op.optional ++ [⟨name, some accepts⟩] }

def checksQuery (op : Operation) (names : List String) : Operation :=
  { op with optional := op.optional ++ names.map (⟨·, some Json.hasQueryForm⟩) }

def sends (op : Operation) (params : List Param) : Operation := { op with query := some params }

/-- Arguments sent in the query under their own names. One that has no query form is refused rather
than dropped. -/
def withQuery (op : Operation) (names : List String) : Operation :=
  (op.checksQuery names).sends (names.map .query)

def withBody (op : Operation) (parts : List Part) : Operation := { op with body := some parts }

/-! ## Using them -/

/-- The arguments that an operation would refuse. -/
def check (op : Operation) (args : Args) : Except Refusal Unit := do
  checkEach (Requirement.checkNeeded args) op.required
  checkEach (Requirement.checkOptional args) op.optional

def payload (op : Operation) (args : Args) : Option Payload := op.body.map (Part.build · args)

def params (op : Operation) (args : Args) : List (String × String) :=
  (op.query.map (Param.renderAll args)).getD []

theorem check_eq_ok_iff {op : Operation} {args : Args} :
    op.check args = .ok () ↔
      (∀ r ∈ op.required, r.checkNeeded args = .ok ()) ∧
        ∀ r ∈ op.optional, r.checkOptional args = .ok () := by
  rw [← checkEach_eq_ok_iff, ← checkEach_eq_ok_iff]
  unfold check
  cases checkEach (Requirement.checkNeeded args) op.required <;> simp [bind, Except.bind]

def describe (op : Operation) : String :=
  let requirements (rs : List Requirement) := Text.Description.list (rs.map Requirement.describe)
  Text.Description.record "OperationDefinition" [("method", op.method.describe),
    ("required", requirements op.required), ("builder", Text.Description.bool op.body.isSome),
    ("params", Text.Description.bool op.query.isSome), ("optional", requirements op.optional)] true

end Operation

/-- Checks the arguments against the named operation and builds its body. -/
def Operations.validate (operations : Operations) (name : String) (args : Args) :
    Except Refusal (Option Payload) :=
  match operations.get? name with
  | none => .error (.unsupported name)
  | some op => (op.check args).map fun _ ↦ op.payload args

end ServiceCall

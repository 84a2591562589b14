import ServiceCall.Catalog
import ServiceCall.Proofs.Admission
import ServiceCall.Proofs.Presence

/-!
# What a body holds

A body is to hold what the caller supplied and nothing else. For most operations this can be said
key by key: an argument of a known name is there if it is present, unchanged, and no other key is
(`Args.IsCopied`). Other bodies have fixed keys, defaults and objects inside, and of those it can
still be said that nothing in them is null or blank (`Json.FilledAlong`). Only a record is passed on
as the object that it came in, whatever that holds.

## A check for the steps

Whether the steps of a body keep null and blank out can be told from the steps alone, without any
arguments (`Part.fillsAlong`). The check is proved sound once, by induction over the steps
(`Part.filledAlong_applyAll`), and run over the catalog.
-/

namespace ServiceCall

/-! ## Copies -/

/-- What the table holds under the key is the argument of that name, unchanged, if the name is one
of these and the argument is present, and otherwise nothing. -/
def Args.IsCopied (args : Args) (names : List String) (t : Table Json) (key : String) : Prop :=
  ∀ v, t.get? key = some v ↔ key ∈ names ∧ args.present? key = some v

namespace Part

variable {args : Args} {payload : Payload} {k : String}

theorem get?_addOption (key : String) (o : Option Json) :
    (addOption payload key o).get? k
      = if k = key then o.or (payload.get? k) else payload.get? k := by
  cases o with
  | none => rw [addOption, Option.none_or, ite_self]
  | some v => rw [addOption, Table.get?_insert, Option.some_or]

theorem get?_apply_copy (arg key : String) :
    (apply args payload (copy arg key)).get? k
      = if k = key then (args.present? arg).or (payload.get? k) else payload.get? k := by
  rw [apply, get?_addOption]

theorem get?_applyAll_copies (names : List String) :
    (applyAll args payload (copies names)).get? k
      = if k ∈ names then (args.present? k).or (payload.get? k) else payload.get? k := by
  induction names generalizing payload with
  | nil => rw [copies, List.map_nil, applyAll, if_neg List.not_mem_nil]
  | cons name names ih =>
    have hcons : copies (name :: names) = copy name name :: copies names := rfl
    rw [hcons, applyAll, ih, get?_apply_copy]
    by_cases hk : k = name
    · -- Copying an argument twice is the same as copying it once.
      subst hk
      rw [if_pos rfl, if_pos List.mem_cons_self]
      split
      · cases args.present? k <;> rfl
      · rfl
    · have hmem : k ∈ name :: names ↔ k ∈ names := by simp [hk]
      rw [if_neg hk]
      simp only [hmem]

theorem isCopied_copies (names : List String) (key : String) :
    args.IsCopied names (build (copies names) args) key := by
  intro v
  rw [build, get?_applyAll_copies, Table.get?_empty, Option.or_none]
  split
  · rename_i hkey
    exact ⟨fun h ↦ ⟨hkey, h⟩, fun h ↦ h.2⟩
  · rename_i hkey
    exact ⟨fun h ↦ (by cases h), fun h ↦ absurd h.1 hkey⟩

/-- A step among the copies that leaves the key alone does not matter for it. -/
theorem isCopied_around {p : Part} {key : String}
    (hp : ∀ payload, (apply args payload p).get? key = payload.get? key)
    (front back : List String) :
    args.IsCopied (front ++ back) (build (copies front ++ p :: copies back) args) key := by
  have hall : (build (copies front ++ p :: copies back) args).get? key
      = (build (copies (front ++ back)) args).get? key := by
    have hcopies : copies (front ++ back) = copies front ++ copies back := List.map_append
    rw [build, build, hcopies, applyAll_append, applyAll_append, applyAll, get?_applyAll_copies,
      get?_applyAll_copies, hp]
  intro v
  rw [hall]
  exact isCopied_copies (front ++ back) key v

theorem build_object (key : String) (parts : List Part) :
    build [object key parts] args = Table.empty.insert key (.ofTable (build parts args)) := by
  simp only [build, applyAll, apply]

end Part

/-! ## Objects without null and blank -/

namespace Json

/-- The objects that a value stands for: those of a list, or itself. -/
def elements : Json → List Json
  | arr items => items
  | v => [v]

/-- Nothing in the object is null or blank. -/
def IsFilled (v : Json) : Prop := ∀ key w, v.field? key = some w → w.isPresent = true

/-- Nothing in the object is null or blank, nor in those to which the path leads from it. -/
def FilledAlong : List String → Json → Prop
  | [], v => v.IsFilled
  | key :: path, v =>
    v.IsFilled ∧ ∀ inner, v.field? key = some inner → ∀ w ∈ inner.elements, FilledAlong path w

theorem filledAlong_of_field?_eq_none {v : Json} (h : ∀ key, v.field? key = none)
    (path : List String) : v.FilledAlong path := by
  have hfilled : v.IsFilled := by
    intro key w hw
    rw [h] at hw
    cases hw
  cases path with
  | nil => exact hfilled
  | cons key path =>
    refine ⟨hfilled, fun inner hinner ↦ ?_⟩
    rw [h] at hinner
    cases hinner

section Insert

variable {t : Table Json} {key : String} {v : Json}

theorem IsFilled.insert (h : (ofTable t).IsFilled) (hv : v.isPresent = true) :
    (ofTable (t.insert key v)).IsFilled := by
  intro k w hw
  rw [field?_ofTable, Table.get?_insert] at hw
  by_cases hk : k = key
  · rw [if_pos hk, Option.some.injEq] at hw
    exact hw ▸ hv
  · rw [if_neg hk] at hw
    exact h k w hw

/-- An entry can be put in that is neither null nor blank. At the start of the path, its own objects
have to be filled along the rest of the path. -/
theorem FilledAlong.insert {path : List String} (h : (ofTable t).FilledAlong path)
    (hv : v.isPresent = true)
    (hinner : path.head? = some key → ∀ w ∈ v.elements, w.FilledAlong path.tail) :
    (ofTable (t.insert key v)).FilledAlong path := by
  cases path with
  | nil => exact IsFilled.insert h hv
  | cons start path =>
    refine ⟨h.1.insert hv, fun inner hget ↦ ?_⟩
    rw [field?_ofTable, Table.get?_insert] at hget
    by_cases hstart : start = key
    · rw [if_pos hstart, Option.some.injEq] at hget
      exact hget ▸ hinner (congrArg some hstart)
    · rw [if_neg hstart] at hget
      exact h.2 inner hget

end Insert

end Json

namespace Part

open Json (ofTable)

/-! ## The check and its soundness -/

mutual

/-- A step puts nothing null or blank into the object, nor into those along the path. At the start
of the path it puts only objects of which it can be told. -/
def fillsAlong : Part → List String → Bool
  | copy _ key, path | copyList _ key, path | rows _ _ key, path => path.head? ≠ some key
  | copyOr _ key value, path | const key value, path => value.isPresent && path.head? ≠ some key
  | text _ _ default, _ => !Text.isBlank default
  | verbatim .., _ => false
  | flag .., _ => true
  | object key parts, path | single key parts, path =>
    path.head? ≠ some key || fillsAllAlong parts path.tail
  | ifPresent _ parts, path | ifText _ parts, path => fillsAllAlong parts path
  | presentEntries _, path => path.isEmpty
  | entries _, _ => false

def fillsAllAlong : List Part → List String → Bool
  | [], _ => true
  | p :: parts, path => fillsAlong p path && fillsAllAlong parts path

end

variable {args : Args}

theorem filledAlong_addOption {path : List String} {payload : Payload} {key : String}
    {o : Option Json} (hp : (ofTable payload).FilledAlong path)
    (ho : ∀ v, o = some v → v.isPresent = true) (hkey : path.head? ≠ some key) :
    (ofTable (addOption payload key o)).FilledAlong path := by
  cases o with
  | none => exact hp
  | some v => exact hp.insert (ho v rfl) fun hstart ↦ absurd hstart hkey

theorem isFilled_addAll {payload : Payload} {fields : List (String × Json)}
    (hp : (ofTable payload).IsFilled)
    (h : ∀ e ∈ fields, e.2.isPresent = true) : (ofTable (addAll payload fields)).IsFilled := by
  induction fields generalizing payload with
  | nil => exact hp
  | cons e fields ih =>
    have hinsert : (ofTable (payload.insert e.1 e.2)).IsFilled :=
      hp.insert (h e List.mem_cons_self)
    exact ih hinsert fun e' he' ↦ h e' (List.mem_cons_of_mem e he')

theorem filledAlong_empty (path : List String) : (ofTable .empty).FilledAlong path :=
  Json.filledAlong_of_field?_eq_none (fun _ ↦ rfl) path

theorem isPresent_of_present? {arg : String} {v : Json} (h : args.present? arg = some v) :
    v.isPresent = true := (Args.present?_eq_some_iff.1 h).2

mutual

theorem filledAlong_apply {path : List String} {payload : Payload} (p : Part)
    (h : p.fillsAlong path = true)
    (hp : (ofTable payload).FilledAlong path) :
    (ofTable (apply args payload p)).FilledAlong path := by
  cases p with
  | copy arg key =>
    have hkey : path.head? ≠ some key := by simpa [fillsAlong] using h
    rw [apply]
    exact filledAlong_addOption hp (fun v hv ↦ isPresent_of_present? hv) hkey
  | copyList arg key =>
    have hkey : path.head? ≠ some key := by simpa [fillsAlong] using h
    rw [apply]
    refine filledAlong_addOption hp (fun v hv ↦ ?_) hkey
    exact isPresent_of_present? (Option.filter_eq_some_iff.1 hv).1
  | copyOr arg key default =>
    obtain ⟨hdefault, hkey⟩ : default.isPresent = true ∧ path.head? ≠ some key := by
      simpa [fillsAlong] using h
    rw [apply]
    refine hp.insert ?_ fun hstart ↦ absurd hstart hkey
    cases hv : args.present? arg with
    | none => exact hdefault
    | some v => exact isPresent_of_present? hv
  | const key value =>
    obtain ⟨hvalue, hkey⟩ : value.isPresent = true ∧ path.head? ≠ some key := by
      simpa [fillsAlong] using h
    rw [apply]
    exact hp.insert hvalue fun hstart ↦ absurd hstart hkey
  | text arg key default =>
    have hdefault : Text.isBlank default = false := by simpa [fillsAlong] using h
    have hpresent : (Json.str (args.textOr arg default)).isPresent = true := by
      rw [Json.isPresent, Args.isBlank_textOr hdefault, Bool.not_false]
    rw [apply]
    refine hp.insert hpresent fun _ w hw ↦ ?_
    rw [List.mem_singleton.1 hw]
    exact Json.filledAlong_of_field?_eq_none (fun _ ↦ rfl) _
  | flag arg key =>
    rw [apply]
    refine hp.insert rfl fun _ w hw ↦ ?_
    rw [List.mem_singleton.1 hw]
    exact Json.filledAlong_of_field?_eq_none (fun _ ↦ rfl) _
  | rows arg idArg key =>
    have hkey : path.head? ≠ some key := by simpa [fillsAlong] using h
    rw [apply]
    exact hp.insert rfl fun hstart ↦ absurd hstart hkey
  | object key parts =>
    -- The object put in is built by steps of its own, from nothing.
    rw [apply]
    refine hp.insert rfl fun hstart w hw ↦ ?_
    have hparts : fillsAllAlong parts path.tail = true := by simpa [fillsAlong, hstart] using h
    rw [List.mem_singleton.1 hw]
    exact filledAlong_applyAll parts hparts (filledAlong_empty _)
  | single key parts =>
    rw [apply]
    refine hp.insert rfl fun hstart w hw ↦ ?_
    have hparts : fillsAllAlong parts path.tail = true := by simpa [fillsAlong, hstart] using h
    rw [List.mem_singleton.1 hw]
    exact filledAlong_applyAll parts hparts (filledAlong_empty _)
  | ifPresent arg parts =>
    rw [apply]
    split
    · exact filledAlong_applyAll parts (by simpa [fillsAlong] using h) hp
    · exact hp
  | ifText arg parts =>
    rw [apply]
    split
    · exact filledAlong_applyAll parts (by simpa [fillsAlong] using h) hp
    · exact hp
  | presentEntries arg =>
    obtain rfl : path = [] := by simpa [fillsAlong] using h
    rw [apply]
    exact isFilled_addAll hp fun e he ↦ (List.mem_filter.1 he).2
  | verbatim arg key => cases h
  | entries arg => cases h

/-- Steps that pass the check keep null and blank out, whatever the arguments are. -/
theorem filledAlong_applyAll {path : List String} {payload : Payload} (parts : List Part)
    (h : fillsAllAlong parts path = true) (hp : (ofTable payload).FilledAlong path) :
    (ofTable (applyAll args payload parts)).FilledAlong path := by
  match parts with
  | [] => exact hp
  | p :: ps =>
    rw [fillsAllAlong, Bool.and_eq_true] at h
    rw [applyAll]
    exact filledAlong_applyAll ps h.2 (filledAlong_apply p h.1 hp)

end

end Part

/-! ## Bodies of operations -/

/-- The body that an operation builds. -/
def Connector.payload? (c : Connector) (operation : String) (args : Args) : Option Payload :=
  (c.operations.get? operation).bind (·.payload args)

theorem Connector.payload?_of_body {c : Connector} {operation : String} {parts : List Part}
    (h : (c.operations.get? operation).bind (·.body) = some parts) (args : Args) :
    c.payload? operation args = some (Part.build parts args) := by
  obtain ⟨op, hop, hbody⟩ := Option.bind_eq_some_iff.1 h
  rw [payload?, hop, Option.bind_some, Operation.payload, hbody, Option.map_some]

/-- The operation of an accepted call is offered, its checks have passed, and the call carries the
body that it builds. -/
theorem Connector.exists_operation_of_prepare {c : Connector} {base : Option String} {args : Args}
    {call : Call} (h : c.prepare base args = .ok call) :
    ∃ op, c.operations.get? call.operation = some op ∧ op.check args = .ok () ∧
      call.payload = c.payload? call.operation args := by
  obtain ⟨name, op, haccept, rfl⟩ := Connector.prepare_eq_ok_iff.1 h
  obtain ⟨-, hop, -, -, hcheck⟩ := Connector.accept_eq_ok_iff.1 haccept
  exact ⟨op, hop, hcheck, (congrArg (·.bind (·.payload args)) hop).symm⟩

namespace Catalog

/-- An operation with the arguments that go into its body, or into an object in it, under their own
names. -/
structure Copying where
  connector : Connector
  operation : String
  arguments : List String

/-- The operations whose bodies hold nothing but copies. -/
def copiedBodies : List Copying :=
  [⟨GitLab.connector, "create_issue", ["title", "description", "labels", "assignee_ids",
      "milestone_id", "due_date", "confidential"]⟩,
    ⟨GitLab.connector, "update_issue", ["title", "description", "labels", "add_labels",
      "remove_labels", "assignee_ids", "milestone_id", "state_event", "due_date"]⟩,
    ⟨GitLab.connector, "add_issue_note", ["body", "internal"]⟩,
    ⟨GitLab.connector, "create_merge_request", ["source_branch", "target_branch", "title",
      "description", "labels", "assignee_id", "remove_source_branch", "squash"]⟩,
    ⟨Gorgias.connector, "update_ticket", ["status", "subject", "priority", "tags", "assignee_user",
      "assignee_team", "spam"]⟩,
    ⟨ServiceNow.connector, "create_incident", ["short_description", "description", "urgency",
      "impact", "category", "caller_id", "assignment_group", "assigned_to"]⟩,
    ⟨GoogleDocs.connector, "create_document", ["title"]⟩]

/-- The operations whose bodies hold a ticket made of copies and a comment. -/
def copiedTickets : List Copying :=
  [⟨Zendesk.connector, "create_ticket", ["subject", "priority", "status", "type", "tags",
      "requester_id", "assignee_id", "group_id", "custom_fields"]⟩,
    ⟨Zendesk.connector, "update_ticket", ["subject", "priority", "status", "type", "tags",
      "assignee_id", "group_id", "custom_fields"]⟩]

theorem body_of_mem_copiedBodies : ∀ b ∈ copiedBodies,
    (b.connector.operations.get? b.operation).bind (·.body) = some (Part.copies b.arguments) := by
  intro b hb
  simp only [copiedBodies, List.mem_cons, List.not_mem_nil, or_false] at hb
  rcases hb with rfl | rfl | rfl | rfl | rfl | rfl | rfl <;> rfl

theorem get?_apply_comment {args : Args} {key : String} (h : key ≠ "comment") (payload : Payload) :
    (Part.apply args payload Zendesk.comment).get? key = payload.get? key := by
  rw [Zendesk.comment, Part.apply, Table.get?_insert, if_neg h]

/-- A ticket is made of copies in front of a step for the comment and copies behind it. -/
theorem body_of_mem_copiedTickets : ∀ b ∈ copiedTickets, ∃ front back p,
    (b.connector.operations.get? b.operation).bind (·.body)
        = some [.object "ticket" (Part.copies front ++ p :: Part.copies back)] ∧
      b.arguments = front ++ back ∧
      ∀ args payload key, key ≠ "comment" →
        (Part.apply args payload p).get? key = payload.get? key := by
  intro b hb
  simp only [copiedTickets, List.mem_cons, List.not_mem_nil, or_false] at hb
  rcases hb with rfl | rfl
  · refine ⟨["subject"], _, Zendesk.comment, rfl, rfl, fun args payload key hkey ↦ ?_⟩
    exact get?_apply_comment hkey payload
  · refine ⟨_, [], .ifPresent "comment_body" [Zendesk.comment], rfl, rfl,
      fun args payload key hkey ↦ ?_⟩
    rw [Part.apply]
    split
    · rw [Part.applyAll, Part.applyAll, get?_apply_comment hkey]
    · rfl

/-! ## Records passed on -/

/-- The operations of a service that pass an object on as it is. -/
def passesOn (service operation : String) : Bool :=
  service = "servicenow" && (operation = "create_record" || operation = "update_record")

theorem ServiceNow.operation_of_passesOn {name : String} {op : Operation}
    (hpass : passesOn connector.name name = true) (hop : connector.operations.get? name = some op) :
    ⟨"fields", some Json.isObject⟩ ∈ op.required ∧ op.body = some [.entries "fields"] := by
  have hname : name = "create_record" ∨ name = "update_record" := by
    simpa [passesOn, connector] using hpass
  rcases hname with rfl | rfl
  · cases hop
    exact ⟨.tail _ (.head _), rfl⟩
  · cases hop
    exact ⟨.tail _ (.tail _ (.head _)), rfl⟩

theorem ServiceNow.payload_of_passesOn {base : Option String} {args : Args} {call : Call}
    (h : connector.prepare base args = .ok call)
    (hpass : passesOn connector.name call.operation = true) :
    ∃ fields, args.get? "fields" = some (.obj fields) ∧ call.payload = some (.ofList fields) := by
  obtain ⟨op, hop, hcheck, hpayload⟩ := Connector.exists_operation_of_prepare h
  obtain ⟨hrequired, hbody⟩ := operation_of_passesOn hpass hop
  have hparts : (connector.operations.get? call.operation).bind (·.body)
      = some [.entries "fields"] := by
    rw [hop, Option.bind_some, hbody]
  -- An argument that was accepted as an object is one.
  obtain ⟨v, hv, hobject⟩ := Operation.exists_present_of_check hcheck hrequired
  cases v with
  | obj fields =>
    refine ⟨fields, (Args.present?_eq_some_iff.1 hv).1, ?_⟩
    rw [hpayload, Connector.payload?_of_body hparts, Part.build, Part.applyAll, Part.apply, hv,
      Part.applyAll]
    rfl
  | null | bool b | num n | str s | arr items => cases hobject

/-! ## Everything else -/

/-- The keys behind which a body has an object that is built here, for a list those of its elements,
and so on inside that object. -/
def innerPaths : List ((String × String) × List String) :=
  [(("zendesk", "create_ticket"), ["ticket", "comment"]),
    (("zendesk", "update_ticket"), ["ticket", "comment"]),
    (("zendesk", "add_comment"), ["ticket", "comment"]),
    (("gorgias", "create_ticket"), ["messages"]),
    (("hubspot", "create_contact"), ["properties"]),
    (("hubspot", "update_contact"), ["properties"]),
    (("hubspot", "create_ticket"), ["properties"])]

def innerPath (service operation : String) : List String :=
  (innerPaths.lookup (service, operation)).getD []

theorem fillsAllAlong_body : ∀ c ∈ all, ∀ e ∈ c.operations.entries, passesOn c.name e.1 = false →
    (e.2.body.all fun parts ↦ Part.fillsAllAlong parts (innerPath c.name e.1)) = true := by
  decide +kernel

theorem filledAlong_payload {c : Connector} (hc : c ∈ all) {operation : String}
    (hpass : passesOn c.name operation = false) {args : Args} {payload : Payload}
    (h : c.payload? operation args = some payload) :
    (Json.ofTable payload).FilledAlong (innerPath c.name operation) := by
  obtain ⟨op, hop, hpayload⟩ := Option.bind_eq_some_iff.1 h
  obtain ⟨parts, hbody, rfl⟩ := Option.map_eq_some_iff.1 hpayload
  have hall := fillsAllAlong_body c hc (operation, op) (Table.get?_eq_some_iff.1 hop) hpass
  have hfills : Part.fillsAllAlong parts (innerPath c.name operation) = true := by
    rwa [hbody, Option.all_some] at hall
  exact Part.filledAlong_applyAll parts hfills (Part.filledAlong_empty _)

end Catalog

/-- **A body holds what the caller supplied.** Where it is made of copies, or has a ticket made of
copies beside the comment, it holds an argument of a known name exactly if that is present, as it
is, and nothing else. A record is sent as the object that it came in. In all other bodies, and in
the objects that are built inside of them, nothing is null or blank. -/
theorem body_holds_what_is_supplied (args : Args) :
    (∀ b ∈ Catalog.copiedBodies, ∃ payload, b.connector.payload? b.operation args = some payload ∧
        ∀ key, args.IsCopied b.arguments payload key) ∧
      (∀ b ∈ Catalog.copiedTickets, ∃ payload ticket,
        b.connector.payload? b.operation args = some payload ∧
          payload.get? "ticket" = some (.ofTable ticket) ∧
          ∀ key, key ≠ "comment" → args.IsCopied b.arguments ticket key) ∧
      (∀ base call, Catalog.ServiceNow.connector.prepare base args = .ok call →
        Catalog.passesOn "servicenow" call.operation = true →
        ∃ fields, args.get? "fields" = some (.obj fields) ∧ call.payload = some (.ofList fields) ∧
          ∀ t : Table Json, fields = t.entries → ∀ headers timeout,
            (call.request headers timeout).content = .json (.obj fields)) ∧
      ∀ c ∈ Catalog.all, ∀ operation payload, c.payload? operation args = some payload →
        Catalog.passesOn c.name operation = false →
        (Json.ofTable payload).FilledAlong (Catalog.innerPath c.name operation) := by
  refine ⟨fun b hb ↦ ?_, fun b hb ↦ ?_, fun base call hcall hpass ↦ ?_,
    fun c hc operation payload h hpass ↦ Catalog.filledAlong_payload hc hpass h⟩
  · have hbody := Catalog.body_of_mem_copiedBodies b hb
    exact ⟨_, Connector.payload?_of_body hbody args, Part.isCopied_copies b.arguments⟩
  · obtain ⟨front, back, p, hbody, hnames, hp⟩ := Catalog.body_of_mem_copiedTickets b hb
    refine ⟨_, Part.build (Part.copies front ++ p :: Part.copies back) args,
      Connector.payload?_of_body hbody args, ?_, fun key hkey ↦ ?_⟩
    · rw [Part.build_object, Table.get?_insert_self]
    · rw [hnames]
      exact Part.isCopied_around (fun payload ↦ hp args payload key hkey) front back
  · obtain ⟨fields, hfields, hpayload⟩ := Catalog.ServiceNow.payload_of_passesOn hcall hpass
    refine ⟨fields, hfields, hpayload, fun t ht headers timeout ↦ ?_⟩
    rw [Call.request, hpayload, ht, Table.ofList_entries]
    rfl

/-- A new record in which one field is null and one is blank. -/
def recordWithBlanks : Args :=
  ⟨.ofList [("operation", .str "create_record"), ("instance", .str "acme"),
    ("username", .str "admin"), ("password", .str "p"), ("table", .str "incident"),
    ("fields", .object [("state", .null), ("work_notes", .str " ")])]⟩

/-- What is null or blank in a record is sent along. -/
theorem record_keeps_null_and_blank :
    ∃ call, Catalog.ServiceNow.connector.prepare none recordWithBlanks = .ok call ∧
      Catalog.passesOn "servicenow" call.operation = true ∧
      (call.request [] 30).content = .json (.obj [("state", .null), ("work_notes", .str " ")]) := by
  have hoperation : (Catalog.ServiceNow.connector.prepare none recordWithBlanks).toOption.map
      (fun call ↦ Catalog.passesOn "servicenow" call.operation) = some true := by decide +kernel
  have hget : recordWithBlanks.get? "fields"
      = some (.obj [("state", .null), ("work_notes", .str " ")]) := by decide +kernel
  obtain ⟨call, hcall, hpass⟩ := exists_eq_ok_of_toOption hoperation
  obtain ⟨fields, hfields, -, hsent⟩ :=
    (body_holds_what_is_supplied recordWithBlanks).2.2.1 none call hcall hpass
  rw [hget] at hfields
  cases hfields
  have htable : (Table.ofList [("state", Json.null), ("work_notes", .str " ")]).entries
      = [("state", .null), ("work_notes", .str " ")] := by decide +kernel
  exact ⟨call, hcall, hpass, hsent _ htable.symm [] 30⟩

end ServiceCall

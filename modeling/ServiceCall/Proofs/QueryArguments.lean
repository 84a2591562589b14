import ServiceCall.Proofs.Preview

/-!
# What becomes of query arguments

A parameter of a query is made from one argument. Most arguments are sent in their query form, under
their own name; a few are sent as the text of a scalar, some of those under another name or with a
default. A value that the parameter does not take is left out of the query, or the default is sent
in its place, and nothing is said of it (`query_argument_sent_iff_taken`).

## Checked arguments

An operation may ask beforehand that its query arguments have a query form, and then it refuses a
value that has none instead of losing it. Some operations of the catalog ask this of all their query
arguments, some of none, and the limit of a list of records is not among those asked about. The
names in `Operation.checkedNames` are therefore part of the statement.
-/

namespace ServiceCall

/-! ## Query forms -/

theorem Json.queryForm?_of_scalarText? {v : Json} {t : String} (h : v.scalarText? = some t) :
    v.queryForm? = some t := by
  cases v with
  | arr items => cases h
  | null | bool b | num n | str s | obj fields => exact h

theorem Json.hasQueryForm_eq_isSome (v : Json) : v.hasQueryForm = v.queryForm?.isSome :=
  Bool.eq_iff_iff.2 (by rw [hasQueryForm_iff, Option.isSome_iff_exists])

theorem Json.isScalar_eq_isSome (v : Json) : v.isScalar = v.scalarText?.isSome :=
  Bool.eq_iff_iff.2 (by rw [isScalar_iff, Option.isSome_iff_exists])

namespace Args

/-- The argument is there and could not stand in a query. -/
def isFormless (args : Args) (key : String) : Bool :=
  (args.present? key).any fun v ↦ !v.hasQueryForm

/-- Refuses an argument that is there and could not stand in a query. -/
def checkForm (args : Args) (key : String) : Except Refusal Unit :=
  if args.isFormless key then .error (.invalid key) else .ok ()

variable {args : Args} {key : String}

theorem checkForm_eq_ok_iff : args.checkForm key = .ok () ↔ args.isFormless key = false := by
  rw [checkForm]
  cases args.isFormless key <;> simp

theorem checkForm_eq_error_iff {refusal : Refusal} :
    args.checkForm key = .error refusal ↔ args.isFormless key = true ∧ .invalid key = refusal := by
  rw [checkForm]
  cases args.isFormless key <;> simp

end Args

/-! ## Parameters -/

namespace Param

/-- Whether a value is sent in its query form. -/
def takes : Param → Json → Bool
  | query _, v => v.hasQueryForm
  | text _ _, v => v.isScalar
  | textOr _ default, v => v.isScalar || v.queryForm? = some default

/-- What is sent in place of a value that is not. -/
def substitute : Param → List (String × String)
  | query _ | text _ _ => []
  | textOr arg default => [(arg, default)]

/-- The value is sent in its query form, and nothing else is sent under the name. -/
def IsSent (p : Param) (v : Json) (sent : List (String × String)) : Prop :=
  ∃ form, v.queryForm? = some form ∧ sent.filter (·.1 = p.sentAs) = [(p.sentAs, form)]

variable {args : Args} {p : Param} {v : Json}

theorem render?_of_takes (hv : args.present? p.arg = some v) (h : p.takes v = true) :
    ∃ form, v.queryForm? = some form ∧ p.render? args = some (p.sentAs, form) := by
  cases p with
  | query arg =>
    obtain ⟨form, hform⟩ := Json.hasQueryForm_iff.1 h
    have hquery : args.query? arg = some form := (Args.query?_of_present? hv).trans hform
    refine ⟨form, hform, ?_⟩
    rw [render?, hquery]
    rfl
  | text arg name =>
    obtain ⟨t, ht⟩ := Json.isScalar_iff.1 h
    have htext : args.text? arg = some t := (Args.text?_of_present? hv).trans ht
    refine ⟨t, Json.queryForm?_of_scalarText? ht, ?_⟩
    rw [render?, htext]
    rfl
  | textOr arg default =>
    have htext : args.text? arg = v.scalarText? := Args.text?_of_present? hv
    rw [render?, Args.textOr, htext]
    cases ht : v.scalarText? with
    | some t => exact ⟨t, Json.queryForm?_of_scalarText? ht, rfl⟩
    | none =>
      -- The value is taken all the same, so the default is its query form.
      rw [takes, Json.isScalar_eq_isSome, ht, Option.isSome_none, Bool.false_or,
        decide_eq_true_eq] at h
      exact ⟨default, h, rfl⟩

theorem render?_of_not_takes (hv : args.present? p.arg = some v) (h : p.takes v = false) :
    (p.render? args).toList = p.substitute := by
  cases p with
  | query arg =>
    rw [takes, Json.hasQueryForm_eq_isSome, Option.isSome_eq_false_iff, Option.isNone_iff_eq_none]
      at h
    have hquery : args.query? arg = none := (Args.query?_of_present? hv).trans h
    rw [render?, hquery]
    rfl
  | text arg name =>
    rw [takes, Json.isScalar_eq_isSome, Option.isSome_eq_false_iff, Option.isNone_iff_eq_none] at h
    have htext : args.text? arg = none := (Args.text?_of_present? hv).trans h
    rw [render?, htext]
    rfl
  | textOr arg default =>
    rw [takes, Bool.or_eq_false_iff, Json.isScalar_eq_isSome, Option.isSome_eq_false_iff,
      Option.isNone_iff_eq_none] at h
    have htext : args.text? arg = none := (Args.text?_of_present? hv).trans h.1
    rw [render?, Args.textOr, htext]
    rfl

/-- Under the name of a parameter stands what it is rendered as, and that once. -/
theorem filter_renderAll {params : List Param} (hnodup : (params.map sentAs).Nodup)
    (hp : p ∈ params) (args : Args) :
    (renderAll args params).filter (·.1 = p.sentAs) = (p.render? args).toList := by
  have hown (q : Param) : ∀ e ∈ (q.render? args).toList, e.1 = q.sentAs := fun e he ↦
    fst_of_render?_eq_some (Option.mem_toList.1 he)
  have hcons (q : Param) (qs : List Param) :
      renderAll args (q :: qs) = (q.render? args).toList ++ renderAll args qs := by
    rw [renderAll, renderAll, List.filterMap_cons]
    cases q.render? args <;> rfl
  induction params with
  | nil => cases hp
  | cons q qs ih =>
    rw [List.map_cons, List.nodup_cons] at hnodup
    rw [hcons, List.filter_append]
    rcases List.mem_cons.1 hp with rfl | hp
    · -- None of the others is sent under this name.
      have hothers : (renderAll args qs).filter (·.1 = p.sentAs) = [] := by
        refine List.filter_eq_nil_iff.2 fun e he hname ↦ hnodup.1 ?_
        rw [← of_decide_eq_true hname]
        exact (names_renderAll_sublist args qs).subset (List.mem_map_of_mem he)
      rw [hothers, List.append_nil, List.filter_eq_self]
      exact fun e he ↦ decide_eq_true (hown p e he)
    · have hne : q.sentAs ≠ p.sentAs := fun hname ↦ hnodup.1 (hname ▸ List.mem_map_of_mem hp)
      have hfirst : (q.render? args).toList.filter (·.1 = p.sentAs) = [] := by
        refine List.filter_eq_nil_iff.2 fun e he hname ↦ hne ?_
        rw [← hown q e he, of_decide_eq_true hname]
      rw [hfirst, List.nil_append, ih hnodup.2 hp]

variable {params : List Param} (hnodup : (params.map sentAs).Nodup) (hp : p ∈ params)
  (hv : args.present? p.arg = some v)
include hnodup hp hv

theorem filter_renderAll_of_not_takes (h : p.takes v = false) :
    (renderAll args params).filter (·.1 = p.sentAs) = p.substitute := by
  rw [filter_renderAll hnodup hp, render?_of_not_takes hv h]

theorem isSent_iff_takes : p.IsSent v (renderAll args params) ↔ p.takes v = true := by
  constructor
  · rintro ⟨form, hform, hsent⟩
    by_contra hnot
    rw [Bool.not_eq_true] at hnot
    rw [filter_renderAll_of_not_takes hnodup hp hv hnot] at hsent
    -- Only a default stands in for a value, and it is no form of the value.
    cases p with
    | query arg | text arg name => cases hsent
    | textOr arg default =>
      rw [takes, Bool.or_eq_false_iff, decide_eq_false_iff_not] at hnot
      simp only [substitute, sentAs, List.cons.injEq, Prod.mk.injEq, and_true, true_and] at hsent
      exact hnot.2 (hsent ▸ hform)
  · intro h
    obtain ⟨form, hform, hrender⟩ := render?_of_takes hv h
    refine ⟨form, hform, ?_⟩
    rw [filter_renderAll hnodup hp, hrender, Option.toList_some]

end Param

/-! ## Checks -/

/-- The arguments of which an operation asks that they have a query form. -/
def Operation.checkedNames (op : Operation) : List String := op.optional.map (·.name)

/-- The checks of the operation are for query forms, and nothing else is asked of what it needs. -/
structure Operation.ChecksForms (op : Operation) : Prop where
  required : ∀ r ∈ op.required, r.accepts = none
  optional : ∀ r ∈ op.optional, r.accepts = some Json.hasQueryForm

theorem Operation.checksForms_iff {op : Operation} :
    op.ChecksForms ↔ (∀ r ∈ op.required, r.accepts = none) ∧
      ∀ r ∈ op.optional, r.accepts = some Json.hasQueryForm :=
  ⟨fun h ↦ ⟨h.required, h.optional⟩, fun h ↦ ⟨h.1, h.2⟩⟩

namespace Requirement

variable {args : Args} {r : Requirement}

theorem checkNeeded_of_accepts_none (h : r.accepts = none) :
    r.checkNeeded args = if args.isPresent r.name then .ok () else .error (.missing r.name) := by
  have hadmits (v : Json) : r.admits v = true := by rw [admits, h]
  rw [checkNeeded, Args.isPresent]
  cases args.present? r.name with
  | none => rfl
  | some v => exact if_pos (hadmits v)

theorem checkOptional_of_hasQueryForm (h : r.accepts = some Json.hasQueryForm) :
    r.checkOptional args = args.checkForm r.name := by
  rw [checkOptional, Args.checkForm, Args.isFormless]
  cases args.present? r.name with
  | none => rfl
  | some v =>
    have hadmits : r.admits v = v.hasQueryForm := by rw [admits, h]
    by_cases hform : v.hasQueryForm = true
    · simp [hadmits, hform]
    · simp [hadmits, hform]

end Requirement

theorem checkEach_ne_error {α ε : Type} {check : α → Except ε Unit} {l : List α} {e : ε}
    (h : ∀ x ∈ l, check x ≠ .error e) : checkEach check l ≠ .error e := by
  intro herror
  obtain ⟨before, x, after, rfl, -, hx⟩ := checkEach_eq_error_iff.1 herror
  exact h x (List.mem_append_right before List.mem_cons_self) hx

theorem bind_eq_error_iff {α β ε : Type} {x : Except ε α} {f : α → Except ε β} {e : ε} :
    x >>= f = .error e ↔ x = .error e ∨ ∃ a, x = .ok a ∧ f a = .error e := by
  cases x <;> simp [bind, Except.bind]

/-- Where checks are for query forms, only the names of the arguments matter. -/
theorem Operation.checkEach_optional_of_forms {op : Operation} {args : Args}
    (h : ∀ r ∈ op.optional, r.accepts = some Json.hasQueryForm) :
    checkEach (Requirement.checkOptional args) op.optional
      = checkEach args.checkForm op.checkedNames := by
  rw [checkedNames, checkEach_map]
  exact checkEach_congr fun r hr ↦ Requirement.checkOptional_of_hasQueryForm (h r hr)

namespace Operation.ChecksForms

variable {op : Operation} {args : Args} (h : op.ChecksForms)
include h

theorem checkEach_required_eq_ok_iff :
    checkEach (Requirement.checkNeeded args) op.required = .ok () ↔
      ∀ key ∈ op.required.map (·.name), args.isPresent key = true := by
  rw [checkEach_eq_ok_iff, List.forall_mem_map]
  refine forall₂_congr fun r hr ↦ ?_
  rw [Requirement.checkNeeded_of_accepts_none (h.required r hr)]
  cases args.isPresent r.name <;> simp

theorem checkEach_optional_eq_error_iff {field : String} :
    checkEach (Requirement.checkOptional args) op.optional = .error (.invalid field) ↔
      op.checkedNames.find? args.isFormless = some field := by
  rw [checkEach_optional_of_forms h.optional]
  generalize op.checkedNames = keys
  induction keys with
  | nil => simp [checkEach]
  | cons key keys ih =>
    rw [checkEach, List.find?_cons, Args.checkForm]
    cases args.isFormless key with
    | true => simp
    | false => exact ih

/-- An operation finds an argument invalid if everything that it needs is there, and the argument is
the first checked one without a query form. -/
theorem check_eq_invalid_iff {field : String} :
    op.check args = .error (.invalid field) ↔
      (∀ key ∈ op.required.map (·.name), args.isPresent key = true) ∧
        op.checkedNames.find? args.isFormless = some field := by
  have hneeded : checkEach (Requirement.checkNeeded args) op.required
      ≠ .error (.invalid field) := by
    refine checkEach_ne_error fun r hr ↦ ?_
    rw [Requirement.checkNeeded_of_accepts_none (h.required r hr)]
    split <;> simp
  rw [check, bind_eq_error_iff, or_iff_right hneeded, ← h.checkEach_required_eq_ok_iff,
    ← h.checkEach_optional_eq_error_iff]
  constructor
  · rintro ⟨_, hok, herror⟩
    exact ⟨hok, herror⟩
  · rintro ⟨hok, herror⟩
    exact ⟨(), hok, herror⟩

theorem hasQueryForm_of_check (hcheck : op.check args = .ok ()) {key : String}
    (hkey : key ∈ op.checkedNames) {v : Json} (hv : args.present? key = some v) :
    v.hasQueryForm = true := by
  obtain ⟨r, hr, rfl⟩ := List.mem_map.1 hkey
  have hadmits := Requirement.checkOptional_eq_ok_iff.1 ((check_eq_ok_iff.1 hcheck).2 r hr) v hv
  rwa [Requirement.admits, h.optional r hr] at hadmits

end Operation.ChecksForms

theorem Connector.prepare_eq_invalid_iff {c : Connector} {args : Args} {op : Operation}
    (hforms : op.ChecksForms) (hop : c.operation? args = some op) {base : Option String}
    {field : String} :
    c.prepare base args = .error (.invalid field) ↔
      (∀ key ∈ c.connectionFields ++ c.credentialFields ++ op.required.map (·.name),
        args.isPresent key = true) ∧ op.checkedNames.find? args.isFormless = some field := by
  obtain ⟨name, hname, hget⟩ := Option.bind_eq_some_iff.1 hop
  have hconnection : checkEach (needField args) c.connectionFields ≠ .error (.invalid field) :=
    checkEach_ne_error fun f _ ↦ by rw [needField]; split <;> simp
  have hcredential : checkEach (needCredential args) c.credentialFields
      ≠ .error (.invalid field) :=
    checkEach_ne_error fun f _ ↦ by rw [needCredential]; split <;> simp
  have haccept : c.accept args = .error (.invalid field) ↔
      checkEach (needField args) c.connectionFields = .ok () ∧
        checkEach (needCredential args) c.credentialFields = .ok () ∧
        op.check args = .error (.invalid field) := by
    simp [accept, hname, hget, bind_eq_error_iff, hconnection, hcredential, pure, Except.pure,
      Unique.exists_iff]
  rw [prepare_eq_error_iff, haccept, checkEach_needField_eq_ok_iff,
    checkEach_needCredential_eq_ok_iff, hforms.check_eq_invalid_iff, List.forall_mem_append,
    List.forall_mem_append, and_assoc, and_assoc]

namespace Catalog

/-- What the operations with a query check is that arguments have a query form. -/
theorem checksForms : ∀ c ∈ all, ∀ e ∈ c.operations.entries, e.2.query.isSome = true →
    e.2.ChecksForms := by
  intro c hc
  simp only [all, List.mem_cons, List.not_mem_nil, or_false] at hc
  rcases hc with rfl | rfl | rfl | rfl | rfl | rfl | rfl
  all_goals
    refine Table.forall_mem_entries_ofList ?_
    simp [Operation.plain, Operation.needs, Operation.needsThat, Operation.withQuery,
      Operation.checksQuery, Operation.sends, Operation.withBody, Operation.checksForms_iff]

/-- An argument that is checked is sent in its query form, under its own name. -/
theorem eq_query_of_mem_checkedNames : ∀ c ∈ all, ∀ e ∈ c.operations.entries,
    ∀ p ∈ e.2.query.getD [], p.arg ∈ e.2.checkedNames → p = .query p.arg := by
  decide +kernel

end Catalog

/-- **Query arguments are lost exactly where a value is neither taken nor checked.** In an accepted
call, an argument that is there is sent once, in its query form, if its parameter takes the value.
Of one that is not taken, nothing or a default is sent; an argument that the operation checks is
always taken. The others are never refused: a call is refused for an invalid argument when all that
it needs is there, and then for the first one checked that has no query form. -/
theorem query_argument_sent_iff_taken {c : Connector} (hc : c ∈ Catalog.all) (base : Option String)
    {args : Args} {op : Operation} (hop : c.operation? args = some op) {params : List Param}
    (hquery : op.query = some params) :
    (∀ call, c.prepare base args = .ok call → ∀ p ∈ params, ∀ v, args.present? p.arg = some v →
      (p.IsSent v call.params ↔ p.takes v = true) ∧
      (p.takes v = false → call.params.filter (·.1 = p.sentAs) = p.substitute) ∧
      (p.arg ∈ op.checkedNames → p.takes v = true)) ∧
    ∀ field, c.prepare base args = .error (.invalid field) ↔
      (∀ key ∈ c.connectionFields ++ c.credentialFields ++ op.required.map (·.name),
        args.isPresent key = true) ∧ op.checkedNames.find? args.isFormless = some field := by
  obtain ⟨name, hname, hget⟩ := Option.bind_eq_some_iff.1 hop
  have hmem : (name, op) ∈ c.operations.entries := Table.get?_eq_some_iff.1 hget
  have hforms : op.ChecksForms := Catalog.checksForms c hc _ hmem (by rw [hquery]; rfl)
  refine ⟨fun call hcall p hp v hv ↦ ?_, fun field ↦ Connector.prepare_eq_invalid_iff hforms hop⟩
  obtain ⟨name', op', haccept, rfl⟩ := Connector.prepare_eq_ok_iff.1 hcall
  obtain ⟨hname', hget', -, -, hcheck⟩ := Connector.accept_eq_ok_iff.1 haccept
  obtain rfl : name' = name := Option.some.inj (hname'.symm.trans hname)
  obtain rfl : op' = op := Option.some.inj (hget'.symm.trans hget)
  have hparams : (c.build base args name' op').params = Param.renderAll args params := by
    rw [Connector.build, Operation.params, hquery]
    rfl
  have hnodup : (params.map Param.sentAs).Nodup := by
    simpa [hquery] using Catalog.sentAs_nodup c hc _ hmem
  rw [hparams]
  refine ⟨Param.isSent_iff_takes hnodup hp hv, Param.filter_renderAll_of_not_takes hnodup hp hv,
    fun hchecked ↦ ?_⟩
  have hown : p = .query p.arg :=
    Catalog.eq_query_of_mem_checkedNames c hc _ hmem p (by rw [hquery]; exact hp) hchecked
  rw [hown]
  exact hforms.hasQueryForm_of_check hcheck hchecked hv

/-- Arguments for the records of a table, with lists for the fields and for the limit. -/
def limitedRecords : Args :=
  ⟨.ofList [("operation", .str "list_records"), ("instance", .str "acme"),
    ("table", .str "incident"), ("username", .str "u"), ("password", .str "p"),
    ("sysparm_fields", .arr [.str "number", .str "state"]),
    ("sysparm_limit", .arr [.num (.int 50)])]⟩

/-- The fields are joined. The limit is the default in place of the one in the list. -/
theorem limit_of_records_is_lost :
    Catalog.ServiceNow.connector ∈ Catalog.all ∧
      ∃ op call, Catalog.ServiceNow.connector.operation? limitedRecords = some op ∧
        op.query = some Catalog.ServiceNow.listParams ∧
        Catalog.ServiceNow.connector.prepare none limitedRecords = .ok call ∧
        call.params = [("sysparm_fields", "number,state"), ("sysparm_limit", "10")] ∧
        ¬ (Param.textOr "sysparm_limit" "10").IsSent (.arr [.num (.int 50)]) call.params := by
  have hc : Catalog.ServiceNow.connector ∈ Catalog.all := by simp [Catalog.all]
  have hquery : (Catalog.ServiceNow.connector.operation? limitedRecords).map (·.query)
      = some (some Catalog.ServiceNow.listParams) := by decide +kernel
  have hparams :
      (Catalog.ServiceNow.connector.prepare none limitedRecords).toOption.map (·.params)
        = some [("sysparm_fields", "number,state"), ("sysparm_limit", "10")] := by
    decide +kernel
  obtain ⟨op, hop, hquery⟩ := Option.map_eq_some_iff.1 hquery
  obtain ⟨call, hcall, hparams⟩ := exists_eq_ok_of_toOption hparams
  have hlimit := ((query_argument_sent_iff_taken hc none hop hquery).1 call hcall
    (.textOr "sysparm_limit" "10") (by decide) (.arr [.num (.int 50)]) (by decide +kernel)).1
  refine ⟨hc, op, call, hop, hquery, hcall, hparams, fun hsent ↦ ?_⟩
  have htaken := hlimit.1 hsent
  revert htaken
  decide +kernel

/-- Arguments for a page of tickets, where the page is given as an object. -/
def pagedTickets : Args :=
  ⟨.ofList [("operation", .str "list_tickets"), ("subdomain", .str "acme"),
    ("email", .str "agent@example.com"), ("api_token", .str "t"),
    ("page", .obj [("size", .num (.int 5))]), ("sort_by", .str "status")]⟩

/-- A page that has no query form is not refused. The call is accepted and asks for no page. -/
theorem page_of_tickets_is_dropped :
    (pagedTickets.present? "page").map Json.hasQueryForm = some false ∧
      (Catalog.Zendesk.connector.prepare none pagedTickets).toOption.map (·.params)
        = some [("sort_by", "status")] := by
  decide +kernel

end ServiceCall

import Mathlib.Data.List.Forall2
import ServiceCall.Proofs.QueryArguments

/-!
# Checking a query and sending it

Whether a value can stand in a query is tested by one function and what stands there is rendered by
another, and both go through lists of values on their own. `Json.ReadsInQuery` says what the form of
a value is, once and for both: the test finds out whether there is one, and the rendering finds it.

An operation can have its query arguments checked and sent under one list of keys
(`Operation.QueriesBy`). Then nothing that passes the checks is lost on the way, and nothing that is
sent has not been checked (`query_checked_as_sent`).
-/

namespace ServiceCall

/-! ## The form of a value -/

namespace Json

/-- The text is the form of the value in a query: the text of a scalar, or those of the elements of
a list, joined by commas, if there is an element and all of them are scalars. -/
inductive ReadsInQuery : Json → String → Prop where
  | scalar {v : Json} {t : String} (h : v.scalarText? = some t) : ReadsInQuery v t
  | list {items : List Json} {texts : List String} (hne : items ≠ [])
      (h : List.Forall₂ (fun v t ↦ v.scalarText? = some t) items texts) :
      ReadsInQuery (.arr items) (String.intercalate "," texts)

theorem mapM_scalarText?_eq_some_iff {items : List Json} {texts : List String} :
    items.mapM scalarText? = some texts ↔
      List.Forall₂ (fun v t ↦ v.scalarText? = some t) items texts := by
  induction items generalizing texts with
  | nil =>
    rw [List.mapM_nil, Option.pure_def, Option.some.injEq, List.forall₂_nil_left_iff, eq_comm]
  | cons v items ih =>
    simp only [List.mapM_cons, List.forall₂_cons_left_iff, Option.bind_eq_bind, Option.pure_def,
      Option.bind_eq_some_iff, Option.some.injEq, ih]
    constructor
    · rintro ⟨t, ht, ts, hts, rfl⟩
      exact ⟨t, ts, ht, hts, rfl⟩
    · rintro ⟨t, ts, ht, hts, rfl⟩
      exact ⟨t, ht, ts, hts, rfl⟩

theorem queryForm?_eq_some_iff {v : Json} {t : String} :
    v.queryForm? = some t ↔ v.ReadsInQuery t := by
  constructor
  · intro h
    cases v with
    | arr items =>
      cases items with
      | nil => cases h
      | cons x items =>
        obtain ⟨texts, htexts, rfl⟩ := Option.map_eq_some_iff.1 h
        exact .list (List.cons_ne_nil x items) (mapM_scalarText?_eq_some_iff.1 htexts)
    | null | bool b | num n | str s | obj fields => exact .scalar h
  · rintro (h | ⟨hne, h⟩)
    · exact queryForm?_of_scalarText? h
    · rename_i items texts
      cases items with
      | nil => exact absurd rfl hne
      | cons x items =>
        exact congrArg (Option.map (String.intercalate ",")) (mapM_scalarText?_eq_some_iff.2 h)

theorem hasQueryForm_eq_true_iff {v : Json} :
    v.hasQueryForm = true ↔ ∃ t, v.ReadsInQuery t := by
  simp only [hasQueryForm_iff, queryForm?_eq_some_iff]

end Json

/-! ## Arguments and their forms -/

namespace Args

/-- The argument is there, and the text is its form. -/
def ReadsInQuery (args : Args) (key form : String) : Prop :=
  ∃ v, args.present? key = some v ∧ v.ReadsInQuery form

variable {args : Args} {key form : String}

theorem query?_eq_some_iff : args.query? key = some form ↔ args.ReadsInQuery key form := by
  simp only [query?, Option.bind_eq_some_iff, Json.queryForm?_eq_some_iff, ReadsInQuery]

theorem isFormless_eq_false_iff :
    args.isFormless key = false ↔
      (args.isPresent key = true → ∃ form, args.ReadsInQuery key form) := by
  rw [isFormless, isPresent]
  cases hv : args.present? key with
  | none => simp
  | some v => simp [ReadsInQuery, hv, ← Json.hasQueryForm_eq_true_iff]

theorem isFormless_eq_true_iff :
    args.isFormless key = true ↔
      args.isPresent key = true ∧ ∀ form, ¬ args.ReadsInQuery key form := by
  rw [← Bool.not_eq_false, isFormless_eq_false_iff, Classical.not_imp, not_exists]

end Args

/-! ## One list of keys for both -/

namespace Operation

/-- What the operation checks of its optional arguments is that they have a query form, and what it
sends in the query are these forms, both for the same keys in the same order. -/
structure QueriesBy (op : Operation) (keys : List String) : Prop where
  optional : op.optional = keys.map (⟨·, some Json.hasQueryForm⟩)
  query : op.query = some (keys.map .query)

theorem queriesBy_withQuery (op : Operation) (h : op.optional = []) (keys : List String) :
    (op.withQuery keys).QueriesBy keys where
  optional := by
    rw [withQuery, sends, checksQuery, h]
    rfl
  query := rfl

namespace QueriesBy

variable {op : Operation} {keys : List String} {args : Args}

theorem checkEach_optional (h : op.QueriesBy keys) :
    checkEach (Requirement.checkOptional args) op.optional = checkEach args.checkForm keys := by
  have hforms : ∀ r ∈ op.optional, r.accepts = some Json.hasQueryForm := by
    rw [h.optional]
    simp
  have hkeys : op.checkedNames = keys := by
    rw [checkedNames, h.optional, List.map_map]
    exact List.map_id keys
  rw [checkEach_optional_of_forms hforms, hkeys]

/-- Of each argument that is there one pair is sent, in the order of the keys. -/
theorem forall₂_params (h : op.QueriesBy keys)
    (hforms : ∀ key ∈ keys, args.isFormless key = false) :
    List.Forall₂ (fun key sent ↦ sent.1 = key ∧ args.ReadsInQuery key sent.2)
      (keys.filter args.isPresent) (op.params args) := by
  have hparams : op.params args = keys.filterMap fun key ↦ (args.query? key).map (key, ·) := by
    rw [Operation.params, h.query, Option.map_some, Option.getD_some, Param.renderAll,
      List.filterMap_map]
    rfl
  rw [hparams]
  clear h hparams
  induction keys with
  | nil => exact .nil
  | cons key keys ih =>
    have hrest := ih fun other hother ↦ hforms other (List.mem_cons_of_mem key hother)
    have hform := Args.isFormless_eq_false_iff.1 (hforms key List.mem_cons_self)
    rw [List.filter_cons, List.filterMap_cons]
    by_cases hpresent : args.isPresent key = true
    · obtain ⟨form, hreads⟩ := hform hpresent
      rw [if_pos hpresent, Args.query?_eq_some_iff.2 hreads]
      exact .cons ⟨rfl, hreads⟩ hrest
    · -- A key without an argument is left out on both sides.
      have hquery : args.query? key = none := by
        rw [Args.isPresent, Bool.not_eq_true, Option.isSome_eq_false_iff,
          Option.isNone_iff_eq_none] at hpresent
        rw [Args.query?, hpresent, Option.bind_none]
      rw [if_neg hpresent, hquery]
      exact hrest

end QueriesBy

end Operation

/-- **What is checked of a query is what is sent.** The checks pass exactly if every argument of the
list that is there has a query form. Then the query consists of these forms, each under the name of
its argument and in the order of the list. Otherwise the first argument that is there and has none
is found invalid. -/
theorem query_checked_as_sent {op : Operation} {keys : List String} (h : op.QueriesBy keys)
    (args : Args) :
    let checked := checkEach (Requirement.checkOptional args) op.optional
    (checked = .ok () ↔
      ∀ key ∈ keys, args.isPresent key = true → ∃ form, args.ReadsInQuery key form) ∧
    (checked = .ok () →
      List.Forall₂ (fun key sent ↦ sent.1 = key ∧ args.ReadsInQuery key sent.2)
        (keys.filter args.isPresent) (op.params args)) ∧
    ∀ refusal, checked = .error refusal ↔
      ∃ before key after, keys = before ++ key :: after ∧
        (∀ other ∈ before, args.isPresent other = true → ∃ form, args.ReadsInQuery other form) ∧
        (args.isPresent key = true ∧ ∀ form, ¬ args.ReadsInQuery key form) ∧
        .invalid key = refusal ∧
        refusal.envelope.errorMessage? = some ("Invalid " ++ key) ∧
        refusal.envelope.output.field? "field" = some (.str key) := by
  intro checked
  have hchecked : checked = checkEach args.checkForm keys := h.checkEach_optional
  have hpass : checked = .ok () ↔ ∀ key ∈ keys, args.isFormless key = false := by
    simp only [hchecked, checkEach_eq_ok_iff, Args.checkForm_eq_ok_iff]
  refine ⟨?_, fun hok ↦ h.forall₂_params (hpass.1 hok), fun refusal ↦ ?_⟩
  · simp only [hpass, Args.isFormless_eq_false_iff]
  · rw [hchecked, checkEach_eq_error_iff]
    simp only [Args.checkForm_eq_ok_iff, Args.checkForm_eq_error_iff, Args.isFormless_eq_false_iff,
      Args.isFormless_eq_true_iff]
    constructor
    · rintro ⟨before, key, after, hkeys, hbefore, hkey, rfl⟩
      exact ⟨before, key, after, hkeys, hbefore, hkey, rfl, Envelope.errorMessage?_badInput ..,
        Envelope.field?_badInput ..⟩
    · rintro ⟨before, key, after, hkeys, hbefore, hkey, hrefusal, -⟩
      exact ⟨before, key, after, hkeys, hbefore, hkey, hrefusal⟩

/-- Arguments for the issues of a project, with labels and a page that have no query form. -/
def issuesOfNothing : Args :=
  ⟨.ofList [("operation", .str "list_issues"), ("project_id", .int 7), ("state", .str "opened"),
    ("labels", .arr [.str "bug", .arr []]), ("search", .str " "), ("page", .obj [])]⟩

/-- The labels come first in the list of what issues can be narrowed by. -/
theorem nested_labels_are_found_invalid :
    ∃ op, Catalog.GitLab.operations.get? "list_issues" = some op ∧
      op.QueriesBy Catalog.GitLab.issueFilters ∧
      checkEach (Requirement.checkOptional issuesOfNothing) op.optional
        = .error (.invalid "labels") ∧
      ∃ before after, Catalog.GitLab.issueFilters = before ++ "labels" :: after ∧
        ∀ other ∈ before, issuesOfNothing.isPresent other = true →
          ∃ form, issuesOfNothing.ReadsInQuery other form := by
  let issues := (Operation.plain .get Catalog.GitLab.issuesPath).needs ["project_id"]
  have hqueries := issues.queriesBy_withQuery rfl Catalog.GitLab.issueFilters
  have hrefused : checkEach (Requirement.checkOptional issuesOfNothing)
      (issues.withQuery Catalog.GitLab.issueFilters).optional = .error (.invalid "labels") := by
    rfl
  obtain ⟨before, key, after, hkeys, hbefore, -, hkey, -⟩ :=
    ((query_checked_as_sent hqueries issuesOfNothing).2.2 _).1 hrefused
  cases hkey
  exact ⟨_, rfl, hqueries, hrefused, before, after, hkeys, hbefore⟩

end ServiceCall

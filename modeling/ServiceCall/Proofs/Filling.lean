import ServiceCall.Registry

/-!
# What looking up credentials fills in

The arguments are gone through field by field, each field is tested and perhaps filled, and the next
one is tested against what has been filled by then. Still every key ends up with a value that can be
told from the arguments at the start (`Fallback.get?_fill_eq`), so neither the order of the fields
matters nor whether they are gone through once or twice (`fill_settles_missing_fields`).

## Values that stay missing

An empty value fills nothing, but one of spaces is filled in and counts as missing all the same. A
field with such a value is filled again each time it comes up. It is given the same value each
time, which is the invariant that the induction needs (`Fallback.settled_of_get?_eq`). The number of
fields filled does depend on how often a field comes up, but not on when.

For the same reason that number is not how many fields are there now and were not before. It is too
large by the fields that a blank value was found for (`filled_count_is_gain_iff_none_blank`).
-/

namespace ServiceCall

namespace Fallback

variable {lookup : Lookup} {service : String}

theorem find?_eq_some_iff {field value : String} :
    find? lookup service field = some value ↔
      lookup (variableName service field) = some value ∧ value ≠ "" := by
  rw [find?, Option.filter_eq_some_iff, decide_eq_true_eq]

/-! ## One field -/

/-- What is filled in for a field, if anything is. -/
def supply? (lookup : Lookup) (service : String) (args : Args) (field : String) : Option Json :=
  if args.isPresent field then none else (find? lookup service field).map .str

/-- What a listed field holds in the end. -/
def settled (lookup : Lookup) (service : String) (args : Args) (field : String) : Option Json :=
  (supply? lookup service args field).or (args.get? field)

theorem supply?_of_isPresent {args : Args} {field : String} (h : args.isPresent field = true) :
    supply? lookup service args field = none := if_pos h

theorem supply?_of_missing {args : Args} {field : String} (h : args.isPresent field = false) :
    supply? lookup service args field = (find? lookup service field).map .str := by
  rw [supply?, h]
  rfl

theorem isPresent_eq_false_of_supply? {args : Args} {field : String} {value : Json}
    (h : supply? lookup service args field = some value) : args.isPresent field = false := by
  refine Bool.eq_false_iff.2 fun hpresent ↦ ?_
  rw [supply?_of_isPresent hpresent] at h
  cases h

theorem supply?_congr {a b : Args} {field : String} (h : a.get? field = b.get? field) :
    supply? lookup service a field = supply? lookup service b field := by
  rw [supply?, supply?, Args.isPresent_congr (Args.present?_congr h)]

theorem get?_fillField (args : Args) (field key : String) :
    (fillField lookup service args field).1.get? key
      = if key = field then settled lookup service args key else args.get? key := by
  by_cases hkey : key = field
  · subst hkey
    rw [if_pos rfl, settled, supply?, fillField]
    by_cases hpresent : args.isPresent key = true
    · rw [if_pos hpresent, if_pos hpresent, Option.none_or]
    · rw [if_neg hpresent, if_neg hpresent]
      cases find? lookup service key with
      | none => rfl
      | some value => simp
  · rw [if_neg hkey, fillField]
    by_cases hpresent : args.isPresent field = true
    · rw [if_pos hpresent]
    · rw [if_neg hpresent]
      cases find? lookup service field with
      | none => rfl
      | some value => simp [hkey]

theorem snd_fillField (args : Args) (field : String) :
    (fillField lookup service args field).2 = (supply? lookup service args field).isSome := by
  rw [fillField, supply?]
  by_cases hpresent : args.isPresent field = true
  · rw [if_pos hpresent, if_pos hpresent]
    rfl
  · rw [if_neg hpresent, if_neg hpresent]
    cases find? lookup service field <;> rfl

/-- Once a field holds what it is to hold in the end, filling it again changes nothing. -/
theorem settled_of_get?_eq {args args' : Args} {field : String}
    (h : args'.get? field = settled lookup service args field) :
    settled lookup service args' field = settled lookup service args field := by
  cases hsupply : supply? lookup service args field with
  | none =>
    have hget : args'.get? field = args.get? field := by
      rw [h, settled, hsupply, Option.none_or]
    rw [settled, settled, supply?_congr hget, hget]
  | some v =>
    have hget : args'.get? field = some v := by
      rw [h, settled, hsupply, Option.some_or]
    have hfind : (find? lookup service field).map Json.str = some v := by
      rw [← supply?_of_missing (isPresent_eq_false_of_supply? hsupply), hsupply]
    -- The field may count as missing still, and is then filled with the same value.
    rw [← h, settled, hget, supply?, hfind]
    by_cases hpresent : args'.isPresent field = true
    · rw [if_pos hpresent, Option.none_or]
    · rw [if_neg hpresent, Option.some_or]

/-! ## All fields -/

theorem fill_cons (field : String) (fields : List String) (args : Args) :
    fill lookup service (field :: fields) args
      = ((fill lookup service fields (fillField lookup service args field).1).1,
          (fill lookup service fields (fillField lookup service args field).1).2
            + if (supply? lookup service args field).isSome then 1 else 0) := by
  rw [← snd_fillField, fill]
  dsimp only
  cases (fillField lookup service args field).2 <;> rfl

/-- **What every key holds in the end.** -/
theorem get?_fill_eq (fields : List String) (args : Args) (key : String) :
    (fill lookup service fields args).1.get? key
      = if key ∈ fields then settled lookup service args key else args.get? key := by
  induction fields generalizing args with
  | nil => rfl
  | cons field fields ih =>
    rw [fill_cons, ih]
    by_cases hkey : key = field
    · have hget : (fillField lookup service args field).1.get? key
          = settled lookup service args key := by
        rw [get?_fillField, if_pos hkey]
      rw [if_pos (List.mem_cons.2 (.inl hkey)), settled_of_get?_eq hget, hget, ite_self]
    · have hget : (fillField lookup service args field).1.get? key = args.get? key := by
        rw [get?_fillField, if_neg hkey]
      simp only [List.mem_cons, hkey, false_or, settled, supply?_congr hget, hget]

/-- An argument that is there, or that is no listed field, is left as it is. -/
theorem get?_fill {fields : List String} {args : Args} {key : String}
    (h : args.isPresent key = true ∨ key ∉ fields) :
    (fill lookup service fields args).1.get? key = args.get? key := by
  rw [get?_fill_eq]
  by_cases hkey : key ∈ fields
  · have hpresent : args.isPresent key = true := h.resolve_right (not_not_intro hkey)
    rw [if_pos hkey, settled, supply?_of_isPresent hpresent, Option.none_or]
  · rw [if_neg hkey]

theorem fill_of_all_present {fields : List String} {args : Args}
    (h : fields.all args.isPresent = true) : (fill lookup service fields args).1 = args := by
  refine Args.ext_get? fun key ↦ get?_fill ?_
  by_cases hkey : key ∈ fields
  · exact .inl (List.all_eq_true.1 h key hkey)
  · exact .inr hkey

theorem fill_fill (fields : List String) (args : Args) :
    (fill lookup service fields (fill lookup service fields args).1).1
      = (fill lookup service fields args).1 := by
  refine Args.ext_get? fun key ↦ ?_
  rw [get?_fill_eq]
  by_cases hkey : key ∈ fields
  · have hget : (fill lookup service fields args).1.get? key = settled lookup service args key := by
      rw [get?_fill_eq, if_pos hkey]
    rw [if_pos hkey, settled_of_get?_eq hget, hget]
  · rw [if_neg hkey]

/-! ## The order of the fields -/

/-- Filling one field neither fills another nor makes it present. -/
theorem supply?_fillField {field field' : String} (h : field' ≠ field) (args : Args) :
    supply? lookup service (fillField lookup service args field).1 field'
      = supply? lookup service args field' := by
  refine supply?_congr ?_
  rw [get?_fillField, if_neg h]

theorem fillField_comm (args : Args) (field field' : String) :
    (fillField lookup service (fillField lookup service args field).1 field').1
      = (fillField lookup service (fillField lookup service args field').1 field).1 := by
  by_cases hfield : field = field'
  · rw [hfield]
  · refine Args.ext_get? fun key ↦ ?_
    simp only [get?_fillField, settled]
    by_cases hkey : key = field
    · subst hkey
      simp [hfield, supply?_fillField hfield]
    · by_cases hkey' : key = field'
      · subst hkey'
        simp [hkey, supply?_fillField hkey]
      · simp [hkey, hkey']

theorem fill_swap (field field' : String) (fields : List String) (args : Args) :
    fill lookup service (field :: field' :: fields) args
      = fill lookup service (field' :: field :: fields) args := by
  by_cases hfield : field = field'
  · rw [hfield]
  · simp only [fill_cons, fillField_comm args field field', supply?_fillField (Ne.symm hfield),
      supply?_fillField hfield, Nat.add_right_comm]

/-- The fields may come in any order. -/
theorem fill_perm {fields fields' : List String} (h : fields.Perm fields') (args : Args) :
    fill lookup service fields args = fill lookup service fields' args := by
  induction h generalizing args with
  | nil => rfl
  | cons field _ ih => rw [fill_cons, fill_cons, ih]
  | swap field field' fields => exact fill_swap field' field fields args
  | trans _ _ ih ih' => rw [ih, ih']

/-! ## The number of fields filled -/

/-- What is found for the field is blank, so that the field counts as missing when it is filled. -/
def findsBlank (lookup : Lookup) (service field : String) : Bool :=
  (find? lookup service field).any Text.isBlank

theorem snd_fill {fields : List String} (hnodup : fields.Nodup) (args : Args) :
    (fill lookup service fields args).2
      = fields.countP fun field ↦ (supply? lookup service args field).isSome := by
  induction fields generalizing args with
  | nil => rfl
  | cons field fields ih =>
    rw [List.nodup_cons] at hnodup
    -- The fields that come later are other ones, so they are still filled as at the start.
    have hlater : ∀ field' ∈ fields,
        supply? lookup service (fillField lookup service args field).1 field'
          = supply? lookup service args field' := by
      intro field' hfield'
      refine supply?_fillField (fun heq ↦ hnodup.1 ?_) args
      rwa [← heq]
    rw [fill_cons, ih hnodup.2, List.countP_cons]
    refine congrArg (· + _) (List.countP_congr fun field' hfield' ↦ ?_)
    rw [hlater field' hfield']

section Gain

variable {fields : List String} {args : Args} {field : String}

theorem isPresent_fill_of_supply?_eq_none (h : supply? lookup service args field = none) :
    (fill lookup service fields args).1.isPresent field = args.isPresent field := by
  refine Args.isPresent_congr (Args.present?_congr ?_)
  rw [get?_fill_eq, settled, h, Option.none_or, ite_self]

theorem isPresent_fill_of_supply?_eq_some (hfield : field ∈ fields) {value : Json}
    (h : supply? lookup service args field = some value) :
    (fill lookup service fields args).1.isPresent field = value.isPresent := by
  have hget : (fill lookup service fields args).1.get? field = some value := by
    rw [get?_fill_eq, if_pos hfield, settled, h, Option.some_or]
  rw [Args.isPresent, Args.present?, hget]
  cases hvalue : value.isPresent <;> simp [hvalue]

/-- A field is gained if it is filled and there afterwards. -/
theorem supplied_and_present (fields : List String) (args : Args) (field : String) :
    ((supply? lookup service args field).isSome
        && (fill lookup service fields args).1.isPresent field)
      = (!args.isPresent field && (fill lookup service fields args).1.isPresent field) := by
  cases hsupply : supply? lookup service args field with
  | none =>
    rw [isPresent_fill_of_supply?_eq_none hsupply]
    cases args.isPresent field <;> rfl
  | some value =>
    rw [isPresent_eq_false_of_supply? hsupply]
    rfl

/-- A field that is filled and missing afterwards has been filled with a blank value. -/
theorem supplied_and_missing (hfield : field ∈ fields) :
    ((supply? lookup service args field).isSome
        && !(fill lookup service fields args).1.isPresent field)
      = (!args.isPresent field && findsBlank lookup service field) := by
  cases hpresent : args.isPresent field with
  | true => rw [supply?_of_isPresent hpresent]; rfl
  | false =>
    have hsupply : supply? lookup service args field = (find? lookup service field).map .str :=
      supply?_of_missing hpresent
    rw [hsupply, findsBlank]
    cases hfind : find? lookup service field with
    | none => rfl
    | some value =>
      rw [hfind] at hsupply
      rw [isPresent_fill_of_supply?_eq_some hfield hsupply]
      simp [Json.isPresent]

end Gain

theorem countP_findsBlank_eq_zero_iff {fields : List String} {args : Args} :
    fields.countP (fun field ↦ !args.isPresent field && findsBlank lookup service field) = 0 ↔
      ∀ field ∈ fields, args.isPresent field = false →
        ∀ value, lookup (variableName service field) = some value → value ≠ "" →
          Text.isBlank value = false := by
  rw [List.countP_eq_zero]
  refine forall₂_congr fun field _ ↦ ?_
  rw [Bool.and_eq_true, Bool.not_eq_true', not_and]
  refine imp_congr_right fun _ ↦ ?_
  rw [findsBlank, Bool.not_eq_true, Option.any_eq_false]
  simp only [find?_eq_some_iff, and_imp]

end Fallback

/-! ## Invocations -/

/-- Looking credentials up only where one of them is missing is no different from always doing
so. -/
theorem Registry.withCredentials_eq_fill (lookup : Fallback.Lookup) (name : String) (c : Connector)
    (args : Args) :
    withCredentials lookup name c args
      = (Fallback.fill lookup name c.credentialFields args).1 := by
  rw [withCredentials]
  by_cases hall : c.credentialFields.all args.isPresent = true
  · rw [if_pos hall, Fallback.fill_of_all_present hall]
  · rw [if_neg hall]

open Fallback (fill variableName) in
/-- **Looking up credentials settles the fields that are missing, and nothing else.** A listed field
that is missing takes the value that is found for it, unless that is empty, and every other argument
stays as it is, be it null, blank or not there. Doing so twice is no different from doing so once,
and the fields may be listed in any order. An invocation is the run of its service on the arguments
so filled. -/
theorem fill_settles_missing_fields (lookup : Fallback.Lookup) (service : String)
    (fields : List String) (args : Args) :
    let filled := (fill lookup service fields args).1
    (∀ key ∈ fields, args.isPresent key = false →
      ∀ value, lookup (variableName service key) = some value → value ≠ "" →
        filled.get? key = some (.str value)) ∧
    (∀ key, (key ∈ fields → args.isPresent key = false →
        ∀ value, lookup (variableName service key) = some value → value = "") →
      filled.get? key = args.get? key) ∧
    (fill lookup service fields filled).1 = filled ∧
    (∀ fields', fields'.Perm fields →
      fill lookup service fields' args = fill lookup service fields args) ∧
    ∀ (r : Registry) (c : Connector), r.get? service = some c →
      ∀ {σ : Type} (client : Http.Client σ) (now : Int),
        r.invoke client lookup now service args
          = c.run client (r.options service) now
              (fill lookup service c.credentialFields args).1 := by
  refine ⟨fun key hkey hmissing value hvalue hne ↦ ?_, fun key hother ↦ ?_,
    Fallback.fill_fill fields args, fun fields' hperm ↦ Fallback.fill_perm hperm args,
    fun r c hc σ client now ↦ ?_⟩
  · have hfind : Fallback.find? lookup service key = some value :=
      Fallback.find?_eq_some_iff.2 ⟨hvalue, hne⟩
    rw [Fallback.get?_fill_eq, if_pos hkey, Fallback.settled, Fallback.supply?, hmissing, hfind]
    rfl
  · by_cases hfill : key ∈ fields ∧ args.isPresent key = false
    · have hfind : Fallback.find? lookup service key = none := by
        refine Option.eq_none_iff_forall_ne_some.2 fun value hvalue ↦ ?_
        obtain ⟨hlookup, hne⟩ := Fallback.find?_eq_some_iff.1 hvalue
        exact hne (hother hfill.1 hfill.2 value hlookup)
      rw [Fallback.get?_fill_eq, if_pos hfill.1, Fallback.settled, Fallback.supply?, hfill.2, hfind]
      rfl
    · refine Fallback.get?_fill ?_
      by_cases hkey : key ∈ fields
      · exact .inl (eq_true_of_ne_false fun hmissing ↦ hfill ⟨hkey, hmissing⟩)
      · exact .inr hkey
  · rw [Registry.invoke, hc, ← Registry.withCredentials_eq_fill]

open Fallback (Lookup fill findsBlank variableName) in
/-- **The number of fields filled is the number gained, unless a blank value is found.** Of fields
that differ, those filled are the ones that were missing and are there afterwards, and besides them
the missing ones for which a blank value is found. So the number told is the number of fields gained
exactly if no value that is found for a missing field is blank, other than the empty one. -/
theorem filled_count_is_gain_iff_none_blank (lookup : Lookup) (service : String)
    {fields : List String} (hnodup : fields.Nodup) (args : Args) :
    let filled := fill lookup service fields args
    let gained := fields.countP fun field ↦ !args.isPresent field && filled.1.isPresent field
    filled.2 = gained
        + fields.countP (fun field ↦ !args.isPresent field && findsBlank lookup service field) ∧
      (filled.2 = gained ↔ ∀ field ∈ fields, args.isPresent field = false →
        ∀ value, lookup (variableName service field) = some value → value ≠ "" →
          Text.isBlank value = false) := by
  intro filled gained
  have hcount : filled.2 = gained
      + fields.countP (fun field ↦ !args.isPresent field && findsBlank lookup service field) := by
    -- Each field that is filled is there afterwards or is missing still.
    rw [Fallback.snd_fill hnodup args,
      List.countP_eq_countP_filter_add fields _ fun field ↦ filled.1.isPresent field,
      List.countP_filter, List.countP_filter]
    congr 1
    · refine List.countP_congr fun field _ ↦ ?_
      rw [Fallback.supplied_and_present]
    · refine List.countP_congr fun field hfield ↦ ?_
      rw [Fallback.supplied_and_missing hfield]
  refine ⟨hcount, ?_⟩
  rw [hcount, Nat.add_eq_left, Fallback.countP_findsBlank_eq_zero_iff]

/-- An environment that holds a user name made of spaces, and a token. -/
def environmentWithBlank (name : String) : Option String :=
  [("RELAYCALL_ZENDESK_EMAIL", "  "), ("RELAYCALL_ZENDESK_API_TOKEN", "secret")].lookup name

/-- Of two fields that are filled, one is gained. -/
theorem one_of_two_filled_is_gained :
    ["email", "api_token"].Nodup ∧
      (Fallback.fill environmentWithBlank "zendesk" ["email", "api_token"] .empty).2 = 1 + 1 ∧
      ¬ ∀ field ∈ ["email", "api_token"], Args.empty.isPresent field = false →
        ∀ value, environmentWithBlank (Fallback.variableName "zendesk" field) = some value →
          value ≠ "" → Text.isBlank value = false := by
  have hnodup : ["email", "api_token"].Nodup := by decide
  obtain ⟨hcount, hexact⟩ :=
    filled_count_is_gain_iff_none_blank environmentWithBlank "zendesk" hnodup .empty
  have hgained : ["email", "api_token"].countP (fun field ↦ !Args.empty.isPresent field &&
      (Fallback.fill environmentWithBlank "zendesk" ["email", "api_token"]
        .empty).1.isPresent field) = 1 := by decide +kernel
  have hblank : ["email", "api_token"].countP (fun field ↦ !Args.empty.isPresent field &&
      Fallback.findsBlank environmentWithBlank "zendesk" field) = 1 := by decide +kernel
  rw [hgained, hblank] at hcount
  refine ⟨hnodup, hcount, fun hnone ↦ ?_⟩
  rw [← hexact, hcount, hgained] at hnone
  cases hnone

/-- A look-up of a contact without a token. -/
def contactWithoutToken : Args :=
  ⟨.ofList [("operation", .str "get_contact"), ("contact_id", .int 35)]⟩

/-- A token made of a space is counted as filled in, and the call is refused for the token that is
missing still. -/
theorem blank_token_is_counted_and_missing :
    let filled := Fallback.fill (fun _ ↦ some " ") "hubspot" ["access_token"] contactWithoutToken
    ["access_token"].Nodup ∧ filled.2 = 1 ∧
      ["access_token"].countP (fun field ↦ !contactWithoutToken.isPresent field &&
        filled.1.isPresent field) = 0 ∧
      Catalog.HubSpot.connector.prepare none filled.1 = .error (.noCredential "access_token") := by
  refine ⟨by decide, by decide +kernel, by decide +kernel, ?_⟩
  rfl

end ServiceCall

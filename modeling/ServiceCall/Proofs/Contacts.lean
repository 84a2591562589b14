import ServiceCall.Proofs.LastWrites

/-!
# Contacts

The properties of a contact come from two sources: arguments of their own for the known fields, and
an object with further properties, which may name known fields as well. The sources are merged key
by key (`contact_merges_named_and_free_form`). A known field that is present wins; what is null or
blank counts as left out in both sources, so that it hides nothing in the other one.

The free-form object is passed on without its entries that are null or blank (`Json.Offers`). An
object that is a table has one entry under a key, and then nothing is to be said of several ones
(`Json.offers_ofTable_iff`).
-/

namespace ServiceCall

/-! ## What an object offers -/

namespace Json

/-- The value is an object with this value under the key, neither null nor blank. Of several such
entries the last one counts. -/
def Offers (v : Json) (key : String) (w : Json) : Prop :=
  ∃ fields, v = .obj fields ∧ IsLast (fun e ↦ e.1 = key ∧ e.2.isPresent = true) fields (key, w)

theorem offers_ofTable_iff {t : Table Json} {key : String} {w : Json} :
    (ofTable t).Offers key w ↔ t.get? key = some w ∧ w.isPresent = true := by
  have hunique : ∀ d ∈ t.entries, ∀ e ∈ t.entries,
      (d.1 = key ∧ d.2.isPresent = true) → (e.1 = key ∧ e.2.isPresent = true) → d = e := by
    rintro ⟨k, v⟩ hd ⟨l, w⟩ he ⟨rfl, -⟩ ⟨rfl, -⟩
    have hvw : some v = some w :=
      (Table.get?_eq_some_iff.2 hd).symm.trans (Table.get?_eq_some_iff.2 he)
    rw [Option.some.inj hvw]
  constructor
  · rintro ⟨fields, hfields, hlast⟩
    obtain rfl : t.entries = fields := Json.obj.inj hfields
    exact ⟨Table.get?_eq_some_iff.2 hlast.mem, hlast.holds.2⟩
  · rintro ⟨hget, hpresent⟩
    refine ⟨t.entries, rfl, (isLast_iff_mem hunique).2 ?_⟩
    exact ⟨Table.get?_eq_some_iff.1 hget, rfl, hpresent⟩

theorem fields?_eq_some_iff {v : Json} {fields : List (String × Json)} :
    v.fields? = some fields ↔ v = .obj fields := by
  cases v <;> simp [fields?]

end Json

namespace Part

variable {args : Args} {arg key : String} {w : Json}

/-- Of entries put in one after the other, but for those that are null or blank, the last one under
a key is kept. -/
theorem get?_addAll_filter_eq_some_iff {fields : List (String × Json)} {payload : Payload} :
    (addAll payload (fields.filter (·.2.isPresent))).get? key = some w ↔
      IsLast (fun e ↦ e.1 = key ∧ e.2.isPresent = true) fields (key, w) ∨
        (∀ e ∈ fields, ¬ (e.1 = key ∧ e.2.isPresent = true)) ∧ payload.get? key = some w := by
  have hstep : ∀ (t : Payload) (e : String × Json),
      (if e.2.isPresent = true then t.insert e.1 e.2 else t).get? key
        = if e.1 = key ∧ e.2.isPresent = true then some e.2 else t.get? key := by
    intro t e
    by_cases hpresent : e.2.isPresent = true
    · rw [if_pos hpresent, Table.get?_insert]
      simp only [hpresent, and_true, eq_comm]
    · rw [if_neg hpresent, if_neg fun h ↦ hpresent h.2]
  rw [addAll, List.foldl_filter, foldl_eq_some_iff_of_ite (fun t : Payload ↦ t.get? key) hstep,
    exists_isLast_entry_iff fun _ h ↦ h.1]

/-- An object is there as soon as it is given: no object is null or blank. -/
theorem bind_fields?_present? :
    (args.present? arg).bind Json.fields? = (args.get? arg).bind Json.fields? := by
  rw [Args.present?]
  rcases args.get? arg with _ | (_ | b | n | s | items | fields)
  · rfl
  · rfl
  · rfl
  · rfl
  · cases hs : (Json.str s).isPresent <;> simp [Option.filter, hs, Json.fields?]
  · rfl
  · rfl

theorem get?_apply_presentEntries_eq_some_iff :
    (apply args .empty (presentEntries arg)).get? key = some w ↔
      ∃ v, args.get? arg = some v ∧ v.Offers key w := by
  rw [apply, bind_fields?_present?, get?_addAll_filter_eq_some_iff, Table.get?_empty]
  constructor
  · rintro (hlast | ⟨-, hnone⟩)
    · cases hfields : (args.get? arg).bind Json.fields? with
      | none =>
        rw [hfields] at hlast
        exact absurd hlast not_isLast_nil
      | some fields =>
        rw [hfields] at hlast
        obtain ⟨v, hv, hobject⟩ := Option.bind_eq_some_iff.1 hfields
        exact ⟨v, hv, fields, Json.fields?_eq_some_iff.1 hobject, hlast⟩
    · cases hnone
  · rintro ⟨v, hv, fields, rfl, hlast⟩
    rw [hv]
    exact .inl hlast

end Part

/-! ## Bodies of contacts -/

namespace Catalog.HubSpot

/-- The properties of a contact. -/
def contactProperties (args : Args) : Payload :=
  Part.build (.presentEntries "properties" :: Part.copies contactFields) args

theorem payload?_contact {operation : String}
    (h : operation = "create_contact" ∨ operation = "update_contact") (args : Args) :
    connector.payload? operation args
      = some (Table.empty.insert "properties" (.ofTable (contactProperties args))) := by
  have hbody : (connector.operations.get? operation).bind (·.body) = some contactBody := by
    rcases h with rfl | rfl <;> rfl
  rw [Connector.payload?_of_body hbody, contactBody, Part.build_object, contactProperties]

theorem get?_contactProperties (args : Args) (key : String) :
    (contactProperties args).get? key
      = if key ∈ contactFields then (args.present? key).or
          ((Part.apply args .empty (.presentEntries "properties")).get? key)
        else (Part.apply args .empty (.presentEntries "properties")).get? key := by
  rw [contactProperties, Part.build, Part.applyAll, Part.get?_applyAll_copies]

theorem get?_contactProperties_of_present {args : Args} {key : String} {w : Json}
    (hkey : key ∈ contactFields) (hw : args.present? key = some w) :
    (contactProperties args).get? key = some w := by
  rw [get?_contactProperties, if_pos hkey, hw, Option.some_or]

/-- Where no known field is present, the free-form object is asked. -/
theorem get?_contactProperties_eq_some_iff_of_missing {args : Args} {key : String} {w : Json}
    (hkey : key ∈ contactFields → args.isPresent key = false) :
    (contactProperties args).get? key = some w ↔
      ∃ v, args.get? "properties" = some v ∧ v.Offers key w := by
  rw [← Part.get?_apply_presentEntries_eq_some_iff, get?_contactProperties]
  by_cases hknown : key ∈ contactFields
  · rw [if_pos hknown, Args.present?_eq_none_iff.2 (hkey hknown), Option.none_or]
  · rw [if_neg hknown]

theorem get?_contactProperties_eq_some_iff {args : Args} {key : String} {w : Json} :
    (contactProperties args).get? key = some w ↔
      key ∈ contactFields ∧ args.present? key = some w ∨
        (key ∈ contactFields → args.isPresent key = false) ∧
          ∃ v, args.get? "properties" = some v ∧ v.Offers key w := by
  by_cases hkey : key ∈ contactFields → args.isPresent key = false
  · have hno : ¬ (key ∈ contactFields ∧ args.present? key = some w) := by
      rintro ⟨hknown, hw⟩
      rw [Args.present?_eq_none_iff.2 (hkey hknown)] at hw
      cases hw
    rw [get?_contactProperties_eq_some_iff_of_missing hkey, iff_false_intro hno, false_or,
      and_iff_right hkey]
  · obtain ⟨hknown, hpresent⟩ : key ∈ contactFields ∧ args.isPresent key = true := by
      simpa using hkey
    obtain ⟨u, hu⟩ := Option.isSome_iff_exists.1 hpresent
    rw [get?_contactProperties_of_present hknown hu, hu, iff_false_intro hkey, false_and, or_false,
      and_iff_right hknown]

theorem email_mem_required {op : Operation}
    (hop : connector.operations.get? "create_contact" = some op) :
    ⟨"email", some Json.isEmail⟩ ∈ op.required := by
  cases hop
  exact .head _

end Catalog.HubSpot

/-- **A contact is merged from what is named and what is free-form.** The body of an accepted call
is an object with the properties and nothing else. A property is the argument of that name, as it
is, if it is a known field and present, and otherwise what the free-form object has there that is
neither null nor blank; all others are missing. So a known field that is left out, null or blank
takes nothing away from the free-form object. A new contact has the email that was checked, whatever
email is in the free-form object. -/
theorem contact_merges_named_and_free_form {base : Option String} {args : Args} {call : Call}
    (h : Catalog.HubSpot.connector.prepare base args = .ok call)
    (hoperation : call.operation = "create_contact" ∨ call.operation = "update_contact") :
    ∃ payload properties : Table Json, call.payload = some payload ∧
      payload.keys = ["properties"] ∧ payload.get? "properties" = some (.ofTable properties) ∧
      (∀ key w, properties.get? key = some w ↔
        key ∈ Catalog.HubSpot.contactFields ∧ args.present? key = some w ∨
          (key ∈ Catalog.HubSpot.contactFields → args.isPresent key = false) ∧
            ∃ v, args.get? "properties" = some v ∧ v.Offers key w) ∧
      (∀ freeForm : Table Json, args.get? "properties" = some (.ofTable freeForm) → ∀ key,
        (key ∈ Catalog.HubSpot.contactFields → args.isPresent key = false) →
          properties.get? key = (freeForm.get? key).filter Json.isPresent) ∧
      (call.operation = "create_contact" → ∃ email, args.get? "email" = some email ∧
        email.isEmail = true ∧ properties.get? "email" = some email) := by
  obtain ⟨op, hop, hcheck, hpayload⟩ := Connector.exists_operation_of_prepare h
  rw [Catalog.HubSpot.payload?_contact hoperation] at hpayload
  refine ⟨_, _, hpayload, rfl, Table.get?_insert_self _ _ _,
    fun key w ↦ Catalog.HubSpot.get?_contactProperties_eq_some_iff,
    fun freeForm hfree key hkey ↦ ?_, fun hcreate ↦ ?_⟩
  · refine Option.ext fun w ↦ ?_
    rw [Catalog.HubSpot.get?_contactProperties_eq_some_iff_of_missing hkey, hfree,
      Option.filter_eq_some_iff, ← Json.offers_ofTable_iff]
    simp
  · rw [hcreate] at hop
    obtain ⟨email, hemail, haccepted⟩ :=
      Operation.exists_present_of_check hcheck (Catalog.HubSpot.email_mem_required hop)
    exact ⟨email, (Args.present?_eq_some_iff.1 hemail).1, haccepted,
      Catalog.HubSpot.get?_contactProperties_of_present (by decide) hemail⟩

/-- A new contact with two emails, two first names of which the named one is blank, and a number
that is null. -/
def twofoldContact : Args :=
  ⟨.ofList [("operation", .str "create_contact"), ("access_token", .str "t"),
    ("email", .str "jane@example.com"), ("firstname", .str " "), ("lastname", .str "Doe"),
    ("properties", .object [("email", .str "other@example.com"), ("firstname", .str "Jane"),
      ("city", .str "Oslo"), ("fax", .null)])]⟩

theorem twofold_contact_is_merged :
    ∃ call payload properties,
      Catalog.HubSpot.connector.prepare none twofoldContact = .ok call ∧
      call.operation = "create_contact" ∧ call.payload = some payload ∧
      payload.get? "properties" = some (.ofTable properties) ∧
      properties.get? "email" = some (.str "jane@example.com") ∧
      properties.get? "firstname" = some (.str "Jane") ∧
      properties.get? "lastname" = some (.str "Doe") ∧
      properties.get? "city" = some (.str "Oslo") ∧ properties.get? "fax" = none := by
  have hcall : (Catalog.HubSpot.connector.prepare none twofoldContact).toOption.map Call.operation
      = some "create_contact" := by
    decide +kernel
  obtain ⟨call, hprepare, hoperation⟩ := exists_eq_ok_of_toOption hcall
  obtain ⟨payload, properties, hpayload, -, hproperties, hmerged, hfree, hemail⟩ :=
    contact_merges_named_and_free_form hprepare (.inl hoperation)
  obtain ⟨email, hget, -, hsent⟩ := hemail hoperation
  have hfreeForm := hfree (.ofList [("email", .str "other@example.com"),
    ("firstname", .str "Jane"), ("city", .str "Oslo"), ("fax", .null)]) (by decide +kernel)
  refine ⟨call, payload, properties, hprepare, hoperation, hpayload, hproperties,
    ?_, ?_, ?_, ?_, ?_⟩
  · have hemail' : twofoldContact.get? "email" = some (.str "jane@example.com") := by
      decide +kernel
    rw [hsent, ← hget, hemail']
  · rw [hfreeForm "firstname" (by decide +kernel)]
    decide +kernel
  · exact (hmerged "lastname" _).2 (.inl (by decide +kernel))
  · rw [hfreeForm "city" (by decide +kernel)]
    decide +kernel
  · rw [hfreeForm "fax" (by decide +kernel)]
    decide +kernel

end ServiceCall

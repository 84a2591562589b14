import ServiceCall.Catalog
import ServiceCall.Proofs.Outlines
import ServiceCall.Proofs.Presence

/-!
# Keys as texts and as objects

The key of a service account may be given as a JSON text or as the object that this text holds. Of
an object its printed form is read instead of the text that it came from. The two texts differ in
blanks, escapes and the order of the fields, and in whatever unknown fields hold; none of this
matters for the key (`key_text_and_object_agree`).

What matters is a field that the text gives twice. A record refuses a name that is repeated, while
in an object only the last of equal fields is left. So the text is refused and the object may be
taken.
-/

namespace ServiceCall

open Json (outline? sketch textual?)

/-! ## Records from texts and from objects -/

namespace Json

theorem lookup_map_sketch (fields : List (String × Json)) (name : String) :
    (fields.map sketch).lookup name = (fields.lookup name).map textual? := by
  induction fields with
  | nil => rfl
  | cons e fields ih =>
    obtain ⟨key, v⟩ := e
    rw [List.map_cons, sketch, Table.lookup_cons_ite, Table.lookup_cons_ite, ih]
    split <;> rfl

theorem map_fst_sketch (fields : List (String × Json)) :
    (fields.map sketch).map Prod.fst = fields.map Prod.fst := by
  rw [List.map_map]
  rfl

namespace Shape

variable {shape : Shape} {text : String} {fields : List (String × Json)}
  {entries : List (String × Option Json)}
  (htextual : ∀ f ∈ shape.fields, f.slot.IsTextual) (hread : read? text = some (obj fields))
  (houtline : outline? text = some entries)

include htextual hread houtline

/-- Unless a known name is repeated, a record is read from a text as from the object in it. -/
theorem toOption_read_compact
    (honce : ∀ name, Knows shape.fields name → (entries.map Prod.fst).count name ≤ 1) :
    (shape.read text).toOption = (shape.read (obj fields).compact).toOption := by
  obtain ⟨given, hgiven, rfl⟩ := exists_outline?_of_read? hread
  obtain rfl : given.map sketch = entries := Option.some.inj (hgiven.symm.trans houtline)
  have hprinted := outline?_compact (Table.ofList given).entries
  have hlookup : ∀ name, Knows shape.fields name →
      (((Table.ofList given).entries.map sketch).lookup name)
        = (given.map sketch).lookup name := by
    intro name hname
    have hcount := honce name hname
    rw [map_fst_sketch] at hcount
    rw [lookup_map_sketch, lookup_map_sketch]
    exact congrArg _ (Table.get?_ofList_of_count hcount)
  have hcount : ∀ name,
      (((Table.ofList given).entries.map sketch).map Prod.fst).count name ≤ 1 := by
    intro name
    rw [map_fst_sketch]
    exact List.nodup_iff_count_le_one.1 (Table.ofList given).nodup_keys name
  have haccepts : Accepts shape.fields (given.map sketch) ↔
      Accepts shape.fields ((Table.ofList given).entries.map sketch) := by
    rw [accepts_iff_lookup, accepts_iff_lookup]
    refine forall₃_congr fun name f hf ↦ ?_
    rw [hlookup name ⟨f, hf⟩]
    exact and_congr_left fun _ ↦ iff_of_true (honce name ⟨f, hf⟩) (hcount name)
  by_cases htaken : Accepts shape.fields (given.map sketch)
  · rw [toOption_read_of_accepts htextual houtline htaken,
      toOption_read_of_accepts htextual hprinted (haccepts.1 htaken)]
    exact mapM_congr fun f hf ↦ by rw [hlookup f.name (knows_of_mem hf)]
  · rw [toOption_read_of_not_accepts htextual houtline htaken,
      toOption_read_of_not_accepts htextual hprinted fun h ↦ htaken (haccepts.2 h)]

end Shape

end Json

/-! ## Keys -/

namespace ServiceAccount.Key

def names : List String := shape.fields.map (·.name)

theorem isTextual_of_mem_fields : ∀ f ∈ shape.fields, f.slot.IsTextual := by
  intro f hf
  simp only [shape, List.mem_cons, List.not_mem_nil, or_false] at hf
  rcases hf with rfl | rfl | rfl | rfl
  · exact .inl rfl
  · exact .inl rfl
  · exact .inl rfl
  · exact .inr rfl

/-- What is read of the record tells the key, or that there is none. -/
theorem toOption_read_congr {text text' : String}
    (h : (shape.read text).toOption = (shape.read text').toOption) :
    (read text).toOption = (read text').toOption := by
  rw [read, read]
  cases hread : shape.read text with
  | error f =>
    rw [hread] at h
    obtain ⟨f', hf'⟩ := Json.exists_eq_error_of_toOption h.symm
    rw [hf']
    rfl
  | ok values =>
    rw [hread] at h
    rw [Json.toOption_eq_some_iff.1 h.symm]
    split <;> rfl

variable {text : String} {entries : List (String × Option Json)}
  (houtline : outline? text = some entries)

include houtline

/-- A text that gives a field of the key twice is refused. -/
theorem toOption_read_of_repeated {name : String} (hname : name ∈ names)
    (hcount : 1 < (entries.map Prod.fst).count name) : (read text).toOption = none := by
  have hnot : ¬ Json.Shape.Accepts shape.fields entries := fun haccepts ↦
    Nat.not_le_of_lt hcount (haccepts.once name (Json.Shape.knows_iff_mem.2 hname))
  have hnone := Json.Shape.toOption_read_of_not_accepts isTextual_of_mem_fields houtline hnot
  obtain ⟨f, hf⟩ := Json.exists_eq_error_of_toOption hnone
  rw [read, hf]
  rfl

/-- A text that gives each field of the key once at most is the key that its object is. -/
theorem toOption_read_compact {fields : List (String × Json)}
    (hread : Json.read? text = some (.obj fields))
    (honce : ∀ name ∈ names, (entries.map Prod.fst).count name ≤ 1) :
    (read text).toOption = (read (Json.obj fields).compact).toOption :=
  toOption_read_congr (Json.Shape.toOption_read_compact isTextual_of_mem_fields hread houtline
    fun name hname ↦ honce name (Json.Shape.knows_iff_mem.1 hname))

end ServiceAccount.Key

/-! ## Credentials -/

open ServiceAccount (Key)

namespace Credentials

theorem isPresent_str_of_outline? {text : String} {entries : List (String × Option Json)}
    (houtline : outline? text = some entries) : (Json.str text).isPresent = true := by
  obtain ⟨cs, hcs⟩ := Json.exists_skipGaps_of_outline? houtline
  have hbrace : '\x7b' ∈ Json.skipGaps text.toList := hcs ▸ List.mem_cons_self
  have hmem : '\x7b' ∈ text.toList := (List.dropWhile_sublist Json.isGap).subset hbrace
  rw [Json.isPresent, Bool.not_eq_true', ← Bool.not_eq_true, Text.isBlank_iff]
  exact fun hblank ↦ absurd (hblank _ hmem) (by decide)

variable (args : Args) (arg : String)

/-- A text that holds an object is not blank, and is taken as it stands. -/
theorem keyText_str {text : String} {entries : List (String × Option Json)}
    (houtline : outline? text = some entries) :
    keyText (args.insert arg (.str text)) arg = text := by
  have hpresent : (args.insert arg (.str text)).present? arg = some (.str text) :=
    Args.present?_eq_some_iff.2 ⟨by simp, isPresent_str_of_outline? houtline⟩
  rw [keyText, hpresent]

theorem keyText_obj (fields : List (String × Json)) :
    keyText (args.insert arg (.obj fields)) arg = (Json.obj fields).compact := by
  have hpresent : (args.insert arg (.obj fields)).present? arg = some (.obj fields) :=
    Args.present?_eq_some_iff.2 ⟨by simp, rfl⟩
  rw [keyText, hpresent]

end Credentials

/-- **A key as text or as an object.** Let a text hold an object. A service that is reached with the
key of an account is given the same key by both, or none, if the text gives each field of the key
once at most. A text that gives one of them again is refused, whatever becomes of the object. The
scopes and the user in whose name is asked are the same either way. -/
theorem key_text_and_object_agree {c : Connector}
    (hc : c ∈ [Catalog.BigQuery.connector, Catalog.GoogleDocs.connector]) {text : String}
    {fields : List (String × Json)} (hread : Json.read? text = some (.obj fields)) :
    (∀ args : Args, ∃ scopes subject,
      c.credentials.read (args.insert "service_account_json" (.str text))
        = .serviceAccount text scopes subject ∧
      c.credentials.read (args.insert "service_account_json" (.obj fields))
        = .serviceAccount (Json.obj fields).compact scopes subject) ∧
    ∃ entries, outline? text = some entries ∧
      ((∀ name ∈ Key.names, (entries.map Prod.fst).count name ≤ 1) →
        (Key.read text).toOption = (Key.read (Json.obj fields).compact).toOption) ∧
      ((∃ name ∈ Key.names, 1 < (entries.map Prod.fst).count name) →
        (Key.read text).toOption = none) := by
  obtain ⟨given, houtline, -⟩ := Json.exists_outline?_of_read? hread
  obtain ⟨scopes, hsource⟩ : ∃ scopes,
      c.credentials = .serviceAccount "service_account_json" scopes "subject" := by
    simp only [List.mem_cons, List.not_mem_nil, or_false] at hc
    rcases hc with rfl | rfl <;> exact ⟨_, rfl⟩
  have hsubject : ∀ (args : Args) (v : Json),
      (args.insert "service_account_json" v).text? "subject" = args.text? "subject" := fun args v ↦
    Args.text?_congr (Args.present?_congr (by simp))
  refine ⟨fun args ↦ ⟨scopes, args.text? "subject", ?_, ?_⟩, _, houtline, ?_, ?_⟩
  · rw [hsource, Credentials.Source.read, Credentials.keyText_str args _ houtline, hsubject]
  · rw [hsource, Credentials.Source.read, Credentials.keyText_obj, hsubject]
  · exact Key.toOption_read_compact houtline hread
  · rintro ⟨name, hname, hcount⟩
    exact Key.toOption_read_of_repeated houtline hname hcount

/-- A key with an escape in a name, and with an unknown field that holds more than texts. -/
def escapedKey : String :=
  "\x7b\"private_key\": \"none\", \"note\": [1.5, \x7b\"a\": null\x7d], " ++
    "\"client_\\u0065mail\": \"a@x\"\x7d"

/-- The escapes are undone, the order is another one, and the key is the same. -/
theorem escaped_key_agrees_with_object :
    ∃ fields, Json.read? escapedKey = some (.obj fields) ∧
      (∀ args : Args, ∃ scopes subject,
        Catalog.BigQuery.connector.credentials.read
            (args.insert "service_account_json" (.str escapedKey))
          = .serviceAccount escapedKey scopes subject ∧
        Catalog.BigQuery.connector.credentials.read
            (args.insert "service_account_json" (.obj fields))
          = .serviceAccount (Json.obj fields).compact scopes subject) ∧
      (Key.read escapedKey).toOption = (Key.read (Json.obj fields).compact).toOption ∧
      (Key.read escapedKey).toOption = some ⟨"a@x", "none", Key.usualTokenUri, none⟩ := by
  have hobject : ((Json.read? escapedKey).bind Json.fields?).isSome = true := by decide +kernel
  have houtline : outline? escapedKey = some [("private_key", some (.str "none")), ("note", none),
      ("client_email", some (.str "a@x"))] := by decide +kernel
  obtain ⟨fields, hfields⟩ := Option.isSome_iff_exists.1 hobject
  obtain ⟨v, hread, hv⟩ := Option.bind_eq_some_iff.1 hfields
  obtain rfl : v = .obj fields := by
    cases v with
    | obj fields' => exact congrArg _ (Option.some.inj hv)
    | _ => cases hv
  obtain ⟨hforms, entries, hentries, hsame, -⟩ :=
    key_text_and_object_agree (c := Catalog.BigQuery.connector) List.mem_cons_self hread
  obtain rfl := Option.some.inj (houtline.symm.trans hentries)
  exact ⟨fields, hread, hforms, hsame (by decide +kernel), by decide +kernel⟩

/-- A key that names two addresses, of which an object keeps the last. -/
def twiceNamedKey : String :=
  "\x7b\"client_email\": \"a@x\", \"client_email\": \"b@x\", \"private_key\": \"none\"\x7d"

def twiceNamedFields : List (String × Json) :=
  [("client_email", .str "b@x"), ("private_key", .str "none")]

/-- The text and the object in it do not amount to the same key. -/
theorem key_named_twice_is_taken_as_object_only :
    Json.read? twiceNamedKey = some (.obj twiceNamedFields) ∧
      (∃ scopes subject,
        Catalog.BigQuery.connector.credentials.read
            (Args.empty.insert "service_account_json" (.str twiceNamedKey))
          = .serviceAccount twiceNamedKey scopes subject ∧
        Catalog.BigQuery.connector.credentials.read
            (Args.empty.insert "service_account_json" (.obj twiceNamedFields))
          = .serviceAccount (Json.obj twiceNamedFields).compact scopes subject) ∧
      (Key.read twiceNamedKey).toOption = none ∧
      (Key.read (Json.obj twiceNamedFields).compact).toOption
        = some ⟨"b@x", "none", Key.usualTokenUri, none⟩ := by
  refine ⟨by decide +kernel, ⟨[Catalog.BigQuery.scope], none, ?_, ?_⟩, ?_, ?_⟩
  all_goals decide +kernel

end ServiceCall

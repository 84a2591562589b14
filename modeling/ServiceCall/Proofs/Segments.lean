import ServiceCall.Proofs.Addresses

/-!
# Gaps in addresses

Every argument with a place in an address is checked to be there. What fills the place is the text
of the argument, and a list or an object is there without having one: its place stays empty.

The call is accepted all the same. What it addresses then is something else, in most services the
collection instead of one of its members, and where the place is that of the customer, the host
begins with a dot. `address_has_gap_iff_composite` says that no other arguments leave a place empty.

## Reading gaps off an address

An address is an arbitrary text here, so a gap is defined through its slashes alone
(`Call.pathSegments`). That the segments found this way are those of the template, filled one by
one, is where escaping is used: an argument brings in no slash of its own.
-/

namespace ServiceCall

open Encoding (Percent.segment)

/-! ## What fills a place -/

namespace Piece

variable {args : Args} {arg : String}

theorem exists_text_inserted (hpresent : args.isPresent arg = true)
    (hscalar : args.isComposite arg = false) :
    ∃ t, args.Holds arg t ∧ inserted args arg = Percent.segment t ∧ inserted args arg ≠ "" := by
  obtain ⟨t, ht, hblank⟩ := Args.exists_holds hpresent hscalar
  have hinserted : inserted args arg = Percent.segment t := inserted_of_text? ht
  refine ⟨t, ⟨ht, hblank⟩, hinserted, fun hempty ↦ ?_⟩
  rw [hinserted, Encoding.Percent.segment_eq_empty_iff] at hempty
  rw [hempty] at hblank
  cases hblank

theorem inserted_of_isComposite (h : args.isComposite arg = true) : inserted args arg = "" :=
  inserted_of_text?_eq_none (Args.text?_of_isComposite h)

theorem inserted_eq_empty_iff (hpresent : args.isPresent arg = true) :
    inserted args arg = "" ↔ args.isComposite arg = true := by
  refine ⟨fun hempty ↦ ?_, inserted_of_isComposite⟩
  cases hscalar : args.isComposite arg with
  | true => rfl
  | false =>
    obtain ⟨t, -, -, hne⟩ := exists_text_inserted hpresent hscalar
    exact absurd hempty hne

end Piece

/-! ## Every place is asked for -/

theorem Operation.isPresent_of_check {op : Operation} {args : Args} (h : op.check args = .ok ())
    {arg : String} (harg : arg ∈ op.required.map (·.name)) : args.isPresent arg = true := by
  obtain ⟨r, hr, rfl⟩ := List.mem_map.1 harg
  obtain ⟨v, hv, -⟩ := exists_present_of_check h hr
  rw [Args.isPresent, hv]
  rfl

namespace Catalog

theorem arguments_asked_for : ∀ p ∈ sites, ∀ e ∈ p.1.operations.entries,
    ∀ arg ∈ p.2.arguments e.2, arg ∈ p.1.connectionFields ∨ arg ∈ e.2.required.map (·.name) := by
  intro p hp
  simp only [sites, List.mem_cons, List.not_mem_nil, or_false] at hp
  rcases hp with rfl | rfl | rfl | rfl | rfl | rfl | rfl
  all_goals exact Table.forall_mem_entries_ofList (by decide +kernel)

theorem connectionFields_placed : ∀ p ∈ sites, ∀ arg ∈ p.1.connectionFields,
    arg ∈ p.2.customer.toList ++ Piece.reads p.2.root := by
  decide +kernel

/-- What fills the host is the name of the customer, which a dot follows, or nothing. -/
theorem head?_domain_eq_dot_iff : ∀ p ∈ sites,
    (p.2.domain.toList.head? = some '.' ↔ p.2.customer.isSome = true) := by
  decide +kernel

end Catalog

/-! ## The segments of an address -/

/-- What stands between the slashes of an address, behind its host. -/
def Call.pathSegments (call : Call) : List String :=
  ((call.url.toList.splitOn '/').drop 3).map String.ofList

namespace Call.Addressed

variable {c : Connector} {args : Args} {call : Call} {site : Site} {op : Operation}
  (h : call.Addressed c args site op)
include h

theorem toList_url_eq : call.url.toList = "https://".toList ++ (site.host args).toList ++
    '/' :: Template.fill args (site.tail op) := by
  rw [h.toList_url, Site.template, Template.fill_append, Site.fill_front,
    Site.ofPieces_path h.isRegular]
  rfl

theorem slash_notMem_host : '/' ∉ (site.host args).toList := by
  intro hslash
  rcases h.isPlainChar_or_eq_of_mem_host hslash with hplain | hsign
  · cases hplain
  · cases hsign

/-- The segments are those of the path alone: of the slashes in front of it, two stand between
scheme and host, and the host has none. -/
theorem pathSegments_eq_splitOn : call.pathSegments
    = ((Template.fill args (site.tail op)).splitOn '/').map String.ofList := by
  have hscheme (cs : List Char) :
      "https://".toList ++ cs = "https:".toList ++ '/' :: ([] ++ '/' :: cs) := by simp
  have hsplit : call.url.toList.splitOn '/' = "https:".toList :: [] :: (site.host args).toList ::
      (Template.fill args (site.tail op)).splitOn '/' := by
    rw [h.toList_url_eq, List.append_assoc, hscheme,
      List.splitOn_append_cons_self_of_not_mem (by decide),
      List.splitOn_append_cons_self_of_not_mem List.not_mem_nil,
      List.splitOn_append_cons_self_of_not_mem h.slash_notMem_host]
  rw [Call.pathSegments, hsplit]
  rfl

theorem pathSegments_eq :
    call.pathSegments = (site.segments op).map fun t ↦ String.ofList (Template.fill args t) := by
  rw [h.pathSegments_eq_splitOn, Template.splitOn_fill, List.map_map]
  rfl

theorem fill_segment_eq_nil_iff {t : Template} (ht : t ∈ site.segments op) :
    Template.fill args t = [] ↔
      ∃ arg, Template.place? t = some arg ∧ Piece.inserted args arg = "" :=
  Template.fill_eq_nil_iff (Site.isSimple_of_mem_segments h.isRegular ht)

theorem empty_mem_pathSegments_iff :
    "" ∈ call.pathSegments ↔ ∃ arg ∈ site.fillers op, Piece.inserted args arg = "" := by
  rw [h.pathSegments_eq, List.mem_map]
  constructor
  · rintro ⟨t, ht, hempty⟩
    obtain ⟨arg, hplace, hinserted⟩ :=
      (h.fill_segment_eq_nil_iff ht).1 (String.ofList_eq_empty_iff.1 hempty)
    exact ⟨arg, List.mem_filterMap.2 ⟨t, ht, hplace⟩, hinserted⟩
  · rintro ⟨arg, harg, hinserted⟩
    obtain ⟨t, ht, hplace⟩ := List.mem_filterMap.1 harg
    have hempty := (h.fill_segment_eq_nil_iff ht).2 ⟨arg, hplace, hinserted⟩
    exact ⟨t, ht, String.ofList_eq_empty_iff.2 hempty⟩

theorem getLast?_url_eq_slash_iff :
    call.url.toList.getLast? = some '/' ↔
      ∃ arg, site.lastFiller? op = some arg ∧ Piece.inserted args arg = "" := by
  have hlast : call.url.toList.getLast? = some '/' ↔
      ((site.segments op).map (Template.fill args)).getLast? = some [] := by
    -- The slash in front of the path may be the last one, so the path is taken together with it.
    rw [h.toList_url_eq, List.getLast?_append_cons, getLast?_eq_some_sep_iff (List.cons_ne_nil _ _),
      ← List.nil_append ('/' :: _), List.splitOn_append_cons_self_of_not_mem List.not_mem_nil,
      Template.splitOn_fill, ← Site.segments]
    obtain ⟨t, ts, hsegments⟩ : ∃ t ts, site.segments op = t :: ts :=
      List.exists_cons_of_ne_nil (List.splitOnP_ne_nil _ _)
    rw [hsegments, List.map_cons, List.getLast?_cons_cons]
  rw [hlast, List.getLast?_map, Option.map_eq_some_iff]
  constructor
  · rintro ⟨t, ht, hempty⟩
    obtain ⟨arg, hplace, hinserted⟩ :=
      (h.fill_segment_eq_nil_iff (List.mem_of_getLast? ht)).1 hempty
    exact ⟨arg, Option.bind_eq_some_iff.2 ⟨t, ht, hplace⟩, hinserted⟩
  · rintro ⟨arg, harg, hinserted⟩
    obtain ⟨t, ht, hplace⟩ := Option.bind_eq_some_iff.1 harg
    exact ⟨t, ht, (h.fill_segment_eq_nil_iff (List.mem_of_getLast? ht)).2 ⟨arg, hplace, hinserted⟩⟩

/-- A host begins with a dot if the name of the customer is missing or begins with one. -/
theorem head?_host_eq_dot_iff :
    (site.host args).toList.head? = some '.' ↔
      ∃ arg, site.customer = some arg ∧ (Piece.inserted args arg = "" ∨
        ∃ t, args.text? arg = some t ∧ t.toList.head? = some '.') := by
  have hdomain := Catalog.head?_domain_eq_dot_iff _ h.site_mem
  rw [Site.host]
  cases hcustomer : site.customer with
  | none =>
    rw [hcustomer] at hdomain
    simp [hdomain]
  | some arg =>
    rw [hcustomer] at hdomain
    simp only [String.toList_append, Option.some.injEq, exists_eq_left']
    -- The host begins with what the argument puts in, and with the dot of the domain if that is
    -- nothing.
    by_cases hempty : Piece.inserted args arg = ""
    · simp [hempty, hdomain]
    · have hne : (Piece.inserted args arg).toList ≠ [] := fun hnil ↦
        hempty (String.toList_eq_nil_iff.1 hnil)
      rw [List.head?_append_of_ne_nil _ hne]
      cases ht : args.text? arg with
      | none => exact absurd (Piece.inserted_of_text?_eq_none ht) hempty
      | some t =>
        rw [Piece.inserted_of_text? ht] at hempty ⊢
        simp [Encoding.Percent.head?_segment_eq_dot_iff, hempty]

end Call.Addressed

/-! ## Which calls have gaps -/

theorem Site.mem_arguments_of_mem_fillers {site : Site} {op : Operation} {arg : String}
    (h : arg ∈ site.fillers op) : arg ∈ site.arguments op := by
  obtain ⟨t, ht, hplace⟩ := List.mem_filterMap.1 h
  rw [Template.eq_of_place?_eq_some hplace] at ht
  have hmark : .place arg ∈ Template.ofPieces (site.path op) :=
    List.mem_of_mem_tail (mem_of_mem_splitOnP ht (List.mem_singleton_self _))
  exact List.mem_append_right _ (Template.mem_reads_of_mem_ofPieces hmark)

theorem Site.mem_fillers_of_lastFiller? {site : Site} {op : Operation} {arg : String}
    (h : site.lastFiller? op = some arg) : arg ∈ site.fillers op := by
  obtain ⟨t, ht, hplace⟩ := Option.bind_eq_some_iff.1 h
  exact List.mem_filterMap.2 ⟨t, List.mem_of_getLast? ht, hplace⟩

theorem Call.Addressed.isPresent_of_mem_arguments {c : Connector} {args : Args} {call : Call}
    {site : Site} {op : Operation} (h : call.Addressed c args site op)
    (haccept : c.accept args = .ok (call.operation, op)) {arg : String}
    (harg : arg ∈ site.arguments op) : args.isPresent arg = true := by
  obtain ⟨-, -, hconnection, -, hcheck⟩ := Connector.accept_eq_ok_iff.1 haccept
  rcases Catalog.arguments_asked_for _ h.site_mem _ (Table.get?_eq_some_iff.1 h.operation) arg harg
    with hfield | hneeded
  · exact hconnection arg hfield
  · exact Operation.isPresent_of_check hcheck hneeded

/-- **An address has a gap exactly where a list or an object was given.** Every argument that a
call needs for its address is there when the call is accepted. One with a text stands in the
address with it; the others, which are the lists and the objects, leave their place empty. This is
how an empty segment, a slash at the end and, but for names with a dot in front, a dot at the start
come about. -/
theorem address_has_gap_iff_composite {c : Connector} (hc : c ∈ Catalog.all) {args : Args}
    (hown : c.base.isNamed args = false) {call : Call} (h : c.prepare none args = .ok call) :
    ∃ site op, call.Addressed c args site op ∧
      (∀ arg ∈ c.connectionFields ++ Piece.reads op.path, arg ∈ site.arguments op) ∧
      (∀ arg ∈ site.arguments op, args.isPresent arg = true ∧
        (args.isComposite arg = false → ∃ t, args.Holds arg t ∧
          Piece.inserted args arg = Percent.segment t ∧ Piece.inserted args arg ≠ "") ∧
        (args.isComposite arg = true → args.text? arg = none ∧ Piece.inserted args arg = "")) ∧
      ("" ∈ call.pathSegments ↔ ∃ arg ∈ site.fillers op, args.isComposite arg = true) ∧
      (call.url.toList.getLast? = some '/' ↔
        ∃ arg, site.lastFiller? op = some arg ∧ args.isComposite arg = true) ∧
      ((site.host args).toList.head? = some '.' ↔
        ∃ arg, site.customer = some arg ∧ (args.isComposite arg = true ∨
          ∃ t, args.text? arg = some t ∧ t.toList.head? = some '.')) := by
  obtain ⟨site, op, haddress, haccept⟩ := Catalog.exists_addressed hc hown h
  have hpresent : ∀ arg ∈ site.arguments op, args.isPresent arg = true :=
    fun arg harg ↦ haddress.isPresent_of_mem_arguments haccept harg
  have hgap : ∀ arg ∈ site.arguments op,
      (Piece.inserted args arg = "" ↔ args.isComposite arg = true) :=
    fun arg harg ↦ Piece.inserted_eq_empty_iff (hpresent arg harg)
  refine ⟨site, op, haddress, fun arg harg ↦ ?_, fun arg harg ↦ ⟨hpresent arg harg,
    Piece.exists_text_inserted (hpresent arg harg),
    fun hcomposite ↦ ⟨Args.text?_of_isComposite hcomposite, (hgap arg harg).2 hcomposite⟩⟩,
    ?_, ?_, ?_⟩
  · have hreads : Piece.reads (site.path op) = Piece.reads site.root ++ Piece.reads op.path :=
      List.filterMap_append
    rw [Site.arguments, hreads, ← List.append_assoc]
    rcases List.mem_append.1 harg with hfield | hpath
    · exact List.mem_append_left _ (Catalog.connectionFields_placed _ haddress.site_mem arg hfield)
    · exact List.mem_append_right _ hpath
  · rw [haddress.empty_mem_pathSegments_iff]
    exact exists_congr fun arg ↦ and_congr_right fun harg ↦
      hgap arg (Site.mem_arguments_of_mem_fillers harg)
  · rw [haddress.getLast?_url_eq_slash_iff]
    exact exists_congr fun arg ↦ and_congr_right fun harg ↦
      hgap arg (Site.mem_arguments_of_mem_fillers (Site.mem_fillers_of_lastFiller? harg))
  · rw [haddress.head?_host_eq_dot_iff]
    refine exists_congr fun arg ↦ and_congr_right fun harg ↦ or_congr_left (hgap arg ?_)
    rw [Site.arguments, harg]
    exact List.mem_append_left _ (List.mem_singleton_self arg)

/-- Arguments for a record of a table that is given as a list. -/
def listedTable : Args :=
  ⟨.ofList [("operation", .str "get_record"), ("instance", .str "acme"),
    ("table", .arr [.str "incident"]), ("sys_id", .num (.int 7)), ("username", .str "u"),
    ("password", .str "p")]⟩

theorem record_of_listed_table_has_gap :
    Catalog.ServiceNow.connector ∈ Catalog.all ∧
      Catalog.ServiceNow.connector.base.isNamed listedTable = false ∧
      ∃ call, Catalog.ServiceNow.connector.prepare none listedTable = .ok call ∧
        call.url = "https://acme.service-now.com/api/now/table//7" ∧
        ∃ site op, call.Addressed Catalog.ServiceNow.connector listedTable site op ∧
          ∃ arg ∈ site.fillers op, listedTable.isComposite arg = true := by
  have hc : Catalog.ServiceNow.connector ∈ Catalog.all := by simp [Catalog.all]
  have hurl : (Catalog.ServiceNow.connector.prepare none listedTable).toOption.map (·.url)
      = some "https://acme.service-now.com/api/now/table//7" := by decide +kernel
  obtain ⟨call, hcall, hurl⟩ := exists_eq_ok_of_toOption hurl
  have hgap : "" ∈ call.pathSegments := by
    rw [Call.pathSegments, hurl]
    decide +kernel
  obtain ⟨site, op, haddress, -, -, hsegment, -⟩ := address_has_gap_iff_composite hc rfl hcall
  exact ⟨hc, rfl, call, hcall, hurl, site, op, haddress, hsegment.1 hgap⟩

/-- The arguments for one contact. -/
def contactLookup (contact : Json) : Args :=
  ⟨.ofList [("operation", .str "get_contact"), ("contact_id", contact),
    ("access_token", .str "t")]⟩

/-- A contact that is given as a list has no text. All contacts are asked for in its place. -/
theorem contact_lookup_by_list_has_gap :
    ∃ call, Catalog.HubSpot.connector.prepare none (contactLookup (.arr [])) = .ok call ∧
      (contactLookup (.arr [])).text? "contact_id" = none ∧
      call.url = "https://api.hubapi.com/crm/v3/objects/contacts/" ∧ "" ∈ call.pathSegments := by
  have hurl :
      (Catalog.HubSpot.connector.prepare none (contactLookup (.arr []))).toOption.map (·.url)
        = some "https://api.hubapi.com/crm/v3/objects/contacts/" := by
    decide +kernel
  obtain ⟨call, hcall, hurl⟩ := exists_eq_ok_of_toOption hurl
  refine ⟨call, hcall, by decide +kernel, hurl, ?_⟩
  rw [Call.pathSegments, hurl]
  decide +kernel

end ServiceCall

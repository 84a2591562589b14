import ServiceCall.Proofs.Addresses

/-!
# Reading arguments off an address

What an argument puts into an address can be decoded again, and the address of a call tells for each
of its arguments which text it was built from (`address_tells_its_arguments`). Two calls for one
operation of a service have the same address only if they are for the same thing.

## Where one argument ends

A place may have fixed text on both sides, as in a host or in front of `.json`, and a text may well
contain the same characters. Two places in a row would leave it open where the first one ends. But
between any two places of a template there is a slash, which no argument brings in, so an address
falls into segments with at most one place each (`Template.isSeparated`), and what is fixed about a
segment can be taken away from both its ends.
-/

namespace ServiceCall

/-! ## Escaping in two steps -/

namespace Encoding.Percent

/-- The plus signs written as spaces are in a path. -/
def plusAsSpace (cs : List Char) : List Char :=
  cs.flatMap fun c ↦ if c = '+' then ['%', '2', '0'] else [c]

theorem plusAsSpace_of_notMem {cs : List Char} (h : '+' ∉ cs) : plusAsSpace cs = cs := by
  induction cs with
  | nil => rfl
  | cons c cs ih =>
    rw [List.mem_cons, not_or] at h
    have hrest : plusAsSpace cs = cs := ih h.2
    rw [plusAsSpace] at hrest
    rw [plusAsSpace, List.flatMap_cons, if_neg (Ne.symm h.1), hrest, List.singleton_append]

/-- Only a space has a plus sign in its form, and nothing has one in its segment. -/
theorem plusAsSpace_formByte (b : UInt8) : plusAsSpace (formByte b) = segmentByte b := by
  by_cases hspace : b = 0x20
  · subst hspace
    rfl
  · have hsame : formByte b = segmentByte b := by
      rw [formByte, segmentByte, if_neg hspace]
    have hplus : '+' ∉ segmentByte b := by
      intro hmem
      rcases (escaped_segmentByte b).isPlainChar_or_eq hmem with hplain | hsign
      · cases hplain
      · cases hsign
    rw [hsame, plusAsSpace_of_notMem hplus]

/-- In a form a plus sign stands for a space and for nothing else, so a segment is made from a form
by rewriting the plus signs. -/
theorem toList_segment_eq (s : String) : (segment s).toList = plusAsSpace (form s).toList := by
  rw [segment, form, String.toList_ofList, String.toList_ofList]
  induction utf8 s with
  | nil => rfl
  | cons b bs ih =>
    have happend (cs ds : List Char) : plusAsSpace (cs ++ ds) = plusAsSpace cs ++ plusAsSpace ds :=
      List.flatMap_append
    rw [List.flatMap_cons, List.flatMap_cons, happend, plusAsSpace_formByte, ih]

end Encoding.Percent

open Encoding (utf8)
open Encoding.Percent (decode form plusAsSpace)

/-! ## One place in a segment -/

namespace Template

/-- The arguments with a place in the template. -/
def places (t : Template) : List String :=
  t.filterMap fun
    | .fixed _ => none
    | .place arg => some arg

theorem places_append (t u : Template) : places (t ++ u) = places t ++ places u :=
  List.filterMap_append

variable {a b : Args}

theorem fill_eq_of_places_eq_nil {t : Template} (h : places t = []) : fill a t = fill b t := by
  induction t with
  | nil => rfl
  | cons m t ih =>
    cases m with
    | fixed c =>
      have htail : places t = [] := h
      rw [fill_cons, fill_cons, ih htail]
      rfl
    | place arg => cases h

/-- The fixed text around the only place is the same, so the same text fills the place. -/
theorem inserted_eq_of_fill_eq {t : Template} (hone : (places t).length ≤ 1)
    (h : fill a t = fill b t) {arg : String} (harg : .place arg ∈ t) :
    Piece.inserted a arg = Piece.inserted b arg := by
  obtain ⟨front, back, rfl⟩ := List.append_of_mem harg
  have hplaces : places (front ++ .place arg :: back) = places front ++ arg :: places back :=
    places_append front (.place arg :: back)
  rw [hplaces, List.length_append, List.length_cons] at hone
  have hfront : fill a front = fill b front :=
    fill_eq_of_places_eq_nil (List.length_eq_zero_iff.1 (by omega))
  have hback : fill a back = fill b back :=
    fill_eq_of_places_eq_nil (List.length_eq_zero_iff.1 (by omega))
  rw [fill_append, fill_append, fill_cons, fill_cons, hfront, hback] at h
  exact String.toList_inj.1 (List.append_cancel_right (List.append_cancel_left h))

/-- No segment has more than one place. -/
def isSeparated (t : Template) : Bool := (segments t).all fun u ↦ (places u).length ≤ 1

theorem inserted_eq_of_isSeparated {t : Template} (ht : isSeparated t = true)
    (h : fill a t = fill b t) {arg : String} (harg : .place arg ∈ t) :
    Piece.inserted a arg = Piece.inserted b arg := by
  have hsegments : (segments t).map (fill a) = (segments t).map (fill b) := by
    rw [← splitOn_fill, ← splitOn_fill, h]
  obtain ⟨u, hu, harg⟩ : ∃ u ∈ segments t, Mark.place arg ∈ u := exists_mem_splitOnP harg rfl
  have hone : (places u).length ≤ 1 := of_decide_eq_true (List.all_eq_true.1 ht u hu)
  exact inserted_eq_of_fill_eq hone (List.map_inj_left.1 hsegments u hu) harg

/-- Where two places share a segment, different texts may fill it alike. -/
example :
    fill ⟨.ofList [("a", .str "x"), ("b", .str "yz")]⟩ [.place "a", .place "b"]
      = fill ⟨.ofList [("a", .str "xy"), ("b", .str "z")]⟩ [.place "a", .place "b"] := by
  decide +kernel

theorem isSeparated_of_cons {m : Mark} {t : Template} (h : isSeparated (m :: t) = true) :
    isSeparated t = true := by
  rw [isSeparated, segments_cons] at h
  by_cases hm : m.isSlash = true
  · rw [if_pos hm, List.all_cons, Bool.and_eq_true] at h
    exact h.2
  · rw [if_neg hm] at h
    rw [isSeparated]
    cases hsegments : segments t with
    | nil => rfl
    | cons u us =>
      rw [hsegments, List.modifyHead_cons, List.all_cons, Bool.and_eq_true,
        decide_eq_true_eq] at h
      have hplaces : places (m :: u) = places [m] ++ places u := places_append [m] u
      rw [hplaces, List.length_append] at h
      rw [List.all_cons, h.2, Bool.and_true, decide_eq_true_eq]
      omega

/-- The segments of the end of a template are segments of the whole, or the end of one. -/
theorem isSeparated_of_append {t u : Template} (h : isSeparated (t ++ u) = true) :
    isSeparated u = true := by
  induction t with
  | nil => exact h
  | cons m t ih => exact ih (isSeparated_of_cons h)

theorem mem_ofPieces_of_mem_reads {pieces : List Piece} {arg : String}
    (h : arg ∈ Piece.reads pieces) : .place arg ∈ ofPieces pieces := by
  obtain ⟨p, hp, harg⟩ := List.mem_filterMap.1 h
  cases p with
  | text s => cases harg
  | segment arg' =>
    cases harg
    exact List.mem_flatMap.2 ⟨_, hp, List.mem_singleton_self _⟩

end Template

namespace Piece

variable {a b : Args}

/-- What is put into a place tells the text, and whether there is one, as no text is blank. -/
theorem text?_eq_of_inserted_eq {arg : String} (h : inserted a arg = inserted b arg) :
    a.text? arg = b.text? arg := by
  have hfilled {args : Args} {t : String} (ht : args.text? arg = some t) :
      inserted args arg ≠ "" := by
    intro hempty
    rw [inserted_of_text? ht, Encoding.Percent.segment_eq_empty_iff] at hempty
    have hblank : Text.isBlank t = false := Args.isBlank_of_text? ht
    rw [hempty] at hblank
    cases hblank
  cases ha : a.text? arg with
  | none =>
    cases hb : b.text? arg with
    | none => rfl
    | some t => exact absurd (h.symm.trans (inserted_of_text?_eq_none ha)) (hfilled hb)
  | some s =>
    cases hb : b.text? arg with
    | none => exact absurd (h.trans (inserted_of_text?_eq_none hb)) (hfilled ha)
    | some t =>
      rw [inserted_of_text? ha, inserted_of_text? hb] at h
      rw [Encoding.Percent.segment_injective h]

theorem text?_eq_of_renderAll_eq {pieces : List Piece}
    (hseparated : Template.isSeparated (.ofPieces pieces) = true)
    (h : renderAll a pieces = renderAll b pieces) {arg : String} (harg : arg ∈ reads pieces) :
    a.text? arg = b.text? arg := by
  have hfill : Template.fill a (.ofPieces pieces) = Template.fill b (.ofPieces pieces) := by
    rw [Template.fill_ofPieces, Template.fill_ofPieces, h]
  exact text?_eq_of_inserted_eq (Template.inserted_eq_of_isSeparated hseparated hfill
    (Template.mem_ofPieces_of_mem_reads harg))

theorem renderAll_append (args : Args) (ps qs : List Piece) :
    renderAll args (ps ++ qs) = renderAll args ps ++ renderAll args qs := by
  rw [renderAll, List.map_append, String.join_append]
  rfl

end Piece

/-! ## Addresses of calls -/

/-- The arguments that the base of an address escapes and puts in. One that names the base as a
whole is not among them. -/
def Base.inserts : Base → List String
  | fixed pieces => Piece.reads pieces
  | named _ _ _ => []

/-- The arguments that the address of a call escapes and puts in. -/
def Connector.inserts (c : Connector) (base : Option String) (op : Operation) : List String :=
  (if base.isSome then [] else c.base.inserts) ++ Piece.reads op.path

namespace Catalog

theorem isSeparated_own : ∀ c ∈ all, ∀ e ∈ c.operations.entries,
    Template.isSeparated (.ofPieces (c.base.own ++ e.2.path)) = true := by
  intro c hc
  simp only [all, List.mem_cons, List.not_mem_nil, or_false] at hc
  rcases hc with rfl | rfl | rfl | rfl | rfl | rfl | rfl
  all_goals exact Table.forall_mem_entries_ofList (by decide +kernel)

end Catalog

/-- The base is the same for both, or it is put together from arguments as the path is. -/
theorem Connector.text?_eq_of_url_eq {c : Connector} (hc : c ∈ Catalog.all) {base : Option String}
    {a b : Args} {name : String} {op : Operation} (hop : c.operations.get? name = some op)
    (hnamed : base = none → ∀ arg default rest, c.base = .named arg default rest →
      a.string? arg = b.string? arg)
    (hurl : (c.build base a name op).url = (c.build base b name op).url) {arg : String}
    (harg : arg ∈ c.inserts base op) : a.text? arg = b.text? arg := by
  have hwhole := Catalog.isSeparated_own c hc (name, op) (Table.get?_eq_some_iff.1 hop)
  have hpath : Template.isSeparated (.ofPieces op.path) = true := by
    rw [Template.ofPieces_append] at hwhole
    exact Template.isSeparated_of_append hwhole
  have hsame (hbase : c.baseUrl base a = c.baseUrl base b) :
      Piece.renderAll a op.path = Piece.renderAll b op.path := by
    simp only [build, hbase] at hurl
    exact String.append_right_inj _ |>.1 hurl
  cases base with
  | some s =>
    exact Piece.text?_eq_of_renderAll_eq hpath (hsame rfl) harg
  | none =>
    cases hbase : c.base with
    | named key default rest =>
      have hrender : c.baseUrl none a = c.baseUrl none b := by
        rw [baseUrl, baseUrl, hbase, Base.render, Base.render, hnamed rfl key default rest hbase]
      rw [inserts, hbase] at harg
      exact Piece.text?_eq_of_renderAll_eq hpath (hsame hrender) harg
    | fixed pieces =>
      have hrender : Piece.renderAll a (pieces ++ op.path)
          = Piece.renderAll b (pieces ++ op.path) := by
        simp only [build, baseUrl, hbase, Base.render] at hurl
        rw [Piece.renderAll_append, Piece.renderAll_append, hurl]
      rw [hbase] at hwhole
      have hreads : arg ∈ Piece.reads (pieces ++ op.path) := by
        rw [Piece.reads, List.filterMap_append]
        rwa [inserts, hbase] at harg
      exact Piece.text?_eq_of_renderAll_eq hwhole hrender hreads

/-- **An address tells which arguments it was built from.** What an argument puts into it is the
text in the form used in queries, but for the spaces, and decodes to the bytes of the text. Two
calls for one operation of a service, under one base, have the same address only if every argument
that stands in it has the same text in both, or a text in neither. -/
theorem address_tells_its_arguments :
    (∀ (args : Args) (key t : String), args.text? key = some t →
      (Piece.inserted args key).toList = plusAsSpace (form t).toList ∧
        decode (Piece.inserted args key).toList = utf8 t) ∧
    ∀ c ∈ Catalog.all, ∀ (base : Option String) (a b : Args) (call call' : Call),
      c.prepare base a = .ok call → c.prepare base b = .ok call' →
      call.operation = call'.operation →
      (base = none → ∀ arg default rest, c.base = .named arg default rest →
        a.string? arg = b.string? arg) →
      call.url = call'.url →
      ∃ op, c.operations.get? call.operation = some op ∧
        ∀ arg ∈ c.inserts base op, a.text? arg = b.text? arg := by
  refine ⟨fun args key t ht ↦ ?_, fun c hc base a b call call' ha hb hname hnamed hurl ↦ ?_⟩
  · rw [Piece.inserted_of_text? ht]
    exact ⟨Encoding.Percent.toList_segment_eq t, Encoding.Percent.decode_segment t⟩
  · obtain ⟨name, op, haccept, rfl⟩ := Connector.prepare_eq_ok_iff.1 ha
    obtain ⟨name', op', haccept', rfl⟩ := Connector.prepare_eq_ok_iff.1 hb
    have hop : c.operations.get? name = some op := (Connector.accept_eq_ok_iff.1 haccept).2.1
    have hop' : c.operations.get? name' = some op' := (Connector.accept_eq_ok_iff.1 haccept').2.1
    have hsame : name = name' := hname
    subst hsame
    have hops : op = op' := Option.some.inj (hop.symm.trans hop')
    subst hops
    exact ⟨op, hop, fun arg harg ↦ Connector.text?_eq_of_url_eq hc hop hnamed hurl harg⟩

/-- The arguments for an issue of a project whose name has much to escape. -/
def issueLookup (iid : Json) : Args :=
  ⟨.ofList [("operation", .str "get_issue"), ("project_id", .str "a b/c+d%é"),
    ("issue_iid", iid), ("private_token", .str "t")]⟩

/-- The number of an issue has the same text as a string. -/
theorem issue_by_number_or_text :
    ∃ call call', Catalog.GitLab.connector.prepare none (issueLookup (.num (.int 12))) = .ok call ∧
      Catalog.GitLab.connector.prepare none (issueLookup (.str "12")) = .ok call' ∧
      call.url = "https://gitlab.com/api/v4/projects/a%20b%2Fc%2Bd%25%C3%A9/issues/12" ∧
      call'.url = call.url ∧
      decode (Piece.inserted (issueLookup (.str "12")) "project_id").toList = utf8 "a b/c+d%é" ∧
      ∃ op, Catalog.GitLab.connector.operations.get? call.operation = some op ∧
        "issue_iid" ∈ Catalog.GitLab.connector.inserts none op ∧
        (issueLookup (.num (.int 12))).text? "issue_iid"
          = (issueLookup (.str "12")).text? "issue_iid" := by
  have hc : Catalog.GitLab.connector ∈ Catalog.all := by simp [Catalog.all]
  have hcalls : ∀ iid ∈ [Json.num (.int 12), .str "12"],
      (Catalog.GitLab.connector.prepare none (issueLookup iid)).toOption.map
          (fun call ↦ (call.operation, call.url))
        = some ("get_issue",
            "https://gitlab.com/api/v4/projects/a%20b%2Fc%2Bd%25%C3%A9/issues/12") := by
    decide +kernel
  obtain ⟨call, hcall, hshown⟩ := exists_eq_ok_of_toOption (hcalls (.num (.int 12)) (by simp))
  obtain ⟨call', hcall', hshown'⟩ := exists_eq_ok_of_toOption (hcalls (.str "12") (by simp))
  obtain ⟨hname, hurl⟩ := Prod.mk.inj hshown
  obtain ⟨hname', hurl'⟩ := Prod.mk.inj hshown'
  have hnamed : (none : Option String) = none → ∀ arg default rest,
      Catalog.GitLab.connector.base = .named arg default rest →
      (issueLookup (.num (.int 12))).string? arg = (issueLookup (.str "12")).string? arg := by
    intro _ arg default rest hbase
    cases hbase
    decide +kernel
  obtain ⟨op, hop, hsame⟩ := address_tells_its_arguments.2 _ hc none _ _ call call' hcall hcall'
    (hname.trans hname'.symm) hnamed (hurl.trans hurl'.symm)
  have hdecode := (address_tells_its_arguments.1 (issueLookup (.str "12")) "project_id"
    "a b/c+d%é" (by decide +kernel)).2
  have hinserts : "issue_iid" ∈ Catalog.GitLab.connector.inserts none op := by
    have hfound : (Catalog.GitLab.connector.operations.get? "get_issue").map
        (fun op ↦ decide ("issue_iid" ∈ Catalog.GitLab.connector.inserts none op)) = some true := by
      decide +kernel
    rw [hname] at hop
    rw [hop] at hfound
    exact of_decide_eq_true (Option.some.inj hfound)
  exact ⟨call, call', hcall, hcall', hurl, hurl'.trans hurl.symm, hdecode, op, hop, hinserts,
    hsame _ hinserts⟩

end ServiceCall

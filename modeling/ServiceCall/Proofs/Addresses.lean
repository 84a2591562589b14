import ServiceCall.Catalog
import ServiceCall.Proofs.Admission
import ServiceCall.Proofs.Presence
import ServiceCall.Proofs.Templates

/-!
# Where calls go

Every service of the catalog has a site: a host, which for some begins with the name of a customer,
and the root of its paths. Unless another base is named, an accepted call goes to the site of its
service (`Catalog.exists_addressed`), and its arguments do not change the form of the address
(`arguments_keep_address_form`).

## Why sites

A base and a path are pieces of text, and where the host ends in them is not marked. A site is the
same pieces with the host taken out (`Catalog.renderAll_own`), and what its segments look like can
be decided for each operation of the catalog once (`Site.isRegular`).
-/

namespace ServiceCall

open Encoding (Percent.Escaped)
open Encoding.Percent (isPlainChar)

/-! ## Bases -/

namespace Base

/-- Whether the arguments name the base of the address themselves. -/
def isNamed (args : Args) : Base → Bool
  | fixed _ => false
  | named arg _ _ => (args.string? arg).isSome

/-- The base that is taken where the arguments name none. -/
def own : Base → List Piece
  | fixed pieces => pieces
  | named _ default rest => [.text (Text.trimEndOf '/' default ++ rest)]

theorem render_of_not_isNamed {base : Base} {args : Args} (h : base.isNamed args = false) :
    base.render args = Piece.renderAll args base.own := by
  cases base with
  | fixed pieces => rfl
  | named arg default rest =>
    have hnone : args.string? arg = none := Option.isNone_iff_eq_none.1 (by simpa [isNamed] using h)
    rw [render, hnone]
    simp [own, Piece.renderAll, Piece.render, String.join]

end Base

/-! ## Sites -/

/-- Where a service is reached. -/
structure Site where
  /-- The argument that the host begins with, where each customer has a host. -/
  customer : Option String
  /-- The host, or the rest of it. -/
  domain : String
  /-- What all paths begin with. -/
  root : List Piece

namespace Site

def host (s : Site) (args : Args) : String :=
  match s.customer with
  | none => s.domain
  | some arg => Piece.inserted args arg ++ s.domain

def path (s : Site) (op : Operation) : List Piece := s.root ++ op.path

/-- Everything in front of the path. -/
def front (s : Site) : Template :=
  .ofText "https://" ++ ((s.customer.map Mark.place).toList ++ .ofText s.domain)

def template (s : Site) (op : Operation) : Template := s.front ++ .ofPieces (s.path op)

/-- The path behind its first slash. -/
def tail (s : Site) (op : Operation) : Template := (Template.ofPieces (s.path op)).tail

/-- The segments of the path. -/
def segments (s : Site) (op : Operation) : List Template := Template.segments (s.tail op)

/-- The arguments with a place in the address. -/
def arguments (s : Site) (op : Operation) : List String :=
  s.customer.toList ++ Piece.reads (s.path op)

/-- The arguments that each fill a segment of the path on their own. -/
def fillers (s : Site) (op : Operation) : List String := (s.segments op).filterMap Template.place?

/-- The argument that fills the last segment of the path on its own. -/
def lastFiller? (s : Site) (op : Operation) : Option String :=
  (s.segments op).getLast?.bind Template.place?

theorem fill_front (s : Site) (args : Args) :
    Template.fill args s.front = "https://".toList ++ (s.host args).toList := by
  have hhost : Template.fill args ((s.customer.map Mark.place).toList ++ .ofText s.domain)
      = (s.host args).toList := by
    rw [Template.fill_append, Template.fill_ofText, host]
    cases s.customer with
    | none => rfl
    | some arg =>
      rw [Option.map_some, Option.toList_some, Template.fill_place]
      exact String.toList_append.symm
  rw [front, Template.fill_append, Template.fill_ofText, hhost]

/-- The path begins with a slash, and its segments are of the two kinds. -/
def isRegular (s : Site) (op : Operation) : Bool :=
  (Template.ofPieces (s.path op)).head?.any Mark.isSlash &&
    (s.segments op).all Template.isSimple &&
    Template.isPathLike (.ofPieces (s.path op))

theorem ofPieces_path {s : Site} {op : Operation} (h : s.isRegular op = true) :
    Template.ofPieces (s.path op) = .fixed '/' :: s.tail op := by
  simp only [isRegular, Bool.and_eq_true] at h
  obtain ⟨m, hhead, hm⟩ := (Option.any_eq_true _ _).1 h.1.1
  obtain ⟨t, ht⟩ := List.head?_eq_some_iff.1 hhead
  cases m with
  | fixed c => rw [tail, ht, of_decide_eq_true hm, List.tail_cons]
  | place arg => cases hm

theorem isSimple_of_mem_segments {s : Site} {op : Operation} (h : s.isRegular op = true)
    {t : Template} (ht : t ∈ s.segments op) : Template.isSimple t = true := by
  simp only [isRegular, Bool.and_eq_true] at h
  exact List.all_eq_true.1 h.1.2 t ht

theorem isPathLike_tail {s : Site} {op : Operation} (h : s.isRegular op = true) :
    Template.isPathLike (s.tail op) = true := by
  have hpath := ofPieces_path h
  simp only [isRegular, hpath, Bool.and_eq_true] at h
  exact List.all_eq_true.2 fun m hm ↦ List.all_eq_true.1 h.2 m (List.mem_cons_of_mem _ hm)

theorem isPlainChar_or_eq_of_mem_host {s : Site} {args : Args}
    (hdomain : s.domain.toList.all isPlainChar = true) {c : Char}
    (hc : c ∈ (s.host args).toList) : isPlainChar c = true ∨ c = '%' := by
  rw [List.all_eq_true] at hdomain
  unfold host at hc
  split at hc
  · exact .inl (hdomain c hc)
  · rw [String.toList_append, List.mem_append] at hc
    rcases hc with hc | hc
    · exact (Piece.escaped_inserted args _).isPlainChar_or_eq hc
    · exact .inl (hdomain c hc)

end Site

namespace Catalog

def sites : List (Connector × Site) := [
  (Zendesk.connector, ⟨some "subdomain", ".zendesk.com", [.text "/api/v2"]⟩),
  (Gorgias.connector, ⟨some "domain", ".gorgias.com", [.text "/api"]⟩),
  (HubSpot.connector, ⟨none, "api.hubapi.com", []⟩),
  (GitLab.connector, ⟨none, "gitlab.com", [.text "/api/v4"]⟩),
  (ServiceNow.connector, ⟨some "instance", ".service-now.com", [.text "/api/now/table"]⟩),
  (BigQuery.connector, ⟨none, "bigquery.googleapis.com",
    [.text "/bigquery/v2/projects/", .segment "project_id"]⟩),
  (GoogleDocs.connector, ⟨none, "docs.googleapis.com", [.text "/v1/documents"]⟩)]

theorem exists_site {c : Connector} (hc : c ∈ all) : ∃ site, (c, site) ∈ sites := by
  have hall : all = sites.map Prod.fst := rfl
  rw [hall, List.mem_map] at hc
  obtain ⟨p, hp, rfl⟩ := hc
  exact ⟨p.2, hp⟩

/-- The base of a service is where its site begins. -/
theorem renderAll_own : ∀ p ∈ sites, ∀ args, Piece.renderAll args p.1.base.own
    = "https://" ++ p.2.host args ++ Piece.renderAll args p.2.root := by
  intro p hp args
  simp only [sites, List.mem_cons, List.not_mem_nil, or_false] at hp
  apply String.toList_inj.1
  rcases hp with rfl | rfl | rfl | rfl | rfl | rfl | rfl
  · simp [Zendesk.connector, Base.own, Site.host, Piece.renderAll, Piece.render, Piece.inserted]
  · simp [Gorgias.connector, Base.own, Site.host, Piece.renderAll, Piece.render, Piece.inserted]
  · simp [HubSpot.connector, Base.own, Site.host, Piece.renderAll, Piece.render]
  · simp [GitLab.connector, Base.own, Site.host, Piece.renderAll, Piece.render, Text.trimEndOf]
  · simp [ServiceNow.connector, Base.own, Site.host, Piece.renderAll, Piece.render, Piece.inserted]
  · simp [BigQuery.connector, Base.own, Site.host, Piece.renderAll, Piece.render]
  · simp [GoogleDocs.connector, Base.own, Site.host, Piece.renderAll, Piece.render]

theorem isPlainChar_domain : ∀ p ∈ sites, p.2.domain.toList.all isPlainChar = true := by
  decide +kernel

theorem isRegular_of_mem_entries : ∀ p ∈ sites, ∀ e ∈ p.1.operations.entries,
    p.2.isRegular e.2 = true := by
  intro p hp
  simp only [sites, List.mem_cons, List.not_mem_nil, or_false] at hp
  rcases hp with rfl | rfl | rfl | rfl | rfl | rfl | rfl
  all_goals exact Table.forall_mem_entries_ofList (by decide +kernel)

end Catalog

/-! ## The addresses of accepted calls -/

/-- The call is for an operation of the service, at the site of the service. -/
structure Call.Addressed (c : Connector) (args : Args) (call : Call) (site : Site)
    (op : Operation) : Prop where
  site_mem : (c, site) ∈ Catalog.sites
  operation : c.operations.get? call.operation = some op
  url : call.url = "https://" ++ site.host args ++ Piece.renderAll args (site.path op)

namespace Call.Addressed

variable {c : Connector} {args : Args} {call : Call} {site : Site} {op : Operation}

theorem isRegular (h : call.Addressed c args site op) : site.isRegular op = true :=
  Catalog.isRegular_of_mem_entries _ h.site_mem _ (Table.get?_eq_some_iff.1 h.operation)

theorem toList_url (h : call.Addressed c args site op) :
    call.url.toList = Template.fill args (site.template op) := by
  rw [h.url, Site.template, Template.fill_append, Site.fill_front, Template.fill_ofPieces,
    String.toList_append, String.toList_append]

/-- No character of the host ends it, whatever the customer is called. -/
theorem isPlainChar_or_eq_of_mem_host (h : call.Addressed c args site op) {ch : Char}
    (hch : ch ∈ (site.host args).toList) : isPlainChar ch = true ∨ ch = '%' :=
  Site.isPlainChar_or_eq_of_mem_host (Catalog.isPlainChar_domain _ h.site_mem) hch

end Call.Addressed

/-- Unless another base is named, an accepted call goes to the site of its service. -/
theorem Catalog.exists_addressed {c : Connector} (hc : c ∈ all) {args : Args}
    (hown : c.base.isNamed args = false) {call : Call} (h : c.prepare none args = .ok call) :
    ∃ site op, call.Addressed c args site op ∧ c.accept args = .ok (call.operation, op) := by
  obtain ⟨site, hsite⟩ := exists_site hc
  obtain ⟨name, op, haccept, rfl⟩ := Connector.prepare_eq_ok_iff.1 h
  refine ⟨site, op, ⟨hsite, (Connector.accept_eq_ok_iff.1 haccept).2.1, ?_⟩, haccept⟩
  have hpath : Piece.renderAll args (site.path op)
      = Piece.renderAll args site.root ++ Piece.renderAll args op.path := by
    rw [Site.path, Piece.renderAll, List.map_append, String.join_append]
    rfl
  have hbase : c.baseUrl none args = Piece.renderAll args c.base.own :=
    Base.render_of_not_isNamed hown
  rw [Connector.build, hbase, renderAll_own _ hsite, hpath, String.append_assoc]

/-- **No argument changes the form of an address.** It goes to the host of the service, of which an
argument names at most the customer, and in it each argument stands escaped: whatever would have to
be escaped, a slash or a question mark or anything outside ASCII, stands there as often as in the
template of the operation. -/
theorem arguments_keep_address_form {c : Connector} (hc : c ∈ Catalog.all) {args : Args}
    (hown : c.base.isNamed args = false) {call : Call} (h : c.prepare none args = .ok call) :
    ∃ site op, call.Addressed c args site op ∧
      (∀ ch ∈ (site.host args).toList, isPlainChar ch = true ∨ ch = '%') ∧
      (Piece.renderAll args (site.path op)).toList.head? = some '/' ∧
      (∀ arg, Percent.Escaped (Piece.inserted args arg).toList) ∧
      ∀ ch, isPlainChar ch = false → ch ≠ '%' →
        call.url.toList.count ch = (site.template op).count (.fixed ch) := by
  obtain ⟨site, op, haddress, -⟩ := Catalog.exists_addressed hc hown h
  refine ⟨site, op, haddress, fun ch hch ↦ haddress.isPlainChar_or_eq_of_mem_host hch, ?_,
    Piece.escaped_inserted args, fun ch hplain hsign ↦ ?_⟩
  · rw [← Template.fill_ofPieces, Site.ofPieces_path haddress.isRegular]
    rfl
  · rw [haddress.toList_url]
    exact Template.count_fill args _ hplain hsign

/-- Arguments for a record that try to leave their places. -/
def strayRecord : Args :=
  ⟨.ofList [("operation", .str "get_record"), ("instance", .str "evil.com/@x"),
    ("table", .str "a/../b?c"), ("sys_id", .str "#é"), ("username", .str "u"),
    ("password", .str "p")]⟩

theorem stray_record_keeps_address_form :
    Catalog.ServiceNow.connector ∈ Catalog.all ∧
      Catalog.ServiceNow.connector.base.isNamed strayRecord = false ∧
      ∃ call, Catalog.ServiceNow.connector.prepare none strayRecord = .ok call ∧
        call.url = "https://evil.com%2F%40x.service-now.com/api/now/table/a%2F..%2Fb%3Fc/%23%C3%A9"
        ∧ ∃ site op, call.Addressed Catalog.ServiceNow.connector strayRecord site op ∧
          call.url.toList.count '/' = (site.template op).count (.fixed '/') := by
  have hc : Catalog.ServiceNow.connector ∈ Catalog.all := by simp [Catalog.all]
  have hurl : (Catalog.ServiceNow.connector.prepare none strayRecord).toOption.map (·.url)
      = some "https://evil.com%2F%40x.service-now.com/api/now/table/a%2F..%2Fb%3Fc/%23%C3%A9" := by
    decide +kernel
  obtain ⟨call, hcall, hurl⟩ := exists_eq_ok_of_toOption hurl
  obtain ⟨site, op, haddress, -, -, -, hcount⟩ := arguments_keep_address_form hc rfl hcall
  exact ⟨hc, rfl, call, hcall, hurl, site, op, haddress, hcount '/' (by decide) (by decide)⟩

end ServiceCall

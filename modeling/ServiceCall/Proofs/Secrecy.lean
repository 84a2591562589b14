import ServiceCall.Proofs.Exchange
import ServiceCall.Proofs.Reads

/-!
# Credentials stay in their place

Two callers who ask for the same thing under different credentials get the same call, shown alike
and sent alike. The credentials themselves turn up in one place only, the value of one header.

## Two runs, compared

Secrecy is a statement about pairs of runs. The pairs are related at each stage: the arguments
(`Args.SameBut`), the calls built from them (`Call.SameButSecret`), the requests
(`Http.Request.redacted`) and the scripts that answered them (`Http.Script.SameButHeader`). That
each relation carries over to the next needs one fact about the catalog: no operation looks at an
argument that holds a credential, not even where an argument of that name would make sense for it.
-/

namespace ServiceCall

open Http (Client Request Script)

/-! ## Arguments -/

/-- Arguments that agree on all but some, and of those on which are there. -/
structure Args.SameBut (secret : List String) (a b : Args) : Prop where
  get?_eq : ∀ k, k ∉ secret → a.get? k = b.get? k
  isPresent_eq : ∀ k ∈ secret, a.isPresent k = b.isPresent k

/-- Putting another value in the place of a secret one. -/
theorem Args.sameBut_insert {secret : List String} {args : Args} {key : String} {v w : Json}
    (hkey : key ∈ secret) (h : v.isPresent = w.isPresent) :
    Args.SameBut secret (args.insert key v) (args.insert key w) where
  get?_eq k hk := by
    have hne : k ≠ key := fun e ↦ hk (e ▸ hkey)
    rw [get?_insert, get?_insert, if_neg hne, if_neg hne]
  isPresent_eq k _ := by
    rw [isPresent, isPresent, present?, present?, get?_insert, get?_insert]
    split
    · simp [Option.filter, h, apply_ite Option.isSome]
    · rfl

namespace Catalog

/-- No service of the catalog looks at a credential other than for authorizing. -/
theorem openReads_notMem_credentialFields :
    ∀ c ∈ all, ∀ k ∈ c.openReads, k ∉ c.credentialFields := by decide +kernel

theorem dry_run_notMem_credentialFields : ∀ c ∈ all, "dry_run" ∉ c.credentialFields := by
  decide +kernel

end Catalog

/-! ## Calls -/

/-- Calls that differ in nothing but what their credentials hold. -/
structure Call.SameButSecret (x y : Call) : Prop where
  operation : x.operation = y.operation
  method : x.method = y.method
  url : x.url = y.url
  params : x.params = y.params
  payload : x.payload = y.payload
  scheme : x.credentials.scheme = y.credentials.scheme

theorem Credentials.Source.scheme_read (source : Credentials.Source) (a b : Args) :
    (source.read a).scheme = (source.read b).scheme := by
  cases source <;> rfl

theorem Call.SameButSecret.preview_eq {x y : Call} (h : x.SameButSecret y) :
    x.preview = y.preview := by
  rw [preview, preview, summary, summary, h.operation, h.method, h.url, h.params, h.payload,
    h.scheme]

namespace Connector

variable {c : Connector} {a b : Args}

theorem prepare_sameBut (hopen : ∀ k ∈ c.openReads, k ∉ c.credentialFields)
    (h : Args.SameBut c.credentialFields a b) (base : Option String) :
    (∃ refusal, c.prepare base a = .error refusal ∧ c.prepare base b = .error refusal) ∨
      ∃ x y, c.prepare base a = .ok x ∧ c.prepare base b = .ok y ∧ x.SameButSecret y := by
  have hreads : ∀ k ∈ c.openReads, a.get? k = b.get? k := fun k hk ↦ h.get?_eq k (hopen k hk)
  have haccept : c.accept a = c.accept b :=
    accept_congr (fun k hk ↦ Args.present?_congr (hreads k hk)) h.isPresent_eq
  cases hb : c.accept b with
  | error refusal =>
    exact .inl ⟨refusal, prepare_eq_error_iff.2 (haccept.trans hb), prepare_eq_error_iff.2 hb⟩
  | ok e =>
    obtain ⟨name, op⟩ := e
    refine .inr ⟨_, _, prepare_eq_ok_iff.2 ⟨name, op, haccept.trans hb, rfl⟩,
      prepare_eq_ok_iff.2 ⟨name, op, hb, rfl⟩, ?_⟩
    -- The first call is the second with other credentials put in, of which only the kind is shown.
    rw [build_congr hreads base (accept_eq_ok_iff.1 hb).2.1]
    exact ⟨rfl, rfl, rfl, rfl, rfl, c.credentials.scheme_read a b⟩

end Connector

/-! ## Requests and scripts -/

namespace Http

/-- A request without the value of the header that authorizes it. -/
def Request.redacted (request : Request) : Request :=
  { request with
    headers := request.headers.map fun h ↦ if h.1 = "Authorization" then (h.1, "") else h }

theorem redacted_request_eq {x y : Call} (h : x.SameButSecret y) (v w : String) (timeout : Nat) :
    (x.request [("Authorization", v)] timeout).redacted
      = (y.request [("Authorization", w)] timeout).redacted := by
  rw [Call.request, Call.request, h.method, h.url, h.params, h.payload]
  rfl

/-- Scripts that have as much left to play and were asked the same. -/
structure Script.SameButHeader (s t : Script) : Prop where
  pending : s.pending = t.pending
  calls : s.calls = t.calls
  sent : s.sent.map Request.redacted = t.sent.map Request.redacted

namespace Script

theorem SameButHeader.refl (s : Script) : s.SameButHeader s := ⟨rfl, rfl, rfl⟩

/-- A script answers without looking at the request. -/
theorem SameButHeader.client {s t : Script} (h : s.SameButHeader t) {r r' : Request}
    (hr : r.redacted = r'.redacted) :
    (Script.client r s).1 = (Script.client r' t).1 ∧
      (Script.client r s).2.SameButHeader (Script.client r' t).2 := by
  refine ⟨?_, ?_, ?_, ?_⟩
  · rw [Script.client, Script.client, h.pending]
    cases t.pending <;> rfl
  · rw [pending_client, pending_client, h.pending]
  · rw [calls_client, calls_client, h.calls]
  · rw [sent_client, sent_client, List.map_append, List.map_append, h.sent, List.map_singleton,
      List.map_singleton, hr]

end Script

end Http

/-! ## Runs -/

namespace Credentials

/-- Credentials that need not be exchanged for others first. -/
def Source.isDirect : Source → Bool
  | basic .. | bearer _ => true
  | serviceAccount .. => false

theorem Source.authorize_of_isDirect {source : Source} (h : source.isDirect = true) (args : Args) :
    ∃ value, ∀ {σ : Type} (client : Client σ) (timeout : Nat) (now : Int) (s : σ),
      (source.read args).authorize client timeout now s = (.ok [("Authorization", value)], s) := by
  cases source with
  | basic username ending password => exact ⟨_, fun _ _ _ _ ↦ authorize_basic ..⟩
  | bearer token => exact ⟨_, fun _ _ _ _ ↦ authorize_bearer ..⟩
  | serviceAccount key scopes subject => cases h

end Credentials

namespace Connector

variable {c : Connector} {a b : Args} {options : CallOptions} {call : Call} {now : Int}

theorem credentials_of_prepare {base : Option String} (h : c.prepare base a = .ok call) :
    call.credentials = c.credentials.read a := by
  obtain ⟨name, op, -, rfl⟩ := prepare_eq_ok_iff.1 h
  rfl

/-- With credentials that need no exchange, a live run sends one request under one such header. -/
theorem run_of_isDirect (hdirect : c.credentials.isDirect = true)
    (h : c.prepare options.base a = .ok call) (hlive : isDryRun a = false) :
    ∃ value, ∀ {σ : Type} (client : Client σ) (now : Int) (s : σ),
      c.run client options now a s = c.handling.execute client
        (call.request [("Authorization", value)] options.timeout) s := by
  obtain ⟨value, hvalue⟩ := Credentials.Source.authorize_of_isDirect hdirect a
  refine ⟨value, fun client now s ↦ ?_⟩
  have hauth : call.credentials.authorize client options.timeout now s
      = (.ok [("Authorization", value)], s) := by
    rw [credentials_of_prepare h]
    exact hvalue client options.timeout now s
  rw [run_of_live h hlive, send_of_authorize hauth, proceed]

theorem isDryRun_sameBut (hflag : "dry_run" ∉ c.credentialFields)
    (h : Args.SameBut c.credentialFields a b) : isDryRun a = isDryRun b :=
  Args.flag_congr (Args.present?_congr (h.get?_eq "dry_run" hflag))

variable (hopen : ∀ k ∈ c.openReads, k ∉ c.credentialFields)
  (hflag : "dry_run" ∉ c.credentialFields) (h : Args.SameBut c.credentialFields a b)
include hopen hflag h

theorem run_eq_of_isDryRun (hdry : isDryRun a = true) {σ : Type} (client : Client σ)
    (now now' : Int) (s : σ) : c.run client options now a s = c.run client options now' b s := by
  have hdry' : isDryRun b = true := isDryRun_sameBut hflag h ▸ hdry
  rcases prepare_sameBut hopen h options.base with ⟨refusal, ha, hb⟩ | ⟨x, y, ha, hb, hxy⟩
  · rw [run_of_refused ha, run_of_refused hb]
  · rw [run_of_dryRun ha hdry, run_of_dryRun hb hdry', hxy.preview_eq]

theorem run_sameBut_of_isDirect (hdirect : c.credentials.isDirect = true) (now now' : Int)
    (s : Script) :
    (c.run Script.client options now a s).1 = (c.run Script.client options now' b s).1 ∧
      (c.run Script.client options now a s).2.SameButHeader
        (c.run Script.client options now' b s).2 := by
  cases hdry : isDryRun a with
  | true =>
    rw [run_eq_of_isDryRun hopen hflag h hdry Script.client now now' s]
    exact ⟨rfl, .refl _⟩
  | false =>
    have hdry' : isDryRun b = false := isDryRun_sameBut hflag h ▸ hdry
    rcases prepare_sameBut hopen h options.base with ⟨refusal, ha, hb⟩ | ⟨x, y, ha, hb, hxy⟩
    · rw [run_of_refused ha, run_of_refused hb]
      exact ⟨rfl, .refl s⟩
    · -- The two headers hold different values, `v` and `w`; from here on only they differ.
      obtain ⟨v, hv⟩ := run_of_isDirect hdirect ha hdry
      obtain ⟨w, hw⟩ := run_of_isDirect hdirect hb hdry'
      obtain ⟨houtcome, hscript⟩ := (Script.SameButHeader.refl s).client
        (Http.redacted_request_eq hxy v w options.timeout)
      rw [hv, hw, Handling.execute_eq, Handling.execute_eq, houtcome]
      exact ⟨rfl, hscript⟩

end Connector

/-- **Credentials show nowhere but in one header.** Arguments that differ in credentials only are
refused alike, or lead to calls that differ in credentials only. A dry run therefore shows the same,
and where the credentials need no exchange, a live run against the same script returns the same and
sends the same but for the value of that header. -/
theorem credentials_stay_secret {c : Connector} (hc : c ∈ Catalog.all) {a b : Args}
    (h : Args.SameBut c.credentialFields a b) (options : CallOptions) :
    ((∃ refusal, c.prepare options.base a = .error refusal ∧
          c.prepare options.base b = .error refusal) ∨
        ∃ x y, c.prepare options.base a = .ok x ∧ c.prepare options.base b = .ok y ∧
          x.SameButSecret y) ∧
      (Connector.isDryRun a = true → ∀ {σ : Type} (client : Client σ) (now now' : Int) (s : σ),
        c.run client options now a s = c.run client options now' b s) ∧
      (c.credentials.isDirect = true → ∀ (now now' : Int) (s : Script),
        (c.run Script.client options now a s).1 = (c.run Script.client options now' b s).1 ∧
          (c.run Script.client options now a s).2.SameButHeader
            (c.run Script.client options now' b s).2) := by
  have hopen := Catalog.openReads_notMem_credentialFields c hc
  have hflag := Catalog.dry_run_notMem_credentialFields c hc
  exact ⟨Connector.prepare_sameBut hopen h options.base,
    fun hdry ↦ Connector.run_eq_of_isDryRun hopen hflag h hdry,
    Connector.run_sameBut_of_isDirect hopen hflag h⟩

/-- A ticket, asked for with a token. -/
def ticketLookup (token : String) : Args :=
  (⟨.ofList [("operation", .str "get_ticket"), ("subdomain", .str "acme"),
    ("ticket_id", .str "35"), ("email", .str "agent@example.com")]⟩ : Args).insert "api_token"
      (.str token)

theorem ticket_lookup_keeps_token_secret :
    Catalog.Zendesk.connector ∈ Catalog.all ∧
      Args.SameBut Catalog.Zendesk.connector.credentialFields (ticketLookup "one")
        (ticketLookup "another") ∧
      (Catalog.Zendesk.connector.run Script.client {} 0 (ticketLookup "one")
          (.start [.ok ⟨200, ""⟩])).2.SameButHeader
        (Catalog.Zendesk.connector.run Script.client {} 0 (ticketLookup "another")
          (.start [.ok ⟨200, ""⟩])).2 ∧
      (Catalog.Zendesk.connector.run Script.client {} 0 (ticketLookup "one")
          (.start [.ok ⟨200, ""⟩])).2.sent.map (fun r ↦ (r.url, r.redacted.headers))
        = [("https://acme.zendesk.com/api/v2/tickets/35.json",
            [("Authorization", ""), ("Accept", "application/json")])] := by
  have hc : Catalog.Zendesk.connector ∈ Catalog.all := by simp [Catalog.all]
  have h : Args.SameBut Catalog.Zendesk.connector.credentialFields (ticketLookup "one")
      (ticketLookup "another") := Args.sameBut_insert (by decide) (by decide +kernel)
  refine ⟨hc, h, ?_, by decide +kernel⟩
  exact ((credentials_stay_secret hc h {}).2.2 rfl 0 0 (.start [.ok ⟨200, ""⟩])).2

end ServiceCall

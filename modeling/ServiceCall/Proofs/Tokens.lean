import ServiceCall.Proofs.Assertions
import ServiceCall.Proofs.Endings
import ServiceCall.Proofs.Secrecy

/-!
# Tokens come first

A service that is reached with the key of a service account takes two requests: one for a token, and
then the call's own, which shows that token. The second is made only if the first was answered with
a token. In every other case the call ends there, as unauthorized, with a status of its own and not
with that of the answer.

## Grants

Whether an answer grants a token is said without the function that looks for one (`Token.Grants`):
it is a success, and its body reads as an answer in which the token is given and not empty. A token
in an answer of another status is none.
-/

namespace ServiceCall

open Http (Client Exchange Outcome Request Response Script recorded)

namespace ServiceAccount.Token

/-- The outcome is a success whose body reads as an answer that holds this token. -/
def Grants (outcome : Outcome) (token : String) : Prop :=
  ∃ r error description, outcome = .ok r ∧ r.isOk = true ∧
    read? r.body = some (some token, error, description) ∧ token ≠ ""

theorem ofResponse_eq_ok_iff {r : Response} {token : String} :
    ofResponse r = .ok token ↔ r.isOk = true ∧
      (∃ error description, read? r.body = some (some token, error, description)) ∧
      token ≠ "" := by
  rw [ofResponse]
  cases hread : read? r.body with
  | none => simp
  | some given =>
    obtain ⟨token?, error, description⟩ := given
    dsimp only
    -- The answer could be read. What it gives as a token may still be left out.
    cases hfilter : token?.filter fun t ↦ r.isOk && decide (t ≠ "") with
    | none =>
      have hrefused : ∀ t, token? = some t → ¬ (r.isOk = true ∧ t ≠ "") := by
        intro t ht
        simpa using Option.filter_eq_none_iff.1 hfilter t ht
      constructor
      · intro h
        cases h
      · rintro ⟨hok, ⟨_, _, hgiven⟩, hne⟩
        cases hgiven
        exact absurd ⟨hok, hne⟩ (hrefused token rfl)
    | some t =>
      obtain ⟨htoken, ht⟩ := Option.filter_eq_some_iff.1 hfilter
      obtain ⟨hok, hne⟩ : r.isOk = true ∧ t ≠ "" := by simpa using ht
      constructor
      · intro h
        cases h
        exact ⟨hok, ⟨error, description, by rw [htoken]⟩, hne⟩
      · rintro ⟨-, ⟨_, _, hgiven⟩, -⟩
        cases hgiven
        cases htoken
        rfl

theorem ofOutcome_eq_ok_iff {outcome : Outcome} {token : String} :
    ofOutcome outcome = .ok token ↔ Grants outcome token := by
  cases outcome with
  | error failure =>
    constructor
    · intro h
      cases h
    · rintro ⟨r, _, _, h, -⟩
      cases h
  | ok r =>
    rw [ofOutcome, ofResponse_eq_ok_iff]
    constructor
    · rintro ⟨hok, ⟨error, description, hread⟩, hne⟩
      exact ⟨r, error, description, rfl, hok, hread, hne⟩
    · rintro ⟨_, error, description, ⟨⟩, hok, hread, hne⟩
      exact ⟨hok, ⟨error, description, hread⟩, hne⟩

/-- An answer of another status grants nothing, though a token is in it. -/
example : ofOutcome (.ok ⟨200, "\x7b\"access_token\": \"t\"\x7d"⟩) = .ok "t" ∧
    ofOutcome (.ok ⟨403, "\x7b\"access_token\": \"t\"\x7d"⟩) = .error (.exchange "HTTP 403") := by
  decide +kernel

end ServiceAccount.Token

open ServiceAccount

/-! ## Authorization -/

namespace Credentials

variable {σ : Type} {client : Client σ} {timeout : Nat} {now : Int} {s : σ}

/-- A token is asked for with the key of an account, if that can be read and can sign. -/
theorem mem_tokenRequest?_iff {credentials : Credentials} {request : Request} :
    request ∈ credentials.tokenRequest? timeout now ↔
      ∃ keyText scopes subject key assertion,
        credentials = serviceAccount keyText scopes subject ∧ Key.read keyText = .ok key ∧
          Assertion.make key scopes subject now = .ok assertion ∧
          request = Token.request key.tokenUri assertion timeout := by
  cases credentials with
  | basic username password | bearer token => simp [tokenRequest?]
  | serviceAccount keyText scopes subject =>
    rw [tokenRequest?]
    constructor
    · intro h
      split at h
      · cases h
      · rename_i key assertion hprepare
        obtain ⟨hkey, hassertion⟩ := Token.prepare_eq_ok_iff.1 hprepare
        cases h
        exact ⟨keyText, scopes, subject, key, assertion, rfl, hkey, hassertion, rfl⟩
    · rintro ⟨_, _, _, key, assertion, ⟨⟩, hkey, hassertion, rfl⟩
      rw [Token.prepare_eq_ok_iff.2 ⟨hkey, hassertion⟩]
      rfl

theorem authorize_of_granted {keyText : String} {scopes : List String} {subject : Option String}
    {key : Key} {assertion token : String}
    (h : Token.prepare keyText scopes subject now = .ok (key, assertion))
    (htoken : Token.ofOutcome (client (Token.request key.tokenUri assertion timeout) s).1
      = .ok token) :
    (serviceAccount keyText scopes subject).authorize client timeout now s
      = (.ok [("Authorization", "Bearer " ++ token)],
        (client (Token.request key.tokenUri assertion timeout) s).2) := by
  rw [authorize_of_prepared h]
  change ((Token.ofOutcome (client _ s).1).map _, _) = _
  rw [htoken]
  rfl

/-- The request for a token, if there is one, with the answer to it. -/
def tokenExchange? (client : Client σ) (timeout : Nat) (now : Int) (s : σ)
    (credentials : Credentials) : Option Exchange :=
  (credentials.tokenRequest? timeout now).map fun request ↦ ⟨request, (client request s).1⟩

/-- An account is authorized by the token that it is granted, and by nothing else. -/
theorem fst_authorize_eq_ok_iff {keyText : String} {scopes : List String}
    {subject : Option String} {headers : List (String × String)} :
    ((serviceAccount keyText scopes subject).authorize client timeout now s).1 = .ok headers ↔
      ∃ e ∈ (serviceAccount keyText scopes subject).tokenExchange? client timeout now s,
        ∃ token, Token.Grants e.outcome token ∧
          headers = [("Authorization", "Bearer " ++ token)] := by
  rw [tokenExchange?, tokenRequest?]
  cases hprepare : Token.prepare keyText scopes subject now with
  | error fault =>
    rw [authorize_of_unprepared hprepare]
    simp
  | ok prepared =>
    obtain ⟨key, assertion⟩ := prepared
    rw [authorize_of_prepared hprepare]
    change (Token.ofOutcome (client _ s).1).map _ = _ ↔ _
    constructor
    · intro h
      cases htoken : Token.ofOutcome
          (client (Token.request key.tokenUri assertion timeout) s).1 with
      | error fault =>
        rw [htoken] at h
        cases h
      | ok token =>
        rw [htoken] at h
        cases h
        exact ⟨_, rfl, token, Token.ofOutcome_eq_ok_iff.1 htoken, rfl⟩
    · rintro ⟨_, ⟨⟩, token, hgrants, rfl⟩
      rw [Token.ofOutcome_eq_ok_iff.2 hgrants]
      rfl

end Credentials

/-! ## The call -/

namespace Connector

/-- What is exchanged for a call under the key of an account, and the envelope it ends in: the
request for a token and the call's own, each as far as it is made. -/
structure TokenFirst (c : Connector) (call : Call) (timeout : Nat) (now : Int)
    (exchange? own? : Option Exchange) (envelope : Envelope) : Prop where
  asked_iff : ∀ request, (∃ e ∈ exchange?, e.request = request) ↔
    ∃ keyText scopes subject key assertion,
      call.credentials = .serviceAccount keyText scopes subject ∧ Key.read keyText = .ok key ∧
        Assertion.make key scopes subject now = .ok assertion ∧
        request = Token.request key.tokenUri assertion timeout
  sent_iff : (∃ own, own ∈ own?) ↔ ∃ e ∈ exchange?, ∃ token, Token.Grants e.outcome token
  bearer : ∀ own ∈ own?, ∃ e ∈ exchange?, ∃ token, Token.Grants e.outcome token ∧
    own.request = call.request [("Authorization", "Bearer " ++ token)] timeout
  settled : ∀ own ∈ own?, envelope = c.handling.conclude own.outcome
  unauthorized : own? = none → envelope.isError = true ∧ envelope.status = some 401

variable {c : Connector} {call : Call} {σ : Type} {client : Client σ} {timeout : Nat} {now : Int}
  {s : σ}

theorem exists_mem_tokenExchange?_iff {request : Request} :
    (∃ e ∈ call.credentials.tokenExchange? client timeout now s, e.request = request) ↔
      request ∈ call.credentials.tokenRequest? timeout now := by
  rw [Credentials.tokenExchange?]
  constructor
  · rintro ⟨e, he, rfl⟩
    obtain ⟨request, hrequest, rfl⟩ := Option.map_eq_some_iff.1 he
    exact hrequest
  · intro h
    exact ⟨_, Option.mem_map_of_mem _ h, rfl⟩

theorem TokenFirst.of_refused
    (h : ∀ e ∈ call.credentials.tokenExchange? client timeout now s, ∀ token,
      ¬ Token.Grants e.outcome token) (message : String) :
    c.TokenFirst call timeout now (call.credentials.tokenExchange? client timeout now s) none
      (.unauthorized message) where
  asked_iff _ := exists_mem_tokenExchange?_iff.trans Credentials.mem_tokenRequest?_iff
  sent_iff := by
    constructor
    · rintro ⟨own, hown⟩
      cases hown
    · rintro ⟨e, he, token, hgrants⟩
      exact absurd hgrants (h e he token)
  bearer own hown := by cases hown
  settled own hown := by cases hown
  unauthorized _ := ⟨Envelope.isError_failure .., rfl⟩

theorem TokenFirst.of_granted {e : Exchange} {token : String}
    (he : e ∈ call.credentials.tokenExchange? client timeout now s)
    (hgrants : Token.Grants e.outcome token) (outcome : Outcome) :
    c.TokenFirst call timeout now (call.credentials.tokenExchange? client timeout now s)
      (some ⟨call.request [("Authorization", "Bearer " ++ token)] timeout, outcome⟩)
      (c.handling.conclude outcome) where
  asked_iff _ := exists_mem_tokenExchange?_iff.trans Credentials.mem_tokenRequest?_iff
  sent_iff := by
    constructor
    · intro _
      exact ⟨e, he, token, hgrants⟩
    · intro _
      exact ⟨_, rfl⟩
  bearer own hown := by
    cases hown
    exact ⟨e, he, token, hgrants, rfl⟩
  settled own hown := by
    cases hown
    rfl
  unauthorized h := by cases h

theorem send_tokenFirst {keyText : String} {scopes : List String} {subject : Option String}
    (hcredentials : call.credentials = .serviceAccount keyText scopes subject) :
    ∃ exchange? own? envelope s', c.send client timeout now call s = (envelope, s') ∧
      c.send (recorded client) timeout now call (s, [])
        = (envelope, s', exchange?.toList ++ own?.toList) ∧
      c.TokenFirst call timeout now exchange? own? envelope := by
  have hlist : (call.credentials.tokenRequest? timeout now).toList.map
        (fun request ↦ (⟨request, (client request s).1⟩ : Exchange))
      = (call.credentials.tokenExchange? client timeout now s).toList :=
    (Option.toList_map ..).symm
  have hauthorized : ∀ headers,
      (call.credentials.authorize client timeout now s).1 = .ok headers ↔
        ∃ e ∈ call.credentials.tokenExchange? client timeout now s, ∃ token,
          Token.Grants e.outcome token ∧ headers = [("Authorization", "Bearer " ++ token)] := by
    intro headers
    rw [hcredentials]
    exact Credentials.fst_authorize_eq_ok_iff
  refine ⟨call.credentials.tokenExchange? client timeout now s, ?_⟩
  rcases hauth : call.credentials.authorize client timeout now s with ⟨fault | headers, s'⟩
  · -- A grant would have authorized the call.
    have hrefused : ∀ e ∈ call.credentials.tokenExchange? client timeout now s, ∀ token,
        ¬ Token.Grants e.outcome token := by
      intro e he token hgrants
      have hok := (hauthorized _).2 ⟨e, he, token, hgrants, rfl⟩
      rw [hauth] at hok
      cases hok
    have hplain : c.send client timeout now call s = (.unauthorized fault.message, s') :=
      send_of_authorize hauth
    refine ⟨none, _, s', hplain, ?_, .of_refused hrefused fault.message⟩
    rw [(send_traced_of_unauthorized hauth).kept_eq, hplain, hlist]
    simp
  · obtain ⟨e, he, token, hgrants, rfl⟩ := (hauthorized headers).1 (by rw [hauth])
    have hplain := send_of_authorize (c := c) hauth
    rw [proceed, Handling.execute_eq] at hplain
    -- The record shows the call's own request with the outcome that settled the envelope.
    refine ⟨some _, _, _, hplain, ?_, .of_granted he hgrants _⟩
    rw [(send_traced_of_authorized hauth).kept_eq, hplain, hlist]
    simp

end Connector

/-- The services that are reached with the key of an account. -/
theorem Catalog.credentials_eq_serviceAccount :
    ∀ c ∈ [BigQuery.connector, GoogleDocs.connector],
      ∃ key scopes subject, c.credentials = .serviceAccount key scopes subject := by
  intro c hc
  simp only [List.mem_cons, List.not_mem_nil, or_false] at hc
  rcases hc with rfl | rfl <;> exact ⟨_, _, _, rfl⟩

/-- **No call without a token.** An invocation of a service that is reached with the key of an
account, once prepared and not just to be shown, asks for a token at most once and before anything
else, which it does if the key can be read and can sign. The call's own request is sent exactly when
that grants a token, and shows it. Otherwise the invocation ends in an error with status 401,
whatever the answer was. -/
theorem own_request_needs_granted_token {c : Connector}
    (hc : c ∈ [Catalog.BigQuery.connector, Catalog.GoogleDocs.connector]) (r : Registry)
    (i : Invocation) (hget : r.get? i.connector = some c) {call : Call}
    (hcall : c.prepare (r.options i.connector).base (i.filled c) = .ok call)
    (hlive : Connector.isDryRun i.args = false) {σ : Type} (client : Client σ) (s : σ) :
    ∃ exchange? own? envelope s', r.answer client i s = (envelope, s') ∧
      r.answer (recorded client) i (s, [])
        = (envelope, s', exchange?.toList ++ own?.toList) ∧
      c.TokenFirst call (r.options i.connector).timeout i.now exchange? own? envelope := by
  have hall : c ∈ Catalog.all := by
    simp only [List.mem_cons, List.not_mem_nil, or_false] at hc
    rcases hc with rfl | rfl <;> simp [Catalog.all]
  have hfilled : Connector.isDryRun (i.filled c) = false := by
    rw [Invocation.isDryRun_filled (.inr (Catalog.dry_run_notMem_credentialFields c hall)), hlive]
  obtain ⟨key, scopes, subject, hsource⟩ := Catalog.credentials_eq_serviceAccount c hc
  have hcredentials : call.credentials = c.credentials.read (i.filled c) :=
    Connector.credentials_of_prepare hcall
  rw [hsource] at hcredentials
  rw [Registry.answer_of_get? hget, Registry.answer_of_get? hget,
    Connector.run_of_live hcall hfilled, Connector.run_of_live hcall hfilled]
  exact Connector.send_tokenFirst hcredentials

/-- One invocation, for all datasets of a project. Its key is looked up, and cannot sign. -/
def datasetsInvocation : Invocation where
  connector := "bigquery"
  args := ⟨.ofList [("operation", .str "list_datasets"), ("project_id", .str "p1")]⟩
  lookup name := if name = "RELAYCALL_BIGQUERY_SERVICE_ACCOUNT_JSON" then
      some "\x7b\"client_email\": \"a@example.com\", \"private_key\": \"none\"\x7d"
    else none
  now := 0

/-- The same for a caller who hands over the key of an account that can sign. -/
def signedInvocation : Invocation :=
  { datasetsInvocation with
    args := datasetsInvocation.args.insert "service_account_json" (.str prothAccount.written) }

theorem present?_signedInvocation : signedInvocation.args.present? "service_account_json"
    = some (.str prothAccount.written) := by
  have hpresent : (Json.str prothAccount.written).isPresent = true := by
    rw [Json.isPresent, Key.isBlank_written]
    rfl
  rw [Args.present?, signedInvocation, Args.get?_insert, if_pos rfl, Option.filter_some,
    if_pos hpresent]

theorem filled_signedInvocation :
    signedInvocation.filled Catalog.BigQuery.connector = signedInvocation.args := by
  rw [Invocation.filled, Registry.withCredentials_eq_fill]
  refine Fallback.fill_of_all_present (List.all_eq_true.2 (List.forall_mem_singleton.2 ?_))
  rw [Args.isPresent, present?_signedInvocation]
  rfl

/-- A call is made for the key that is handed over as it is for the one that is looked up, since the
checks see only that there is one. -/
theorem exists_call_signedInvocation {call : Call}
    (hcall : Catalog.BigQuery.connector.prepare none
      (datasetsInvocation.filled Catalog.BigQuery.connector) = .ok call) :
    ∃ call, Catalog.BigQuery.connector.prepare none
        (signedInvocation.filled Catalog.BigQuery.connector) = .ok call ∧
      call.credentials = .serviceAccount prothAccount.written [Catalog.BigQuery.scope] none := by
  obtain ⟨name, op, haccept, -⟩ := Connector.prepare_eq_ok_iff.1 hcall
  have hother : ∀ k ≠ "service_account_json",
      signedInvocation.args.get? k = datasetsInvocation.args.get? k := fun k hk ↦ by
    rw [signedInvocation, Args.get?_insert, if_neg hk]
  have hunread : "service_account_json" ∉ Catalog.BigQuery.connector.openReads := by decide +kernel
  have hsame : Catalog.BigQuery.connector.accept signedInvocation.args
      = Catalog.BigQuery.connector.accept
        (datasetsInvocation.filled Catalog.BigQuery.connector) := by
    refine Connector.accept_congr (fun k hk ↦ Args.present?_congr ?_)
      (List.forall_mem_singleton.2 ?_)
    · have hne : k ≠ "service_account_json" := fun h ↦ hunread (h ▸ hk)
      have hfield : k ∉ Catalog.BigQuery.connector.credentialFields := fun h ↦
        hne (List.mem_singleton.1 h)
      exact (hother k hne).trans (Registry.get?_withCredentials (.inr hfield)).symm
    · have hpresent : (datasetsInvocation.filled Catalog.BigQuery.connector).isPresent
          "service_account_json" = true := by decide +kernel
      rw [hpresent, Args.isPresent, present?_signedInvocation]
      rfl
  have hprepare : Catalog.BigQuery.connector.prepare none signedInvocation.args
      = .ok (Catalog.BigQuery.connector.build none signedInvocation.args name op) :=
    Connector.prepare_eq_ok_iff.2 ⟨name, op, hsame.trans haccept, rfl⟩
  refine ⟨_, by rw [filled_signedInvocation]; exact hprepare, ?_⟩
  have hsubject : signedInvocation.args.text? "subject" = none := by
    rw [Args.text?_congr (Args.present?_congr (hother "subject" (by decide)))]
    rfl
  rw [Connector.credentials_of_prepare hprepare]
  change Credentials.serviceAccount (Credentials.keyText signedInvocation.args _) _
    (signedInvocation.args.text? "subject") = _
  rw [hsubject, Credentials.keyText, present?_signedInvocation]

/-- An answer that grants a token. -/
def grant : Outcome := .ok ⟨200, "\x7b\"access_token\": \"t\"\x7d"⟩

/-- An answer that lists no datasets. -/
def noDatasets : Outcome := .ok ⟨200, "\x7b\x7d"⟩

theorem Option.eq_some_of_toList_append {α : Type} {a? b? : Option α} {a b : α}
    (h : a?.toList ++ b?.toList = [a, b]) : a? = some a ∧ b? = some b := by
  cases a? with
  | none => cases b? <;> cases h
  | some _ =>
    cases b? with
    | none => cases h
    | some _ =>
      cases h
      exact ⟨rfl, rfl⟩

/-- With the key of the account both requests are sent. -/
theorem exchanges_of_grant {call : Call}
    (hcredentials : call.credentials
      = .serviceAccount prothAccount.written [Catalog.BigQuery.scope] none) :
    ∃ assertion, (Catalog.BigQuery.connector.send (recorded Script.client) 30 0 call
        (.start [grant, noDatasets], [])).2.2
      = [⟨Token.request prothAccount.tokenUri assertion 30, grant⟩,
        ⟨call.request [("Authorization", "Bearer t")] 30, noDatasets⟩] := by
  obtain ⟨assertion, hassertion⟩ := exists_make_prothAccount [Catalog.BigQuery.scope] none 0
  have hprepare := Token.prepare_eq_ok_iff.2 ⟨read_prothAccount, hassertion⟩
  have htoken : Token.ofOutcome (Script.client (Token.request prothAccount.tokenUri assertion 30)
      (.start [grant, noDatasets])).1 = .ok "t" := by
    rw [Script.fst_client]
    decide +kernel
  have hauth := Credentials.authorize_of_granted hprepare htoken
  rw [← hcredentials] at hauth
  have hrequest : call.credentials.tokenRequest? 30 0
      = some (Token.request prothAccount.tokenUri assertion 30) := by
    rw [hcredentials, Credentials.tokenRequest?, hprepare]
  refine ⟨assertion, ?_⟩
  rw [(Connector.send_traced_of_authorized hauth).kept_eq, hrequest]
  rfl

/-- Without a signature no token is asked for, and no request is sent. With one the token is asked
for, and the datasets with the token that is granted. -/
theorem datasets_need_granted_token :
    (Registry.ofCatalog {}).get? "bigquery" = some Catalog.BigQuery.connector ∧
      Connector.isDryRun datasetsInvocation.args = false ∧
      (∃ call, Catalog.BigQuery.connector.prepare none
          (datasetsInvocation.filled Catalog.BigQuery.connector) = .ok call ∧
        ∃ exchange? own? envelope s',
          (Registry.ofCatalog {}).answer Script.client datasetsInvocation (.start [])
            = (envelope, s') ∧
          (Registry.ofCatalog {}).answer (recorded Script.client) datasetsInvocation (.start [], [])
            = (envelope, s', exchange?.toList ++ own?.toList) ∧
          Catalog.BigQuery.connector.TokenFirst call 30 0 exchange? own? envelope) ∧
      ((Registry.ofCatalog {}).answer Script.client datasetsInvocation (.start [])).1
        = .unauthorized "Failed to sign token request: InvalidKeyFormat" ∧
      ((Registry.ofCatalog {}).answer Script.client datasetsInvocation (.start [])).2.sent
        = [] ∧
      Connector.isDryRun signedInvocation.args = false ∧
      ∃ call assertion envelope s', Catalog.BigQuery.connector.prepare none
          (signedInvocation.filled Catalog.BigQuery.connector) = .ok call ∧
        let asked : Exchange := ⟨Token.request prothAccount.tokenUri assertion 30, grant⟩
        let own : Exchange := ⟨call.request [("Authorization", "Bearer t")] 30, noDatasets⟩
        (Registry.ofCatalog {}).answer Script.client signedInvocation (.start [grant, noDatasets])
          = (envelope, s') ∧
        (Registry.ofCatalog {}).answer (recorded Script.client) signedInvocation
            (.start [grant, noDatasets], []) = (envelope, s', [asked, own]) ∧
        Catalog.BigQuery.connector.TokenFirst call 30 0 (some asked) (some own) envelope ∧
        envelope.status = some 200 := by
  have hget : (Registry.ofCatalog {}).get? "bigquery" = some Catalog.BigQuery.connector := rfl
  have hlive : Connector.isDryRun datasetsInvocation.args = false := by decide +kernel
  have haccepted : (Catalog.BigQuery.connector.prepare none
      (datasetsInvocation.filled Catalog.BigQuery.connector)).toOption.map Call.operation
        = some "list_datasets" := by
    decide +kernel
  obtain ⟨call, hcall, -⟩ := exists_eq_ok_of_toOption haccepted
  have hrun := own_request_needs_granted_token (by simp) (.ofCatalog {}) datasetsInvocation hget
    hcall hlive Script.client (.start [])
  refine ⟨hget, hlive, ⟨call, hcall, hrun⟩, by decide +kernel, by decide +kernel, ?_⟩
  have hsigned : Connector.isDryRun signedInvocation.args = false := hlive
  obtain ⟨call, hcall, hcredentials⟩ := exists_call_signedInvocation hcall
  obtain ⟨exchange?, own?, envelope, s', hplain, hrecorded, hfirst⟩ :=
    own_request_needs_granted_token (by simp) (.ofCatalog {}) signedInvocation hget hcall hsigned
      Script.client (.start [grant, noDatasets])
  -- The record shows two exchanges, so both are there.
  obtain ⟨assertion, hexchanges⟩ := exchanges_of_grant hcredentials
  have hsend : (Registry.ofCatalog {}).answer (recorded Script.client) signedInvocation
      = Catalog.BigQuery.connector.send (recorded Script.client) 30 0 call := by
    rw [Registry.answer_of_get? hget, filled_signedInvocation]
    rw [filled_signedInvocation] at hcall
    exact Connector.run_of_live hcall hsigned
  rw [← hsend, hrecorded] at hexchanges
  obtain ⟨rfl, rfl⟩ := Option.eq_some_of_toList_append hexchanges
  have hstatus : envelope.status = some 200 := by
    rw [hfirst.settled _ rfl]
    rfl
  exact ⟨hsigned, call, assertion, envelope, s', hcall, hplain, hrecorded, hfirst, hstatus⟩

end ServiceCall

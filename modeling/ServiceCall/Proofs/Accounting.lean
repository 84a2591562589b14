import Mathlib.Algebra.Ring.Nat
import Mathlib.Data.List.Forall2
import ServiceCall.Proofs.Exchange
import ServiceCall.Proofs.Filling
import ServiceCall.Proofs.Reads

/-!
# Every request accounted for

How many requests an invocation sends can be told beforehand, from its arguments and from the one
answer that a token exchange would get (`Registry.requestCount`). This file proves that the numbers
are right, for a single invocation and for any number of them that share one scripted client.

## Which answer an invocation gets

The answers are handed out in the order of the requests, so which of them an invocation meets
depends on how much all earlier ones have sent. `Registry.requestCounts` therefore goes through the
invocations with the number of answers used so far. What a script has left to play is its list of
answers without that many, which is the invariant of the induction.
-/

namespace ServiceCall

/-! ## Answers in order -/

namespace Http

/-- The answer that a script has for the request with this number, counted from zero. -/
def scripted (outcomes : List Outcome) (n : Nat) : Outcome :=
  (outcomes[n]?).getD (.error Script.usedUp)

theorem scripted_drop (outcomes : List Outcome) (m n : Nat) :
    scripted (outcomes.drop m) n = scripted outcomes (m + n) := by
  rw [scripted, scripted, List.getElem?_drop]

theorem Script.fst_client (request : Request) (s : Script) :
    (Script.client request s).1 = scripted s.pending 0 := by
  rw [Script.client, scripted]
  cases s.pending <;> rfl

namespace Exchanges

variable {s s' : Script} {es : List Exchange} (h : Exchanges Script.client s es s')
include h

theorem pending_eq : s'.pending = s.pending.drop es.length := by
  induction h with
  | nil s => rfl
  | cons request s _ ih =>
    rw [ih, Script.pending_client, List.length_cons, List.drop_tail]

theorem sent_eq : s'.sent = s.sent ++ es.map Exchange.request := by
  induction h with
  | nil s => rw [List.map_nil, List.append_nil]
  | cons request s _ ih =>
    rw [ih, Script.sent_client, List.map_cons, List.append_assoc, List.singleton_append]

theorem calls_eq : s'.calls = s.calls + es.length := by
  induction h with
  | nil s => rfl
  | cons request s _ ih =>
    rw [ih, Script.calls_client, List.length_cons, Nat.add_assoc, Nat.add_comm 1]

/-- The answers come in the order of the script. -/
theorem outcome_eq {n : Nat} {e : Exchange} (hn : es[n]? = some e) :
    e.outcome = scripted s.pending n := by
  induction h generalizing n with
  | nil s => cases hn
  | cons request s _ ih =>
    cases n with
    | zero =>
      cases hn
      exact Script.fst_client request s
    | succ n =>
      rw [ih hn, Script.pending_client, ← List.drop_one, scripted_drop, Nat.add_comm]

end Exchanges

end Http

open Http (Client Exchange Exchanges Outcome Request Script Traced recorded scripted)

/-! ## The requests of one call -/

namespace Credentials

open ServiceAccount

/-- How many requests a call under these credentials takes, its own included, when a token exchange
is answered with `answer`. -/
def requestCount (now : Int) (answer : Outcome) : Credentials → Nat
  | basic .. | bearer _ => 1
  | serviceAccount keyText scopes subject =>
    match Key.read keyText with
    | .error _ => 0
    | .ok key =>
      match Assertion.make key scopes subject now with
      | .error _ => 0
      | .ok _ =>
        match Token.ofOutcome answer with
        | .error _ => 1
        | .ok _ => 2

variable {keyText : String} {scopes : List String} {subject : Option String} {now : Int}
  {answer : Outcome}

theorem requestCount_of_unprepared {fault : AuthFault}
    (h : Token.prepare keyText scopes subject now = .error fault) :
    (serviceAccount keyText scopes subject).requestCount now answer = 0 := by
  rw [requestCount]
  cases hkey : Key.read keyText with
  | error reason => rfl
  | ok key =>
    dsimp only
    cases hassertion : Assertion.make key scopes subject now with
    | error fault => rfl
    | ok assertion =>
      rw [Token.prepare_eq_ok_iff.2 ⟨hkey, hassertion⟩] at h
      cases h

theorem requestCount_of_prepared {key : Key} {assertion : String}
    (h : Token.prepare keyText scopes subject now = .ok (key, assertion)) :
    (serviceAccount keyText scopes subject).requestCount now answer
      = match Token.ofOutcome answer with
        | .error _ => 1
        | .ok _ => 2 := by
  obtain ⟨hkey, hassertion⟩ := Token.prepare_eq_ok_iff.1 h
  rw [requestCount, hkey]
  dsimp only
  rw [hassertion]

/-- The request for a token, if there is one, and the call's own, if it is authorized. -/
theorem requestCount_eq (credentials : Credentials) (timeout : Nat) (now : Int) (s : Script) :
    credentials.requestCount now (scripted s.pending 0)
      = (credentials.tokenRequest? timeout now).toList.length
        + if (credentials.authorize Script.client timeout now s).1.isOk then 1 else 0 := by
  cases credentials with
  | basic username password | bearer token => rfl
  | serviceAccount keyText scopes subject =>
    cases hprepare : Token.prepare keyText scopes subject now with
    | error fault =>
      rw [requestCount_of_unprepared hprepare, authorize_of_unprepared hprepare, tokenRequest?,
        hprepare]
      rfl
    | ok prepared =>
      obtain ⟨key, assertion⟩ := prepared
      rw [requestCount_of_prepared hprepare, authorize_of_prepared hprepare, tokenRequest?,
        hprepare, ← Script.fst_client (Token.request key.tokenUri assertion timeout)]
      change _ = 1 + if (Except.map _ (Token.ofOutcome (Script.client _ s).1)).isOk then 1 else 0
      cases Token.ofOutcome (Script.client _ s).1 <;> rfl

theorem timeout_of_mem_tokenRequest? {credentials : Credentials} {timeout : Nat}
    {request : Request} (h : request ∈ credentials.tokenRequest? timeout now) :
    request.timeout = timeout := by
  cases credentials with
  | basic username password | bearer token => cases h
  | serviceAccount keyText scopes subject =>
    rw [tokenRequest?] at h
    split at h
    · cases h
    · cases h
      rfl

end Credentials

/-! ## The requests of one invocation -/

/-- From the state `s` on as many requests are sent as `count` says, all of them under one time
limit. The exchanges are those that a record shows, and the record changes nothing. -/
structure Accounted {α : Type} (plain : StateM Script α) (kept : StateM (Script × List Exchange) α)
    (s : Script) (count timeout : Nat) (es : List Exchange) : Prop where
  traced : Traced Script.client plain kept s es
  length_eq : es.length = count
  timeout_eq : ∀ e ∈ es, e.request.timeout = timeout

theorem Accounted.pure {α : Type} (a : α) (s : Script) (timeout : Nat) :
    Accounted (Pure.pure a) (Pure.pure a) s 0 timeout [] :=
  ⟨.pure a, rfl, fun _ he ↦ by cases he⟩

theorem Connector.send_accounted (c : Connector) (call : Call) (timeout : Nat) (now : Int)
    (s : Script) :
    ∃ es, Accounted (c.send Script.client timeout now call)
      (c.send (recorded Script.client) timeout now call) s
      (call.credentials.requestCount now (scripted s.pending 0)) timeout es := by
  have htimeout : ∀ e ∈ (call.credentials.tokenRequest? timeout now).toList.map
      (fun request ↦ (⟨request, (Script.client request s).1⟩ : Exchange)),
      e.request.timeout = timeout := by
    intro e he
    obtain ⟨request, hrequest, rfl⟩ := List.mem_map.1 he
    exact Credentials.timeout_of_mem_tokenRequest? (Option.mem_toList.1 hrequest)
  rw [Credentials.requestCount_eq _ timeout]
  rcases hauth : call.credentials.authorize Script.client timeout now s with ⟨fault | headers, s'⟩
  · exact ⟨_, send_traced_of_unauthorized hauth, List.length_map .., htimeout⟩
  · refine ⟨_, send_traced_of_authorized hauth, ?_, fun e he ↦ ?_⟩
    · rw [List.length_append, List.length_map]
      rfl
    · rcases List.mem_append.1 he with he | he
      · exact htimeout e he
      · rw [List.mem_singleton.1 he]
        rfl

/-- One call of a registry: what is asked for, what the caller's credentials can be looked up in,
and when. -/
structure Invocation where
  connector : String
  args : Args
  lookup : Fallback.Lookup
  now : Int

/-- The arguments that the connector sees. -/
def Invocation.filled (i : Invocation) (c : Connector) : Args :=
  Registry.withCredentials i.lookup i.connector c i.args

/-! ### The flag of a dry run

Looking up credentials does not turn a dry run into a live one, and turns a live one into a dry run
only if a service takes the flag itself for a credential. -/

/-- An argument that is there, or that holds no credential, is left as it is. -/
theorem Registry.get?_withCredentials {lookup : Fallback.Lookup} {name key : String}
    {c : Connector} {args : Args} (h : args.isPresent key = true ∨ key ∉ c.credentialFields) :
    (withCredentials lookup name c args).get? key = args.get? key := by
  rw [withCredentials_eq_fill]
  exact Fallback.get?_fill h

theorem Invocation.isDryRun_filled {i : Invocation} {c : Connector}
    (h : Connector.isDryRun i.args = true ∨ "dry_run" ∉ c.credentialFields) :
    Connector.isDryRun (i.filled c) = Connector.isDryRun i.args :=
  Args.flag_congr (Args.present?_congr
    (Registry.get?_withCredentials (h.imp_left Args.isPresent_of_flag)))

namespace Registry

def answer {σ : Type} (r : Registry) (client : Client σ) (i : Invocation) : StateM σ Envelope :=
  r.invoke client i.lookup i.now i.connector i.args

/-- How many requests an invocation sends when a token exchange is answered with `answer`. -/
def requestCount (r : Registry) (i : Invocation) (answer : Outcome) : Nat :=
  match r.get? i.connector with
  | none => 0
  | some c =>
    match c.prepare (r.options i.connector).base (i.filled c) with
    | .error _ => 0
    | .ok call =>
      if Connector.isDryRun (i.filled c) then 0 else call.credentials.requestCount i.now answer

/-- A caller who asks for a dry run gets one, whatever is looked up. -/
theorem requestCount_of_isDryRun {r : Registry} {i : Invocation}
    (h : Connector.isDryRun i.args = true) (answer : Outcome) : r.requestCount i answer = 0 := by
  rw [requestCount]
  split
  · rfl
  · split
    · rfl
    · rw [Invocation.isDryRun_filled (.inl h), h, if_pos rfl]

theorem answer_accounted (r : Registry) (i : Invocation) (s : Script) :
    ∃ es, Accounted (r.answer Script.client i) (r.answer (recorded Script.client) i) s
      (r.requestCount i (scripted s.pending 0)) (r.settings.timeoutFor i.connector) es := by
  simp only [answer, invoke, requestCount]
  cases r.get? i.connector with
  | none => exact ⟨[], .pure ..⟩
  | some c =>
    change ∃ es, Accounted (c.run Script.client (r.options i.connector) i.now (i.filled c))
      (c.run (recorded Script.client) (r.options i.connector) i.now (i.filled c)) s _ _ es
    dsimp only
    cases hprepare : c.prepare (r.options i.connector).base (i.filled c) with
    | error refusal =>
      rw [Connector.run_of_refused hprepare, Connector.run_of_refused hprepare]
      exact ⟨[], .pure ..⟩
    | ok call =>
      cases hdry : Connector.isDryRun (i.filled c) with
      | true =>
        rw [Connector.run_of_dryRun hprepare hdry, Connector.run_of_dryRun hprepare hdry]
        exact ⟨[], .pure ..⟩
      | false =>
        rw [Connector.run_of_live hprepare hdry, Connector.run_of_live hprepare hdry]
        exact c.send_accounted call _ i.now s

/-! ## Any number of invocations -/

/-- One invocation after the other, over one client. -/
def serve {σ : Type} (r : Registry) (client : Client σ) (is : List Invocation) :
    StateM σ (List Envelope) :=
  is.mapM (r.answer client)

/-- An invocation with what is exchanged in the course of it. -/
def answerTraced {σ : Type} (r : Registry) (client : Client σ) (i : Invocation) :
    StateM σ (Envelope × List Exchange) := fun s ↦
  let run := r.answer (recorded client) i (s, [])
  ((run.1, run.2.2), run.2.1)

def serveTraced {σ : Type} (r : Registry) (client : Client σ) (is : List Invocation) :
    StateM σ (List (Envelope × List Exchange)) :=
  is.mapM (r.answerTraced client)

/-- How many requests each of the invocations sends, when `used` of the answers are used already. -/
def requestCounts (r : Registry) (outcomes : List Outcome) (used : Nat) : List Invocation → List Nat
  | [] => []
  | i :: is =>
    let count := r.requestCount i (scripted outcomes used)
    count :: requestCounts r outcomes (used + count) is

theorem answerTraced_eq {r : Registry} {i : Invocation} {s : Script} {es : List Exchange}
    (h : Traced Script.client (r.answer Script.client i) (r.answer (recorded Script.client) i) s
      es) :
    r.answerTraced Script.client i s
      = (((r.answer Script.client i s).1, es), (r.answer Script.client i s).2) := by
  rw [answerTraced, h.kept_eq]
  rfl

/-- The invariant: what is left to play is the list of answers without those used. -/
theorem serveTraced_accounted (r : Registry) (outcomes : List Outcome) (is : List Invocation)
    {used : Nat} {s : Script} (hs : s.pending = outcomes.drop used) :
    ∃ traces s', r.serveTraced Script.client is s = (traces, s') ∧
      r.serve Script.client is s = (traces.map Prod.fst, s') ∧
      Exchanges Script.client s (traces.flatMap Prod.snd) s' ∧
      traces.map (·.2.length) = r.requestCounts outcomes used is ∧
      List.Forall₂ (fun i t ↦ ∀ e ∈ t.2, e.request.timeout = r.settings.timeoutFor i.connector) is
        traces := by
  induction is generalizing used s with
  | nil => exact ⟨[], s, rfl, rfl, .nil s, rfl, .nil⟩
  | cons i is ih =>
    obtain ⟨es, htraced, hlength, htimeout⟩ := r.answer_accounted i s
    have hanswer : scripted s.pending 0 = scripted outcomes used := by
      rw [hs, Http.scripted_drop, Nat.add_zero]
    rw [hanswer] at hlength
    -- The invariant for the rest: as many answers are gone as this invocation sent requests.
    have hpending : (r.answer Script.client i s).2.pending
        = outcomes.drop (used + r.requestCount i (scripted outcomes used)) := by
      rw [htraced.exchanges.pending_eq, hs, List.drop_drop, hlength]
    obtain ⟨traces, s', hkept, hplain, hexchanges, hcounts, htimeouts⟩ := ih hpending
    refine ⟨((r.answer Script.client i s).1, es) :: traces, s', ?_, ?_, ?_, ?_, ?_⟩
    · -- `mapM` runs the first invocation, and the rest from the state in which that ended.
      rw [serveTraced, List.mapM_cons]
      change (((r.answerTraced Script.client i s).1 ::
        (r.serveTraced Script.client is (r.answerTraced Script.client i s).2).1),
        (r.serveTraced Script.client is (r.answerTraced Script.client i s).2).2) = _
      rw [answerTraced_eq htraced, hkept]
    · rw [serve, List.mapM_cons]
      change (((r.answer Script.client i s).1 ::
        (r.serve Script.client is (r.answer Script.client i s).2).1),
        (r.serve Script.client is (r.answer Script.client i s).2).2) = _
      rw [hplain]
      rfl
    · exact htraced.exchanges.append hexchanges
    · rw [List.map_cons, hcounts, requestCounts, hlength]
    · exact .cons htimeout htimeouts

end Registry

/-- **Every request is accounted for.** Of any number of invocations over one script, each sends as
many requests as its arguments and the answer due next determine, and none if it asks for a dry run,
for which its own flag counts unless the service takes that for a credential. A record of what is
exchanged changes nothing. The script received and counted just these requests, answered each with
the answer of its number, and saw on each the time limit of the connector that sent it. -/
theorem requests_accounted (r : Registry) (outcomes : List Outcome) (is : List Invocation) :
    let run := r.serve Script.client is (.start outcomes)
    let traced := r.serveTraced Script.client is (.start outcomes)
    let exchanges := traced.1.flatMap Prod.snd
    let counts := r.requestCounts outcomes 0 is
    run = (traced.1.map Prod.fst, traced.2) ∧ run.2.sent = exchanges.map Exchange.request ∧
      traced.1.map (·.2.length) = counts ∧
      (∀ i ∈ is, Connector.isDryRun i.args = true → ∀ answer, r.requestCount i answer = 0) ∧
      (∀ i ∈ is, ∀ c, r.get? i.connector = some c → "dry_run" ∉ c.credentialFields →
        Connector.isDryRun (i.filled c) = Connector.isDryRun i.args) ∧
      run.2.sent.length = run.2.calls ∧ run.2.calls = counts.sum ∧
      (∀ n e, exchanges[n]? = some e → e.outcome = scripted outcomes n) ∧
      List.Forall₂ (fun i t ↦ ∀ e ∈ t.2, e.request.timeout = r.settings.timeoutFor i.connector) is
        traced.1 := by
  obtain ⟨traces, s', hkept, hplain, hexchanges, hcounts, htimeouts⟩ :=
    Registry.serveTraced_accounted r outcomes is (s := .start outcomes) (List.drop_zero).symm
  simp only [hkept, hplain]
  refine ⟨trivial, hexchanges.sent_eq, hcounts,
    fun i _ hdry ↦ Registry.requestCount_of_isDryRun hdry,
    fun i _ c _ hflag ↦ Invocation.isDryRun_filled (.inr hflag), ?_, ?_,
    fun n e hn ↦ hexchanges.outcome_eq hn, htimeouts⟩
  · rw [hexchanges.sent_eq, hexchanges.calls_eq]
    simp [Script.start]
  · rw [hexchanges.calls_eq, ← hcounts, List.length_flatMap]
    simp [Script.start]

end ServiceCall

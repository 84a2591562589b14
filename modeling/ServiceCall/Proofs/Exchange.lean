import ServiceCall.Registry

/-!
# What a run sends

A run talks to the world through its client and in no other way. To see what it says, the client is
given a record: over `Http.recorded client` every request is written down together with the outcome
it met, and the client below is none the wiser.

## One computation, seen twice

The same run over the plain client and over the recorded one are related by `Http.Traced`: result
and state are the same, and what the record gained are exchanges that lead the plain client from the
first state to the last (`Http.Exchanges`). The relation is closed under the ways in which runs are
put together, so for each function one lemma says what is exchanged, and what holds of a whole run
follows from what holds of one request.
-/

namespace ServiceCall

namespace Http

/-- A request with the outcome it met. -/
structure Exchange where
  request : Request
  outcome : Outcome

/-- The client, keeping a record of what is exchanged. -/
def recorded {σ : Type} (client : Client σ) : Client (σ × List Exchange) := fun request s ↦
  ((client request s.1).1,
    ((client request s.1).2, s.2 ++ [⟨request, (client request s.1).1⟩]))

/-- These exchanges, and no others, lead the client from one state to the other. -/
inductive Exchanges {σ : Type} (client : Client σ) : σ → List Exchange → σ → Prop
  | nil (s : σ) : Exchanges client s [] s
  | cons (request : Request) (s : σ) {es : List Exchange} {s' : σ} :
    Exchanges client (client request s).2 es s' →
      Exchanges client s (⟨request, (client request s).1⟩ :: es) s'

theorem Exchanges.append {σ : Type} {client : Client σ} {s s' s'' : σ} {es es' : List Exchange}
    (h : Exchanges client s es s') (h' : Exchanges client s' es' s'') :
    Exchanges client s (es ++ es') s'' := by
  induction h with
  | nil s => exact h'
  | cons request s _ ih => exact .cons request s (ih h')

/-- A computation over a client and the same one over the recorded client, from the state `s`, in
which `es` is exchanged. -/
structure Traced {σ α : Type} (client : Client σ) (plain : StateM σ α)
    (kept : StateM (σ × List Exchange) α) (s : σ) (es : List Exchange) : Prop where
  kept_eq : ∀ log, kept (s, log) = ((plain s).1, ((plain s).2, log ++ es))
  exchanges : Exchanges client s es (plain s).2

namespace Traced

variable {σ α β : Type} {client : Client σ} {s : σ}

theorem pure (a : α) : Traced client (pure a) (Pure.pure a) s [] where
  kept_eq log := by rw [List.append_nil]; rfl
  exchanges := .nil s

theorem call (request : Request) :
    Traced client (client request) (recorded client request) s
      [⟨request, (client request s).1⟩] where
  kept_eq _ := rfl
  exchanges := .cons request s (.nil _)

theorem bind {plain : StateM σ α} {kept : StateM (σ × List Exchange) α} {f : α → StateM σ β}
    {g : α → StateM (σ × List Exchange) β} {es es' : List Exchange}
    (h : Traced client plain kept s es)
    (h' : Traced client (f (plain s).1) (g (plain s).1) (plain s).2 es') :
    Traced client (plain >>= f) (kept >>= g) s (es ++ es') where
  kept_eq log := by
    change g (kept (s, log)).1 (kept (s, log)).2 = _
    rw [h.kept_eq, h'.kept_eq, List.append_assoc]
    rfl
  exchanges := h.exchanges.append h'.exchanges

theorem map {plain : StateM σ α} {kept : StateM (σ × List Exchange) α} {es : List Exchange}
    (f : α → β) (h : Traced client plain kept s es) :
    Traced client (f <$> plain) (f <$> kept) s es where
  kept_eq log := by
    change (f (kept (s, log)).1, (kept (s, log)).2) = _
    rw [h.kept_eq]
    rfl
  exchanges := h.exchanges

end Traced

end Http

open Http (Client Exchange Outcome Traced recorded)

variable {σ : Type} {client : Client σ} {timeout : Nat} {now : Int} {s : σ}

/-! ## Authorization -/

namespace Credentials

open ServiceAccount

theorem authorize_basic (username password : String) :
    (basic username password).authorize client timeout now s
      = (.ok [("Authorization", basicHeader username password)], s) := rfl

theorem authorize_bearer (token : String) :
    (bearer token).authorize client timeout now s
      = (.ok [("Authorization", bearerHeader token)], s) := rfl

theorem authorize_of_unprepared {keyText : String} {scopes : List String}
    {subject : Option String} {fault : AuthFault}
    (h : Token.prepare keyText scopes subject now = .error fault) :
    (serviceAccount keyText scopes subject).authorize client timeout now s
      = (.error fault, s) := by
  have hfetch : Token.fetch client keyText scopes subject timeout now = pure (.error fault) := by
    rw [Token.fetch, h]
  rw [authorize, hfetch]
  rfl

theorem authorize_of_prepared {keyText : String} {scopes : List String} {subject : Option String}
    {key : Key} {assertion : String}
    (h : Token.prepare keyText scopes subject now = .ok (key, assertion)) :
    (serviceAccount keyText scopes subject).authorize client timeout now
      = (fun outcome ↦ (Token.ofOutcome outcome).map
          fun token ↦ [("Authorization", bearerHeader token)])
        <$> client (Token.request key.tokenUri assertion timeout) := by
  have hfetch : Token.fetch client keyText scopes subject timeout now
      = Token.ofOutcome <$> client (Token.request key.tokenUri assertion timeout) := by
    rw [Token.fetch, h]
  rw [authorize, hfetch]
  rfl

/-- The request with which a token is asked for, if the credentials call for one. -/
def tokenRequest? (timeout : Nat) (now : Int) : Credentials → Option Http.Request
  | basic .. | bearer _ => none
  | serviceAccount keyText scopes subject =>
    match Token.prepare keyText scopes subject now with
    | .error _ => none
    | .ok (key, assertion) => some (Token.request key.tokenUri assertion timeout)

/-- Authorizing takes at most the one request for a token. -/
theorem authorize_traced (credentials : Credentials) :
    Traced client (credentials.authorize client timeout now)
      (credentials.authorize (recorded client) timeout now) s
      ((credentials.tokenRequest? timeout now).toList.map
        fun request ↦ ⟨request, (client request s).1⟩) := by
  cases credentials with
  | basic username password => exact .pure _
  | bearer token => exact .pure _
  | serviceAccount keyText scopes subject =>
    rw [tokenRequest?]
    cases hprepare : Token.prepare keyText scopes subject now with
    | error fault =>
      refine ⟨fun log ↦ ?_, ?_⟩
      · rw [authorize_of_unprepared hprepare, authorize_of_unprepared hprepare, Option.toList_none,
          List.map_nil, List.append_nil]
      · rw [authorize_of_unprepared hprepare]
        exact .nil s
    | ok prepared =>
      rw [authorize_of_prepared hprepare, authorize_of_prepared hprepare]
      exact (Traced.call _).map _

end Credentials

/-! ## The call itself -/

namespace Connector

variable {c : Connector} {call : Call} {fault : AuthFault} {headers : List (String × String)}
  {s' : σ}

/-- What is left of a call once it is settled whether it is authorized. -/
def proceed (c : Connector) (client : Client σ) (timeout : Nat) (call : Call) :
    Except AuthFault (List (String × String)) → StateM σ Envelope
  | .error fault => pure (.unauthorized fault.message)
  | .ok headers => c.handling.execute client (call.request headers timeout)

theorem send_eq_bind :
    c.send client timeout now call
      = call.credentials.authorize client timeout now >>= c.proceed client timeout call := by
  refine congrArg (call.credentials.authorize client timeout now >>= ·) (funext fun r ↦ ?_)
  cases r <;> rfl

theorem send_of_authorize {r : Except AuthFault (List (String × String))}
    (h : call.credentials.authorize client timeout now s = (r, s')) :
    c.send client timeout now call s = c.proceed client timeout call r s' := by
  rw [send_eq_bind]
  change c.proceed client timeout call (call.credentials.authorize client timeout now s).1
    (call.credentials.authorize client timeout now s).2 = _
  rw [h]

/-- The requests of a call that is not authorized: the one for a token, if any. -/
theorem send_traced_of_unauthorized
    (h : call.credentials.authorize client timeout now s = (.error fault, s')) :
    Traced client (c.send client timeout now call) (c.send (recorded client) timeout now call) s
      ((call.credentials.tokenRequest? timeout now).toList.map
        fun request ↦ ⟨request, (client request s).1⟩) := by
  rw [send_eq_bind, send_eq_bind, ← List.append_nil (List.map ..)]
  refine (call.credentials.authorize_traced).bind ?_
  rw [h]
  exact .pure _

/-- The requests of a call that is authorized: the one for a token, if any, and then its own. -/
theorem send_traced_of_authorized
    (h : call.credentials.authorize client timeout now s = (.ok headers, s')) :
    Traced client (c.send client timeout now call) (c.send (recorded client) timeout now call) s
      (((call.credentials.tokenRequest? timeout now).toList.map
          fun request ↦ ⟨request, (client request s).1⟩) ++
        [⟨call.request headers timeout, (client (call.request headers timeout) s').1⟩]) := by
  rw [send_eq_bind, send_eq_bind]
  refine (call.credentials.authorize_traced).bind ?_
  rw [h]
  exact (Traced.call _).map _

/-! ## One invocation -/

variable {options : CallOptions} {args : Args}

theorem run_of_refused {refusal : Refusal} (h : c.prepare options.base args = .error refusal) :
    c.run client options now args = pure refusal.envelope := by
  rw [run, h]

theorem run_of_dryRun (h : c.prepare options.base args = .ok call)
    (hdry : isDryRun args = true) :
    c.run client options now args = pure (.ok call.preview none) := by
  rw [run, h]
  exact if_pos hdry

theorem run_of_live (h : c.prepare options.base args = .ok call)
    (hlive : isDryRun args = false) :
    c.run client options now args = c.send client options.timeout now call := by
  rw [run, h]
  exact if_neg (by simp [hlive])

/-- With headers that take no request of their own, a live run sends the one request under them. -/
theorem run_traced_of_live (h : c.prepare options.base args = .ok call)
    (hlive : isDryRun args = false)
    (hready : call.credentials.authorize client options.timeout now s = (.ok headers, s))
    (htoken : call.credentials.tokenRequest? options.timeout now = none) :
    Traced client (c.run client options now args) (c.run (recorded client) options now args) s
      [⟨call.request headers options.timeout,
        (client (call.request headers options.timeout) s).1⟩] := by
  have htraced := send_traced_of_authorized (c := c) hready
  rw [htoken] at htraced
  rw [run_of_live h hlive, run_of_live h hlive]
  exact htraced

end Connector

end ServiceCall

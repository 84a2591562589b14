import ServiceCall.Program
import ServiceCall.Proofs.Accounting
import ServiceCall.Proofs.Outcomes

/-!
# How invocations end

An invocation can end in five ways (`Ending`), and whether it has failed is settled by the way it
ended. The envelope does not say. It is an error if its output holds a string under `error`, and the
exit code of the program goes by that.

All failures are errors in this sense. But so is a success whose content, passed on as it is, holds
such a string of its own. `isError_iff_failed_or_named` says that nothing else comes between the
two.
-/

namespace ServiceCall

open Http (Client Outcome Response Script)

/-! ## Responses -/

namespace Http.Response

/-- A success that is reported as such: without content, or with content that can be read. -/
def isUsable (r : Response) : Bool := r.isOk && (Text.isBlank r.body || r.json?.isSome)

/-- A success whose content holds a string under `error`. -/
def namesError (r : Response) : Bool :=
  r.isOk && ((r.json?.bind (Json.field? "error")).bind Json.string?).isSome

end Http.Response

namespace Envelope

theorem isError_failure (message : String) (status : Option UInt16)
    (details response : Option Json) :
    (failure message status details response).isError = true := by
  rw [isError, errorMessage?_failure, Option.isSome_some]

theorem isError_badInput (message : String) (field : Option String) :
    (badInput message field).isError = true := by
  rw [isError, errorMessage?_badInput, Option.isSome_some]

end Envelope

theorem Refusal.isError_envelope (r : Refusal) : r.envelope.isError = true := by
  cases r with
  | noCredential field => exact Envelope.isError_failure ..
  | missing field | invalid field | unsupported operation => exact Envelope.isError_badInput ..

theorem Handling.isError_concludeResponse (h : Handling) (r : Response) :
    (h.concludeResponse r).isError = true ↔ r.isUsable = false ∨ r.namesError = true := by
  rw [Response.isUsable, Response.namesError]
  cases hjson : r.json? with
  | some data =>
    rw [concludeResponse_of_json?_eq_some hjson]
    cases hok : r.isOk with
    | true => simp [Envelope.isError, Envelope.errorMessage?, Envelope.ok]
    | false => simp [Envelope.isError_failure]
  | none =>
    by_cases hblank : r.isOk = true ∧ Text.isBlank r.body = true
    · have hnull : (Envelope.ok .null (some r.status)).isError = false := rfl
      rw [concludeResponse_of_blank hblank.1 hblank.2, hnull, hblank.1, hblank.2]
      simp
    · rw [concludeResponse_of_json?_eq_none hblank hjson, Envelope.isError_failure]
      simpa using hblank

/-! ## Endings -/

/-- How an invocation ends. -/
inductive Ending where
  /-- No service is offered under the name. -/
  | unknown (name : String)
  | refused (refusal : Refusal)
  /-- With the description of a call that was not to be made. -/
  | shown (call : Call)
  | unauthorized (fault : AuthFault)
  /-- With the outcome of the call, in the wording of the service. -/
  | settled (handling : Handling) (outcome : Outcome)

namespace Ending

def envelope : Ending → Envelope
  | unknown name => .badInput (Failure.unknownConnector name).message (some "connector")
  | refused refusal => refusal.envelope
  | shown call => .ok call.preview none
  | unauthorized fault => .unauthorized fault.message
  | settled handling outcome => handling.conclude outcome

/-- The invocation has failed: it was not made, it was not authorized, or it got no usable
response. -/
def isFailure : Ending → Bool
  | unknown _ | refused _ | unauthorized _ | settled _ (.error _) => true
  | shown _ => false
  | settled _ (.ok r) => !r.isUsable

/-- The invocation got a response of success that holds a string under `error`. -/
def namesError : Ending → Bool
  | settled _ (.ok r) => r.namesError
  | _ => false

theorem isError_envelope (e : Ending) :
    e.envelope.isError = true ↔ e.isFailure = true ∨ e.namesError = true := by
  cases e with
  | unknown name => simp [envelope, isFailure, Envelope.isError_badInput]
  | refused refusal => simp [envelope, isFailure, Refusal.isError_envelope]
  | shown call =>
    have hshown : (Envelope.ok call.preview none).isError = false := rfl
    simp [envelope, isFailure, namesError, hshown]
  | unauthorized fault =>
    simp [envelope, isFailure, Envelope.unauthorized, Envelope.isError_failure]
  | settled handling outcome =>
    cases outcome with
    | error failure => simp [envelope, isFailure, Handling.conclude, Envelope.isError_failure]
    | ok r =>
      rw [envelope, Handling.conclude, Handling.isError_concludeResponse, isFailure, namesError,
        Bool.not_eq_true']

end Ending

/-! ## Which ending an invocation has -/

namespace Connector

variable {σ : Type} {c : Connector} {client : Client σ} {options : CallOptions} {now : Int}
  {args : Args} {s : σ}

/-- A run ends by the first of its steps that does not go through, or else with the outcome of its
request. -/
inductive Ends (c : Connector) (client : Client σ) (options : CallOptions) (now : Int) (args : Args)
    (s : σ) : Ending → Prop
  | refused {refusal : Refusal} (h : c.prepare options.base args = .error refusal) :
    Ends c client options now args s (.refused refusal)
  | shown {call : Call} (h : c.prepare options.base args = .ok call)
    (hdry : isDryRun args = true) : Ends c client options now args s (.shown call)
  | unauthorized {call : Call} {fault : AuthFault} {s' : σ}
    (h : c.prepare options.base args = .ok call) (hlive : isDryRun args = false)
    (hauth : call.credentials.authorize client options.timeout now s = (.error fault, s')) :
    Ends c client options now args s (.unauthorized fault)
  | settled {call : Call} {headers : List (String × String)} {s' : σ}
    (h : c.prepare options.base args = .ok call) (hlive : isDryRun args = false)
    (hauth : call.credentials.authorize client options.timeout now s = (.ok headers, s')) :
    Ends c client options now args s
      (.settled c.handling (client (call.request headers options.timeout) s').1)

theorem exists_ends (c : Connector) (client : Client σ) (options : CallOptions) (now : Int)
    (args : Args) (s : σ) : ∃ ending, c.Ends client options now args s ending := by
  cases hprepare : c.prepare options.base args with
  | error refusal => exact ⟨_, .refused hprepare⟩
  | ok call =>
    cases hflag : isDryRun args with
    | true => exact ⟨_, .shown hprepare hflag⟩
    | false =>
      rcases hauth : call.credentials.authorize client options.timeout now s
        with ⟨fault | headers, s'⟩
      · exact ⟨_, .unauthorized hprepare hflag hauth⟩
      · exact ⟨_, .settled hprepare hflag hauth⟩

theorem fst_run_of_ends {ending : Ending} (h : c.Ends client options now args s ending) :
    (c.run client options now args s).1 = ending.envelope := by
  cases h with
  | refused h =>
    rw [run_of_refused h]
    rfl
  | shown h hdry =>
    rw [run_of_dryRun h hdry]
    rfl
  | unauthorized h hlive hauth =>
    rw [run_of_live h hlive, send_of_authorize hauth]
    rfl
  | settled h hlive hauth =>
    rw [run_of_live h hlive, send_of_authorize hauth, proceed, Handling.execute_eq]
    rfl

end Connector

namespace Registry

variable {σ : Type} {r : Registry} {client : Client σ} {i : Invocation} {s : σ}

/-- An invocation ends as the run of its service does, if there is one of that name. -/
inductive Ends (r : Registry) (client : Client σ) (i : Invocation) (s : σ) : Ending → Prop
  | unknown (h : r.get? i.connector = none) : Ends r client i s (.unknown i.connector)
  | known {c : Connector} {ending : Ending} (h : r.get? i.connector = some c)
    (hrun : c.Ends client (r.options i.connector) i.now (i.filled c) s ending) :
    Ends r client i s ending

theorem exists_ends (r : Registry) (client : Client σ) (i : Invocation) (s : σ) :
    ∃ ending, r.Ends client i s ending := by
  cases hget : r.get? i.connector with
  | none => exact ⟨_, .unknown hget⟩
  | some c =>
    obtain ⟨ending, hending⟩ := c.exists_ends client (r.options i.connector) i.now (i.filled c) s
    exact ⟨ending, .known hget hending⟩

theorem answer_of_get? {c : Connector} (h : r.get? i.connector = some c) :
    r.answer client i = c.run client (r.options i.connector) i.now (i.filled c) := by
  rw [answer, invoke, h]
  rfl

theorem fst_answer_of_ends {ending : Ending} (h : r.Ends client i s ending) :
    (r.answer client i s).1 = ending.envelope := by
  cases h with
  | unknown h =>
    rw [answer, invoke, h]
    rfl
  | known h hrun => rw [answer_of_get? h, Connector.fst_run_of_ends hrun]

end Registry

theorem Program.Report.code_ofEnvelope (e : Envelope) :
    (ofEnvelope e).code = if e.isError then 1 else 0 := by
  rw [ofEnvelope]
  cases e.isError <;> rfl

/-- **What counts as an error is what failed, and what says so itself.** Every invocation ends in
some way. It counts as an error, for its envelope and for the exit code of the program, if it has
failed or if it got a response of success that holds a string under `error`, and in no other
case. -/
theorem isError_iff_failed_or_named (r : Registry) {σ : Type} (client : Client σ) (i : Invocation)
    (s : σ) :
    (∃ ending, r.Ends client i s ending) ∧ ∀ ending, r.Ends client i s ending →
      ((r.answer client i s).1.isError = true ↔
        ending.isFailure = true ∨ ending.namesError = true) ∧
      (Program.Report.ofEnvelope (r.answer client i s).1).code
        = if ending.isFailure || ending.namesError then 1 else 0 := by
  refine ⟨r.exists_ends client i s, fun ending hending ↦ ?_⟩
  have hiff := ending.isError_envelope
  rw [Registry.fst_answer_of_ends hending]
  refine ⟨hiff, ?_⟩
  rw [Program.Report.code_ofEnvelope]
  exact if_congr (hiff.trans (Bool.or_eq_true_iff ..).symm) rfl rfl

/-- A contact that has a property of the name `error`. -/
def contactWithError : Response := ⟨200, "\x7b\"id\": \"35\", \"error\": \"none\"\x7d"⟩

/-- One invocation, for a contact. -/
def contactInvocation : Invocation where
  connector := "hubspot"
  args := ⟨.ofList [("operation", .str "get_contact"), ("contact_id", .num (.int 35)),
    ("access_token", .str "t")]⟩
  lookup _ := none
  now := 0

/-- A contact that was found counts as an error if it has a property of that name. -/
theorem contact_with_error_property_counts_as_error :
    contactWithError.isUsable = true ∧
      ((Registry.ofCatalog {}).answer Script.client contactInvocation
          (.start [.ok contactWithError])).1
        = .ok (.object [("id", .str "35"), ("error", .str "none")]) (some 200) ∧
      ((Registry.ofCatalog {}).answer Script.client contactInvocation
          (.start [.ok contactWithError])).1.isError = true := by
  decide +kernel

end ServiceCall

import ServiceCall.Proofs.Exchange
import ServiceCall.Proofs.Objects

/-!
# What becomes of an outcome

A request ends without a response, or with one whose body is blank, holds JSON or holds something
else, under a status of success or another. `Handling.Reports` says what is told of each of these,
and `execute_reports_outcome` that this is told of every outcome of every request, which is sent
once and as it is.

## Where the cases meet

A blank body under a status of success is no fault, any other body that is not JSON is one. The
cases are told apart by two tests of the body, for white space and for JSON, and no text passes both
(`Json.read?_of_isBlank`): a reader skips fewer characters than count as white space, and a value
begins with none of the others.
-/

namespace ServiceCall

open Http (Client Exchange Outcome Request Response TransportFailure recorded)

/-! ## Blank texts -/

theorem Text.isSpace_of_isDigit {c : Char} (h : c.isDigit = true) : isSpace c = false := by
  have hrange : 48 ≤ c.toNat ∧ c.toNat ≤ 57 := by
    simpa [Char.isDigit, UInt32.le_iff_toNat_le] using h
  simp only [isSpace, Bool.or_eq_false_iff, Bool.and_eq_false_iff, decide_eq_false_iff_not]
  omega

namespace Json

theorem exists_value_eq_error {cs : List Char} (h : ∀ c ∈ cs, Text.isSpace c = true) (depth : Nat) :
    ∃ fault, value depth cs = .error fault := by
  rw [value]
  cases hrest : skipGaps cs with
  | nil => exact ⟨_, rfl⟩
  | cons c rest =>
    have hmem : c ∈ skipGaps cs := hrest ▸ List.mem_cons_self
    have hspace : Text.isSpace c = true := h c ((List.dropWhile_suffix _).subset hmem)
    -- No value begins with white space, so what is left after the skipped part is at fault.
    have hne {d : Char} (hd : Text.isSpace d = false) : c ≠ d := by
      rintro rfl
      exact absurd hspace (Bool.eq_false_iff.1 hd)
    have hdigit : ¬ c.isDigit = true := fun hc ↦
      absurd hspace (Bool.eq_false_iff.1 (Text.isSpace_of_isDigit hc))
    refine ⟨.behindNext .valueExpected (c :: rest), ?_⟩
    dsimp only
    rw [if_neg (hne (by decide)), if_neg (hne (by decide)), if_neg (hne (by decide)),
      if_neg (hne (by decide)), if_neg hdigit, if_neg (hne (by decide)), if_neg (hne (by decide)),
      if_neg (hne (by decide))]

theorem read?_of_isBlank {text : String} (h : Text.isBlank text = true) : read? text = none := by
  obtain ⟨fault, hfault⟩ := exists_value_eq_error (Text.isBlank_iff.1 h) maxDepth
  rw [read?, read, hfault]
  rfl

end Json

/-! ## Envelopes of failures -/

/-- The envelope tells of a failure, in these words and with these particulars, and tells nothing
else. -/
structure Envelope.Tells (e : Envelope) (message : String) (status : Option UInt16)
    (details response : Option Json) : Prop where
  status_eq : e.status = status
  contentType_eq : e.contentType = none
  field?_error : e.output.field? "error" = some (.str message)
  field?_status_code : e.output.field? "status_code" = status.map Envelope.codeJson
  field?_details : e.output.field? "details" = details
  field?_response : e.output.field? "response" = response
  field?_other : ∀ key, key ∉ ["error", "status_code", "details", "response"] →
    e.output.field? key = none

theorem Envelope.tells_failure (message : String) (status : Option UInt16)
    (details response : Option Json) :
    (failure message status details response).Tells message status details response := by
  have hfield (key : String) : (failure message status details response).output.field? key
      = ([("error", some (.str message)), ("status_code", status.map codeJson),
          ("details", details), ("response", response)].lookup key).join := by
    rw [failure, ok, Json.field?_object_entries (by simp)]
  refine ⟨rfl, rfl, hfield _, ?_, ?_, ?_, fun key hkey ↦ ?_⟩
  · exact (hfield _).trans Option.join_some
  · exact (hfield _).trans Option.join_some
  · exact (hfield _).trans Option.join_some
  · rw [hfield, Table.lookup_eq_none_of_notMem hkey, Option.join_none]

/-! ## What is told -/

namespace Handling

/-- The message for the body of an error: the one that is found in it, else the string under the key
of messages, else a general one. -/
structure Says (h : Handling) (status : UInt16) (data : Json) (message : String) : Prop where
  of_parse : ∀ parse m, h.parse? = some parse → parse status data = some m → message = m
  of_key : (∀ parse, h.parse? = some parse → parse status data = none) →
    ∀ key m, h.key = some key → data.field? key = some (.str m) → message = m
  otherwise : (∀ parse, h.parse? = some parse → parse status data = none) →
    (∀ key m, h.key = some key → data.field? key ≠ some (.str m)) →
    message = h.service ++ " API error"

theorem says_message (h : Handling) (status : UInt16) (data : Json) :
    h.Says status data (h.message status data) where
  of_parse parse m hparse hm := by
    rw [message, hparse, Option.bind_some, hm, Option.some_or, Option.getD_some]
  of_key hparse key m hkey hm := by
    rw [message, Option.bind_eq_none_iff.2 hparse, Option.none_or, hkey, Option.bind_some, hm]
    rfl
  otherwise hparse hkey := by
    have hnone : (h.key.bind data.field?).bind Json.string? = none := by
      refine Option.bind_eq_none_iff.2 fun v hv ↦ ?_
      obtain ⟨key, hk, hfield⟩ := Option.bind_eq_some_iff.1 hv
      cases v with
      | str m => exact absurd hfield (hkey key m hk)
      | null | bool b | num n | arr items | obj fields => rfl
    rw [message, Option.bind_eq_none_iff.2 hparse, hnone]
    rfl

/-- What the envelope for an outcome has to tell. -/
structure Reports (h : Handling) (outcome : Outcome) (envelope : Envelope) : Prop where
  /-- No response was received. -/
  of_failure : ∀ failure : TransportFailure, outcome = .error failure →
    envelope.Tells h.requestError failure.status
      (if h.showsCause then some (.str failure.message) else none) none
  /-- Success without content. -/
  of_blank : ∀ r : Response, outcome = .ok r → r.isOk = true → Text.isBlank r.body = true →
    envelope = .ok .null (some r.status)
  /-- Any other body that is not JSON, whatever the status. -/
  of_unreadable : ∀ r : Response, outcome = .ok r →
    ¬ (r.isOk = true ∧ Text.isBlank r.body = true) → r.json? = none →
    envelope.Tells ("Invalid JSON response from " ++ h.service ++ " API") (some r.status)
      (some (.str r.body)) none
  of_success : ∀ (r : Response) (data : Json), outcome = .ok r → r.isOk = true →
    r.json? = some data → envelope = .ok data (some r.status)
  of_error : ∀ (r : Response) (data : Json), outcome = .ok r → r.isOk = false →
    r.json? = some data →
    ∃ message, h.Says r.status data message ∧
      envelope.Tells message (some r.status) none (some data)
  status_eq : ∀ r : Response, outcome = .ok r → envelope.status = some r.status

theorem concludeResponse_of_blank {h : Handling} {r : Response} (hok : r.isOk = true)
    (hblank : Text.isBlank r.body = true) : h.concludeResponse r = .ok .null (some r.status) := by
  rw [concludeResponse, hok, hblank]
  rfl

theorem concludeResponse_of_json?_eq_none {h : Handling} {r : Response}
    (hblank : ¬ (r.isOk = true ∧ Text.isBlank r.body = true)) (hjson : r.json? = none) :
    h.concludeResponse r = .failure ("Invalid JSON response from " ++ h.service ++ " API")
      (some r.status) (some (.str r.body)) none := by
  rw [concludeResponse, if_neg (by simpa using hblank), hjson]

theorem concludeResponse_of_json?_eq_some {h : Handling} {r : Response} {data : Json}
    (hjson : r.json? = some data) :
    h.concludeResponse r = if r.isOk then .ok data (some r.status)
      else .failure (h.message r.status data) (some r.status) none (some data) := by
  have hblank : Text.isBlank r.body = false := by
    refine Bool.eq_false_iff.2 fun hb ↦ ?_
    rw [Response.json?, Json.read?_of_isBlank hb] at hjson
    cases hjson
  rw [concludeResponse, hblank, Bool.and_false, if_neg Bool.false_ne_true, hjson]

theorem status_concludeResponse (h : Handling) (r : Response) :
    (h.concludeResponse r).status = some r.status := by
  unfold concludeResponse
  split
  · rfl
  · split
    · rfl
    · split <;> rfl

theorem reports_conclude (h : Handling) (outcome : Outcome) :
    h.Reports outcome (h.conclude outcome) where
  of_failure failure houtcome := by
    rw [houtcome]
    exact Envelope.tells_failure ..
  of_blank r houtcome hok hblank := by
    rw [houtcome]
    exact concludeResponse_of_blank hok hblank
  of_unreadable r houtcome hblank hjson := by
    rw [houtcome, conclude, concludeResponse_of_json?_eq_none hblank hjson]
    exact Envelope.tells_failure ..
  of_success r data houtcome hok hjson := by
    rw [houtcome, conclude, concludeResponse_of_json?_eq_some hjson, if_pos hok]
  of_error r data houtcome hok hjson := by
    rw [houtcome, conclude, concludeResponse_of_json?_eq_some hjson, hok]
    exact ⟨_, h.says_message r.status data, Envelope.tells_failure ..⟩
  status_eq r houtcome := by
    rw [houtcome]
    exact h.status_concludeResponse r

end Handling

/-- **Every outcome is reported, and nothing of it is lost.** The request is sent once, as it is,
and the envelope tells of its outcome what has to be told. -/
theorem execute_reports_outcome (h : Handling) {σ : Type} (client : Client σ) (request : Request)
    (s : σ) (log : List Exchange) :
    ∃ outcome after envelope, client request s = (outcome, after) ∧
      h.execute client request s = (envelope, after) ∧
      h.execute (recorded client) request (s, log)
        = (envelope, after, log ++ [⟨request, outcome⟩]) ∧
      h.Reports outcome envelope := by
  rcases hsent : client request s with ⟨outcome, after⟩
  refine ⟨outcome, after, h.conclude outcome, rfl, ?_, ?_, h.reports_conclude outcome⟩
  · rw [Handling.execute_eq, hsent]
  · rw [Handling.execute_eq, recorded, hsent]

end ServiceCall

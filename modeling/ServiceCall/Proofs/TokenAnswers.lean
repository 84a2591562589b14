import ServiceCall.Proofs.Assertions
import ServiceCall.Proofs.Tokens
import ServiceCall.Proofs.WellFormed

/-!
# What answers of token endpoints come to

An answer is read as a record of three texts, each of which may be left out or null
(`ServiceAccount.Token.Tells`). What is read this way grants a token or tells a reason, and other
fields do not matter. Whatever cannot be read this way is reported as a body that is not JSON. That
is right where the body is not well formed; but the same is reported of an error that is told as an
object, and of any other JSON value (`token_answer_comes_to`).
-/

namespace ServiceCall

open Http (Client Response)
open Json (outline? isWellFormed)

namespace ServiceAccount.Token

def names : List String := shape.fields.map (·.name)

/-- No name of an answer is repeated, and none stands with something else than a text or null. -/
def IsUnspoilt (entries : List (String × Option Json)) : Prop :=
  ∀ name ∈ names, (entries.map Prod.fst).count name ≤ 1 ∧ (name, none) ∉ entries

instance (entries : List (String × Option Json)) : Decidable (IsUnspoilt entries) :=
  inferInstanceAs (Decidable (∀ name ∈ names, _ ∧ _))

/-- The text under a name, if there is one. -/
def textUnder (entries : List (String × Option Json)) (name : String) : Option String :=
  (entries.lookup name).join.bind Json.string?

/-- What the body of an answer tells: the token, the error and its description. An object may have
any further fields; a list holds these three in order and nothing else. -/
inductive Tells (body : String) : Option String → Option String → Option String → Prop
  | object {entries} : outline? body = some entries → IsUnspoilt entries →
    Tells body (textUnder entries "access_token") (textUnder entries "error")
      (textUnder entries "error_description")
  | list {token error description : Json} :
    Json.read body = .ok (.arr [token, error, description]) →
    (∀ v ∈ [token, error, description], v = .null ∨ ∃ s, v = .str s) →
    Tells body token.string? error.string? description.string?

theorem isTextual_of_mem_fields : ∀ f ∈ shape.fields, f.slot.IsTextual := by
  intro f hf
  simp only [shape, List.map_cons, List.map_nil, List.mem_cons, List.not_mem_nil, or_false] at hf
  rcases hf with rfl | rfl | rfl <;> exact .inr rfl

/-- The fields take texts and null. -/
theorem takes_iff {v : Json} :
    Json.Slot.optionalText.takes v = true ↔ v = .null ∨ ∃ s, v = .str s := by
  cases v <;> simp [Json.Slot.takes]

theorem string?_or_null (held : Option Json) :
    (held.getD .null).string? = held.bind Json.string? := by
  cases held <;> rfl

/-- What an object tells is what stands under the three names. -/
theorem values_of_entries (entries : List (String × Option Json)) :
    (shape.fields.mapM fun f ↦ (entries.lookup f.name).join.or f.inObject)
      = some (names.map fun name ↦ (entries.lookup name).join.getD .null) := by
  have hor : ∀ held : Option Json, held.or (some .null) = some (held.getD .null) := by
    intro held
    cases held <;> rfl
  simp [shape, names, hor]

theorem inList_of_mem_fields : ∀ f ∈ shape.fields, f.inList = none := by decide

theorem accepts_iff_isUnspoilt {body : String} {entries : List (String × Option Json)}
    (houtline : outline? body = some entries) :
    Json.Shape.Accepts shape.fields entries ↔ IsUnspoilt entries :=
  Json.Shape.accepts_iff_of_outline? (by decide) houtline

/-- What is read of an object. -/
theorem read?_of_outline? {body : String} {entries : List (String × Option Json)}
    (houtline : outline? body = some entries) :
    (IsUnspoilt entries → read? body = some (textUnder entries "access_token",
      textUnder entries "error", textUnder entries "error_description")) ∧
    (¬ IsUnspoilt entries → read? body = none) := by
  constructor
  · intro h
    have haccepts := (accepts_iff_isUnspoilt houtline).2 h
    have hread := Json.Shape.toOption_read_of_accepts isTextual_of_mem_fields houtline haccepts
    rw [values_of_entries, Json.toOption_eq_some_iff] at hread
    rw [read?, hread]
    simp only [names, shape, List.map_cons, List.map_nil, string?_or_null]
    rfl
  · intro h
    have hread := Json.Shape.toOption_read_of_not_accepts isTextual_of_mem_fields houtline
      fun haccepts ↦ h ((accepts_iff_isUnspoilt houtline).1 haccepts)
    obtain ⟨fault, hfault⟩ := Json.exists_eq_error_of_toOption hread
    rw [read?, hfault]

variable {body : String} {token error description : Option String}

theorem read?_eq_some_iff :
    read? body = some (token, error, description) ↔ ∃ v w x, shape.read body = .ok [v, w, x] ∧
      token = v.string? ∧ error = w.string? ∧ description = x.string? := by
  rw [read?]
  constructor
  · intro h
    split at h
    · rename_i v w x hshape
      cases h
      exact ⟨v, w, x, hshape, rfl, rfl, rfl⟩
    · cases h
  · rintro ⟨v, w, x, hshape, rfl, rfl, rfl⟩
    rw [hshape]

/-- What is read of an answer is what it tells. -/
theorem read?_eq_some_iff_tells :
    read? body = some (token, error, description) ↔ Tells body token error description := by
  constructor
  · intro h
    obtain ⟨v, w, x, hshape, rfl, rfl, rfl⟩ := read?_eq_some_iff.1 h
    -- A record is a list or an object.
    obtain ⟨cs, hcs | hcs⟩ := Json.Shape.exists_bracket_of_read hshape
    · obtain ⟨hread, htakes⟩ := (Json.Shape.read_eq_ok_iff_of_bracket isTextual_of_mem_fields
        inList_of_mem_fields hcs _).1 hshape
      refine .list hread ?_
      simpa [shape, takes_iff] using htakes
    · have hrecord := shape.toOption_read isTextual_of_mem_fields hcs
      rw [hshape] at hrecord
      obtain ⟨entries, houtline, -⟩ := Option.bind_eq_some_iff.1 hrecord.symm
      by_cases hunspoilt : IsUnspoilt entries
      · have hread := (read?_of_outline? houtline).1 hunspoilt
        obtain ⟨hfirst, hsecond, hthird⟩ : v.string? = _ ∧ w.string? = _ ∧ x.string? = _ := by
          simpa using h.symm.trans hread
        rw [hfirst, hsecond, hthird]
        exact .object houtline hunspoilt
      · rw [(read?_of_outline? houtline).2 hunspoilt] at h
        cases h
  · intro h
    induction h with
    | object houtline hunspoilt => exact (read?_of_outline? houtline).1 hunspoilt
    | list hread htakes =>
      obtain ⟨cs, hcs⟩ := Json.exists_bracket_of_read_arr hread
      refine read?_eq_some_iff.2 ⟨_, _, _, ?_, rfl, rfl, rfl⟩
      refine (Json.Shape.read_eq_ok_iff_of_bracket isTextual_of_mem_fields
        inList_of_mem_fields hcs _).2 ⟨hread, ?_⟩
      simpa [shape, takes_iff] using htakes

/-! ## What answers come to -/

/-- The reason for an answer that could not be read. -/
def unread (status : UInt16) : String :=
  "token endpoint returned non-JSON body (" ++ statusText status ++ ")"

variable {r : Response}

theorem ofResponse_of_tells (h : Tells r.body token error description) :
    (∀ t, token = some t → t ≠ "" → r.isOk = true → ofResponse r = .ok t) ∧
    (token.getD "" = "" ∨ r.isOk = false →
      ofResponse r = .error (.exchange ((description.or error).getD (statusText r.status)))) := by
  have hread := read?_eq_some_iff_tells.2 h
  rw [ofResponse, hread]
  dsimp only
  -- The token is kept only if it is not empty and the status is one of success.
  constructor
  · rintro t rfl hne hok
    rw [Option.filter_some, hok, decide_eq_true hne]
    rfl
  · intro hno
    have hfilter : (token.filter fun t ↦ r.isOk && decide (t ≠ "")) = none := by
      rw [Option.filter_eq_none_iff]
      rintro t rfl
      rcases hno with hempty | hstatus
      · simp [show t = "" from hempty]
      · simp [hstatus]
    rw [hfilter]

theorem ofResponse_of_not_tells
    (h : ∀ token error description, ¬ Tells r.body token error description) :
    ofResponse r = .error (.exchange (unread r.status)) := by
  have hread : read? r.body = none := by
    rw [Option.eq_none_iff_forall_ne_some]
    rintro ⟨token, error, description⟩ hread
    exact h _ _ _ (read?_eq_some_iff_tells.1 hread)
  rw [ofResponse, hread]
  rfl

/-- What is not well formed tells nothing. -/
theorem Tells.isWellFormed (h : Tells body token error description) : isWellFormed body = true := by
  obtain ⟨_, _, _, hshape, -⟩ := read?_eq_some_iff.1 (read?_eq_some_iff_tells.2 h)
  exact Json.Shape.isWellFormed_of_read hshape

/-- An object tells something unless one of the three names is spoilt. -/
theorem exists_tells_iff {entries : List (String × Option Json)}
    (houtline : outline? body = some entries) :
    (∃ token error description, Tells body token error description) ↔ IsUnspoilt entries := by
  constructor
  · rintro ⟨token, error, description, h⟩
    by_contra hspoilt
    have hread := read?_eq_some_iff_tells.2 h
    rw [(read?_of_outline? houtline).2 hspoilt] at hread
    cases hread
  · intro h
    exact ⟨_, _, _, .object houtline h⟩

end ServiceAccount.Token

open ServiceAccount

/-- **What an answer comes to.** Let the key be read and the assertion be signed, and let the token
endpoint answer with any status and any body.

If the body tells a token, an error and a description, each of which may be missing, then a token
that is not empty is granted under a status of success. In every other case the reason is the
description, or else the error, or else the status. If the body tells nothing of the kind, it is
reported not to be JSON. So it is for every body that is not well formed, but also for an object in
which one of the three names is repeated or holds anything but a text or null. -/
theorem token_answer_comes_to {keyText : String} {scopes : List String} {subject : Option String}
    {now : Int} {key : Key} {assertion : String}
    (hprepare : Token.prepare keyText scopes subject now = .ok (key, assertion)) {σ : Type}
    {client : Client σ} {timeout : Nat} {s : σ} {r : Response}
    (hanswer : (client (Token.request key.tokenUri assertion timeout) s).1 = .ok r) :
    ∃ fetched, (Token.fetch client keyText scopes subject timeout now s).1 = fetched ∧
      (∀ token error description, Token.Tells r.body token error description →
        (∀ t, token = some t → t ≠ "" → r.isOk = true → fetched = .ok t) ∧
        (token.getD "" = "" ∨ r.isOk = false → fetched
          = .error (.exchange ((description.or error).getD (Token.statusText r.status))))) ∧
      ((∀ token error description, ¬ Token.Tells r.body token error description) →
        fetched = .error (.exchange (Token.unread r.status))) ∧
      (isWellFormed r.body = false → fetched = .error (.exchange (Token.unread r.status))) ∧
      (∀ entries, outline? r.body = some entries → ¬ Token.IsUnspoilt entries →
        fetched = .error (.exchange (Token.unread r.status))) := by
  have hfetched : (Token.fetch client keyText scopes subject timeout now s).1
      = Token.ofResponse r := by
    rw [Token.fetch_of_prepared hprepare]
    exact congrArg Token.ofOutcome hanswer
  refine ⟨_, hfetched, fun _ _ _ ↦ Token.ofResponse_of_tells, Token.ofResponse_of_not_tells, ?_, ?_⟩
  · intro hill
    refine Token.ofResponse_of_not_tells fun _ _ _ htells ↦ ?_
    exact Bool.false_ne_true (hill.symm.trans htells.isWellFormed)
  · intro entries houtline hspoilt
    refine Token.ofResponse_of_not_tells fun _ _ _ htells ↦ ?_
    exact hspoilt ((Token.exists_tells_iff houtline).1 ⟨_, _, _, htells⟩)

/-- An answer with a token, a field that is not known and a description that is null. -/
def grantingAnswer : Response :=
  ⟨200, "\x7b\"access_token\": \"ya29.t\", \"expires_in\": 3599, \"error_description\": null\x7d"⟩

theorem account_is_granted_token :
    ∃ assertion, Token.prepare prothAccount.written ["s"] none 1767225600
        = .ok (prothAccount, assertion) ∧
      (Http.Script.client (Token.request prothAccount.tokenUri assertion 30)
        ⟨[.ok grantingAnswer], [], 0⟩).1 = .ok grantingAnswer ∧
      (Token.fetch Http.Script.client prothAccount.written ["s"] none 30 1767225600
        ⟨[.ok grantingAnswer], [], 0⟩).1 = .ok "ya29.t" := by
  obtain ⟨assertion, hassertion⟩ := exists_make_prothAccount ["s"] none 1767225600
  have hprepare := Token.prepare_eq_ok_iff.2 ⟨read_prothAccount, hassertion⟩
  have hanswer : (Http.Script.client (Token.request prothAccount.tokenUri assertion 30)
      ⟨[.ok grantingAnswer], [], 0⟩).1 = .ok grantingAnswer := rfl
  have houtline : outline? grantingAnswer.body = some [("access_token", some (.str "ya29.t")),
      ("expires_in", none), ("error_description", some .null)] := by decide +kernel
  obtain ⟨fetched, hfetched, htold, -⟩ := token_answer_comes_to hprepare hanswer
  obtain ⟨hgranted, -⟩ := htold _ _ _ (.object houtline (by decide))
  refine ⟨assertion, hprepare, hanswer, ?_⟩
  rw [hfetched]
  exact hgranted "ya29.t" rfl (by decide) rfl

/-- An error that is told as an object, as other endpoints of the same service tell it. -/
def deniedAnswer : Response :=
  ⟨403, "\x7b\"error\": \x7b\"code\": 403, \"message\": \"Access denied\"\x7d\x7d"⟩

/-- The body is an object, and is reported not to be JSON. -/
theorem denial_is_reported_as_no_json :
    (∃ assertion, Token.prepare prothAccount.written ["s"] none 1767225600
        = .ok (prothAccount, assertion)) ∧
      isWellFormed deniedAnswer.body = true ∧
      ((Json.read? deniedAnswer.body).bind Json.fields?).isSome = true ∧
      (Token.fetch Http.Script.client prothAccount.written ["s"] none 30 1767225600
          ⟨[.ok deniedAnswer], [], 0⟩).1
        = .error (.exchange "token endpoint returned non-JSON body (HTTP 403)") := by
  obtain ⟨assertion, hassertion⟩ := exists_make_prothAccount ["s"] none 1767225600
  have hprepare := Token.prepare_eq_ok_iff.2 ⟨read_prothAccount, hassertion⟩
  refine ⟨⟨assertion, hprepare⟩, by decide +kernel, by decide +kernel, ?_⟩
  rw [Token.fetch_of_prepared hprepare]
  change Token.ofResponse deniedAnswer = _
  decide +kernel

end ServiceCall

import ServiceCall.Catalog
import ServiceCall.Proofs.Outcomes

/-!
# Where messages are found

The body of an error holds its message at one of a few places, and a service looks for it at the
places that are its own. What it looks at is written down as data (`Finder`), and what it finds is
described for all of them at once.

## Covered places

A string is found wherever it is, with one exception for each service. Two of the places are taken
for one value under alternative keys: if anything is at the first of them, be it null, the other is
not looked at, and a string there is missed. The other places are tried one after the other, and
what is no string is passed over there. So a message is missed just if all that there is stands at
the place that is covered (`Finder.Misses`, `message_found_unless_covered`).
-/

namespace ServiceCall

open Http (Response)

/-! ## Places -/

namespace Json

/-- The value to which a path of keys leads. -/
def at? : Json → List String → Option Json
  | v, [] => some v
  | v, key :: path => (v.field? key).bind fun w ↦ w.at? path

def textAt? (v : Json) (place : List String) : Option String := (v.at? place).bind string?

theorem at?_singleton (v : Json) (key : String) : v.at? [key] = v.field? key := by
  rw [at?]
  cases v.field? key with
  | none => rfl
  | some w => rfl

theorem at?_cons_of_field? {v w : Json} {key : String} (h : v.field? key = some w)
    (path : List String) : v.at? (key :: path) = w.at? path := by
  rw [at?, h, Option.bind_some]

theorem at?_cons_of_field?_eq_none {v : Json} {key : String} (h : v.field? key = none)
    (path : List String) : v.at? (key :: path) = none := by
  rw [at?, h, Option.bind_none]

end Json

/-! ## Readers of one place or two -/

namespace ErrorBody

variable {data : Json} {key key' m : String}

theorem text?_eq_textAt? (data : Json) (key : String) : text? data key = data.textAt? [key] := by
  rw [text?, Json.textAt?, Json.at?_singleton]

theorem textAtFirst?_eq_none_iff :
    textAtFirst? data key key' = none ↔
      data.textAt? [key] = none ∧ (data.at? [key] = none → data.textAt? [key'] = none) := by
  rw [textAtFirst?, Json.textAt?, Json.textAt?, Json.at?_singleton, Json.at?_singleton]
  cases data.field? key with
  | none => simp
  | some v => simp

theorem textAt?_of_textAtFirst? (h : textAtFirst? data key key' = some m) :
    data.textAt? [key] = some m ∨ data.textAt? [key'] = some m := by
  rw [Json.textAt?, Json.textAt?, Json.at?_singleton, Json.at?_singleton]
  rw [textAtFirst?] at h
  cases hfirst : data.field? key with
  | none =>
    rw [hfirst, Option.none_or] at h
    exact .inr h
  | some v =>
    rw [hfirst, Option.some_or] at h
    exact .inl h

theorem errorText?_eq_none_iff :
    errorText? key key' data = none ↔
      data.textAt? ["error"] = none ∧ data.textAt? ["error", key] = none ∧
        (data.at? ["error", key] = none → data.textAt? ["error", key'] = none) := by
  rw [errorText?, Json.textAt?, Json.textAt?, Json.textAt?]
  cases herror : data.field? "error" with
  | none => simp [Json.at?_cons_of_field?_eq_none herror]
  | some v =>
    simp only [Json.at?_cons_of_field? herror]
    cases v with
    | str s => simp [Json.at?, Json.string?]
    | obj fields =>
      have hself : ((Json.obj fields).at? []).bind Json.string? = none := rfl
      simp only [hself, true_and]
      exact textAtFirst?_eq_none_iff
    | null | bool b | num n | arr items => simp [Json.at?, Json.field?, Json.string?]

theorem textAt?_of_errorText? (h : errorText? key key' data = some m) :
    data.textAt? ["error"] = some m ∨ data.textAt? ["error", key] = some m ∨
      data.textAt? ["error", key'] = some m := by
  rw [errorText?] at h
  rw [Json.textAt?, Json.textAt?, Json.textAt?]
  cases herror : data.field? "error" with
  | none =>
    rw [herror] at h
    cases h
  | some v =>
    rw [herror] at h
    simp only [Json.at?_cons_of_field? herror]
    cases v with
    | str s => exact .inl h
    | obj fields => exact .inr (textAt?_of_textAtFirst? h)
    | null | bool b | num n | arr items => cases h

end ErrorBody

/-! ## Finders -/

/-- A way to find a message, with the places that are looked at. -/
structure Finder where
  parse : UInt16 → Json → Option String
  /-- The places at which no string is missed. -/
  seen : List (List String)
  /-- The place that is looked at only if nothing is at another one. -/
  covered : List String
  /-- That other place. -/
  cover : List String
  /-- The message that is made of values other than strings. -/
  composed : Json → Option String

namespace Finder

variable {f : Finder} {status : UInt16} {data : Json}

def places (f : Finder) : List (List String) := f.seen ++ [f.covered]

/-- What is found, and what is not, depends on the places as the finder says. -/
structure IsExact (f : Finder) : Prop where
  eq_none_iff : ∀ status data, f.parse status data = none ↔
    f.composed data = none ∧ (∀ place ∈ f.seen, data.textAt? place = none) ∧
      (data.at? f.cover = none → data.textAt? f.covered = none)
  of_eq_some : ∀ status data m, f.parse status data = some m →
    f.composed data = some m ∨ ∃ place ∈ f.places, data.textAt? place = some m

/-- The only message is a string at the covered place, and something that is no string covers
it. -/
structure Misses (f : Finder) (data : Json) : Prop where
  composed : f.composed data = none
  seen : ∀ place ∈ f.seen, data.textAt? place = none
  covered : ∃ m, data.textAt? f.covered = some m
  cover : ∃ v, data.at? f.cover = some v

theorem IsExact.eq_none_iff_misses (hf : f.IsExact)
    (hsome : ∃ place ∈ f.places, ∃ m, data.textAt? place = some m) :
    f.parse status data = none ↔ f.Misses data := by
  rw [hf.eq_none_iff]
  constructor
  · rintro ⟨hcomposed, hseen, hcovered⟩
    have hm : ∃ m, data.textAt? f.covered = some m := by
      obtain ⟨place, hplace, m, hm⟩ := hsome
      rcases List.mem_append.1 hplace with hplace | hplace
      · rw [hseen place hplace] at hm
        cases hm
      · rw [List.mem_singleton.1 hplace] at hm
        exact ⟨m, hm⟩
    refine ⟨hcomposed, hseen, hm, Option.ne_none_iff_exists'.1 fun hnone ↦ ?_⟩
    obtain ⟨m, hm⟩ := hm
    rw [hcovered hnone] at hm
    cases hm
  · intro h
    refine ⟨h.composed, h.seen, fun hnone ↦ ?_⟩
    obtain ⟨v, hv⟩ := h.cover
    rw [hnone] at hv
    cases hv

end Finder

namespace Catalog

/-- Finds messages inside of errors. -/
def nestedFinder : Finder where
  parse := ErrorBody.nested?
  seen := [["error"], ["error", "message"]]
  covered := ["error", "msg"]
  cover := ["error", "message"]
  composed _ := none

theorem isExact_nestedFinder : nestedFinder.IsExact where
  eq_none_iff status data := by
    simp only [nestedFinder, ErrorBody.nested?, ErrorBody.errorText?_eq_none_iff,
      List.forall_mem_cons, List.not_mem_nil, false_implies, implies_true, and_true, true_and,
      and_assoc]
  of_eq_some status data m h := by
    refine .inr ?_
    rcases ErrorBody.textAt?_of_errorText? h with h | h | h
    · exact ⟨["error"], by decide, h⟩
    · exact ⟨["error", "message"], by decide, h⟩
    · exact ⟨["error", "msg"], by decide, h⟩

def zendeskFinder : Finder where
  parse := Zendesk.errorText?
  seen := [["description"], ["error"], ["error", "message"]]
  covered := ["error", "title"]
  cover := ["error", "message"]
  composed _ := none

theorem isExact_zendeskFinder : zendeskFinder.IsExact where
  eq_none_iff status data := by
    simp only [zendeskFinder, Zendesk.errorText?, Option.or_eq_none_iff,
      ErrorBody.text?_eq_textAt?, ErrorBody.errorText?_eq_none_iff, List.forall_mem_cons,
      List.not_mem_nil, false_implies, implies_true, and_true, true_and, and_assoc]
  of_eq_some status data m h := by
    refine .inr ?_
    rcases Option.or_eq_some_iff.1 h with h | ⟨-, h⟩
    · rw [ErrorBody.text?_eq_textAt?] at h
      exact ⟨["description"], by decide, h⟩
    · rcases ErrorBody.textAt?_of_errorText? h with h | h | h
      · exact ⟨["error"], by decide, h⟩
      · exact ⟨["error", "message"], by decide, h⟩
      · exact ⟨["error", "title"], by decide, h⟩

def gorgiasFinder : Finder where
  parse := Gorgias.errorText?
  seen := [["error"], ["error", "message"], ["message"]]
  covered := ["error", "msg"]
  cover := ["error", "message"]
  composed _ := none

theorem isExact_gorgiasFinder : gorgiasFinder.IsExact where
  eq_none_iff status data := by
    simp only [gorgiasFinder, Gorgias.errorText?, ErrorBody.nested?, Option.or_eq_none_iff,
      ErrorBody.text?_eq_textAt?, ErrorBody.errorText?_eq_none_iff, List.forall_mem_cons,
      List.not_mem_nil, false_implies, implies_true, and_true, true_and]
    constructor
    · rintro ⟨⟨herror, hmessage, hmsg⟩, hself⟩
      exact ⟨⟨herror, hmessage, hself⟩, hmsg⟩
    · rintro ⟨⟨herror, hmessage, hself⟩, hmsg⟩
      exact ⟨⟨herror, hmessage, hmsg⟩, hself⟩
  of_eq_some status data m h := by
    refine .inr ?_
    rcases Option.or_eq_some_iff.1 h with h | ⟨-, h⟩
    · rcases ErrorBody.textAt?_of_errorText? h with h | h | h
      · exact ⟨["error"], by decide, h⟩
      · exact ⟨["error", "message"], by decide, h⟩
      · exact ⟨["error", "msg"], by decide, h⟩
    · rw [ErrorBody.text?_eq_textAt?] at h
      exact ⟨["message"], by decide, h⟩

/-- A message may be made of faults by field or of a list. -/
def gitLabFinder : Finder where
  parse := GitLab.errorText?
  seen := [["message"], ["error_description"]]
  covered := ["error"]
  cover := ["error_description"]
  composed data := (data.field? "message").bind GitLab.messageText?

theorem textAt?_message_of_composed {data : Json} (h : gitLabFinder.composed data = none) :
    data.textAt? ["message"] = none := by
  change (data.field? "message").bind GitLab.messageText? = none at h
  rw [Json.textAt?, Json.at?_singleton]
  cases hmessage : data.field? "message" with
  | none => rfl
  | some v =>
    rw [hmessage, Option.bind_some] at h
    cases v with
    | str s => cases h
    | null | bool b | num n | arr items | obj fields => rfl

theorem isExact_gitLabFinder : gitLabFinder.IsExact where
  eq_none_iff status data := by
    have hmessage : gitLabFinder.composed data = none → data.textAt? ["message"] = none :=
      textAt?_message_of_composed
    simp only [gitLabFinder, GitLab.errorText?, Option.or_eq_none_iff,
      ErrorBody.textAtFirst?_eq_none_iff, List.forall_mem_cons, List.not_mem_nil, false_implies,
      implies_true, and_true] at hmessage ⊢
    constructor
    · rintro ⟨hcomposed, hdescription, herror⟩
      exact ⟨hcomposed, ⟨hmessage hcomposed, hdescription⟩, herror⟩
    · rintro ⟨hcomposed, ⟨-, hdescription⟩, herror⟩
      exact ⟨hcomposed, hdescription, herror⟩
  of_eq_some status data m h := by
    rcases Option.or_eq_some_iff.1 h with h | ⟨-, h⟩
    · exact .inl h
    · refine .inr ?_
      rcases ErrorBody.textAt?_of_textAtFirst? h with h | h
      · exact ⟨["error_description"], by decide, h⟩
      · exact ⟨["error"], by decide, h⟩

def finders : List Finder := [zendeskFinder, gitLabFinder, gorgiasFinder, nestedFinder]

theorem isExact_of_mem_finders {f : Finder} (hf : f ∈ finders) : f.IsExact := by
  simp only [finders, List.mem_cons, List.not_mem_nil, or_false] at hf
  rcases hf with rfl | rfl | rfl | rfl
  · exact isExact_zendeskFinder
  · exact isExact_gitLabFinder
  · exact isExact_gorgiasFinder
  · exact isExact_nestedFinder

/-- A service that looks for messages does so in one way only. -/
theorem key_eq_none_of_parse? : ∀ c ∈ all, c.handling.service = c.service ∧
    (c.handling.parse?.isSome = true → c.handling.key = none) := by
  decide +kernel

theorem errorMessage?_concludeResponse {c : Connector} (hc : c ∈ all)
    {parse : UInt16 → Json → Option String} (hparse : c.handling.parse? = some parse)
    {r : Response} {data : Json} (hok : r.isOk = false) (hjson : r.json? = some data) :
    (c.handling.concludeResponse r).errorMessage?
      = some ((parse r.status data).getD (c.service ++ " API error")) := by
  obtain ⟨hservice, hkey⟩ := key_eq_none_of_parse? c hc
  rw [hparse] at hkey
  rw [Handling.concludeResponse_of_json?_eq_some hjson, hok, if_neg Bool.false_ne_true,
    Envelope.errorMessage?_failure, Handling.message, hparse, hkey rfl, hservice,
    Option.bind_some, Option.bind_none, Option.bind_none, Option.or_none]

end Catalog

/-- **A message is found unless it is covered.** If a string is at one of the places that a finder
looks at, then a message is found just if it is not true that the string is at the covered place
only, something else covers it, and nothing can be made of the other values. What is found is a
string at one of the places, or is made of other values. An error under a status without success is
reported in the words that are found, and if none are found in general ones. -/
theorem message_found_unless_covered {f : Finder} (hf : f ∈ Catalog.finders) (status : UInt16)
    (data : Json) :
    ((∃ place ∈ f.places, ∃ m, data.textAt? place = some m) →
      ((∃ m, f.parse status data = some m) ↔ ¬ f.Misses data)) ∧
    (∀ m, f.parse status data = some m →
      f.composed data = some m ∨ ∃ place ∈ f.places, data.textAt? place = some m) ∧
    ∀ c ∈ Catalog.all, c.handling.parse? = some f.parse → ∀ r : Response, r.status = status →
      r.isOk = false → r.json? = some data →
      (c.handling.concludeResponse r).errorMessage?
        = some ((f.parse status data).getD (c.service ++ " API error")) := by
  have hexact := Catalog.isExact_of_mem_finders hf
  refine ⟨fun hsome ↦ ?_, hexact.of_eq_some status data, ?_⟩
  · rw [← Option.ne_none_iff_exists', ne_eq, hexact.eq_none_iff_misses hsome]
  · rintro c hc hparse r rfl hok hjson
    exact Catalog.errorMessage?_concludeResponse hc hparse hok hjson

/-- An error whose message is null and whose title is not. -/
def titledError : Json := .obj [("error", .obj [("message", .null), ("title", .str "Not found")])]

theorem title_beside_null_message_is_missed :
    Catalog.zendeskFinder ∈ Catalog.finders ∧
      titledError.textAt? ["error", "title"] = some "Not found" ∧
      ¬ ∃ m, Catalog.zendeskFinder.parse 404 titledError = some m := by
  have hf : Catalog.zendeskFinder ∈ Catalog.finders := .head _
  have hmisses : Catalog.zendeskFinder.Misses titledError :=
    ⟨rfl, by decide, ⟨"Not found", rfl⟩, ⟨.null, rfl⟩⟩
  have htitle : ["error", "title"] ∈ Catalog.zendeskFinder.places := by decide
  refine ⟨hf, rfl, fun hfound ↦ ?_⟩
  exact ((message_found_unless_covered hf 404 titledError).1
    ⟨_, htitle, "Not found", rfl⟩).1 hfound hmisses

/-- A description that is null hides the error beside it, and the envelope has general words. -/
theorem error_beside_null_description_is_missed :
    (Json.obj [("error_description", .null), ("error", .str "invalid_token")]).textAt? ["error"]
        = some "invalid_token" ∧
      Catalog.gitLabFinder.parse 400
        (.obj [("error_description", .null), ("error", .str "invalid_token")]) = none ∧
      (Catalog.GitLab.connector.handling.concludeResponse
          ⟨400, "\x7b\"error_description\":null,\"error\":\"invalid_token\"\x7d"⟩).errorMessage?
        = some "GitLab API error" := by
  refine ⟨rfl, rfl, by decide +kernel⟩

end ServiceCall

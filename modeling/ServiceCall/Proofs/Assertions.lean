import ServiceCall.Proofs.Base64
import ServiceCall.Proofs.Exchange
import ServiceCall.Proofs.KeyFiles
import ServiceCall.Proofs.Records
import ServiceCall.Proofs.Splitting

/-!
# What a request for a token says

A token is asked for with one request, and the assertion in it can be taken apart again
(`token_request_is_consistent`): its parts are told apart by their dots, since no encoded part has
one, and the part in the middle decodes to the claims (`ServiceAccount.Assertion.said?_jsonPart`).
The audience that is claimed there is the address to which the request goes.

The clock tells moments of the years -262144 to 262143 and no others, so the end of an assertion is
far from the largest number of seconds.
-/

namespace ServiceCall

open Encoding (Base64 ofUtf8? utf8)
open Http (Client Traced recorded)

namespace ServiceAccount

/-! ## Parts -/

namespace Assertion

/-- The value that an encoded part says. -/
def said? (part : List Char) : Option Json :=
  (Base64.urlSafe.decode? part).bind fun bytes ↦ (ofUtf8? bytes).bind Json.read?

theorem said?_jsonPart {fields : List (String × Json)}
    (h : ∀ e ∈ fields, e.2.fits (Json.maxDepth - 1) = true) :
    said? (jsonPart (.obj fields)).toList = some (Json.object fields) := by
  rw [jsonPart, part, String.toList_ofList, said?, Base64.decode?_encode, Option.bind_some,
    Encoding.ofUtf8?_utf8, Option.bind_some, Json.read?, Json.read_compact_obj h]
  rfl

theorem dot_notMem_part (bytes : Encoding.Bytes) : '.' ∉ (part bytes).toList := by
  rw [part, String.toList_ofList]
  exact Base64.notMem_encode (by decide) (by decide) bytes

theorem splitOn_joined {first second third : List Char} (hfirst : '.' ∉ first)
    (hsecond : '.' ∉ second) (hthird : '.' ∉ third) :
    (first ++ '.' :: (second ++ '.' :: third)).splitOn '.' = [first, second, third] := by
  have hne : ∀ {part : List Char}, '.' ∉ part → ∀ c ∈ part, (c == '.') = false := by
    intro part hpart c hc
    exact beq_false_of_ne fun h ↦ hpart (h ▸ hc)
  rw [List.splitOn, List.splitOnP_append_cons_of_forall_mem (hne hfirst) '.' rfl,
    List.splitOnP_append_cons_of_forall_mem (hne hsecond) '.' rfl,
    List.splitOnP_eq_singleton (hne hthird)]

variable {key : Key} {scopes : List String} {subject : Option String} {now : Int}

theorem make_eq_ok_iff {assertion : String} :
    make key scopes subject now = .ok assertion ↔ ∃ signature,
      Signature.sign key.privateKey (utf8 (message (.forKey key scopes subject now)))
        = .ok signature ∧
      assertion = message (.forKey key scopes subject now) ++ "." ++ part signature := by
  rw [make]
  cases Signature.sign key.privateKey (utf8 (message (.forKey key scopes subject now))) with
  | error fault =>
    constructor
    · intro h
      cases h
    · rintro ⟨_, h, -⟩
      cases h
  | ok signature =>
    constructor
    · intro h
      exact ⟨signature, rfl, (Except.ok.inj h).symm⟩
    · rintro ⟨_, ⟨⟩, rfl⟩
      rfl

/-- An assertion has three parts, and the one in the middle is made of the claims. -/
theorem splitOn_of_make {assertion : String}
    (h : make key scopes subject now = .ok assertion) : ∃ first last,
      assertion.toList.splitOn '.'
        = [first, (jsonPart (Claims.forKey key scopes subject now).toJson).toList, last] := by
  obtain ⟨signature, -, rfl⟩ := make_eq_ok_iff.1 h
  generalize Claims.forKey key scopes subject now = claims
  have hjoined : (message claims ++ "." ++ part signature).toList
      = (jsonPart header).toList ++ '.' :: ((jsonPart claims.toJson).toList ++ '.' ::
          (part signature).toList) := by
    simp [message, String.toList_append]
  have hsplit := splitOn_joined (dot_notMem_part (utf8 header.compact))
    (dot_notMem_part (utf8 claims.toJson.compact)) (dot_notMem_part signature)
  exact ⟨_, _, (congrArg _ hjoined).trans hsplit⟩

end Assertion

/-! ## Claims -/

namespace Claims

variable (c : Claims)

def fields : List (String × Json) :=
  [("iss", .str c.issuer), ("scope", .str c.scope), ("aud", .str c.audience),
    ("iat", .int c.issuedAt), ("exp", .int c.expires)] ++
      (c.subject.map fun s ↦ ("sub", .str s)).toList

theorem nodup_fields : (c.fields.map Prod.fst).Nodup := by
  have hkeys : c.fields.map Prod.fst
      = ["iss", "scope", "aud", "iat", "exp"] ++ (c.subject.map fun _ ↦ "sub").toList := by
    rw [fields]
    cases c.subject <;> rfl
  rw [hkeys]
  cases c.subject with
  | none => simp
  | some s => simp

theorem lookup_sub : c.fields.lookup "sub" = c.subject.map .str := by
  rw [fields]
  cases c.subject <;> rfl

/-- Claims are read back whose moments are words of 64 bits. -/
theorem said?_fields {c : Claims} (hiat : Json.isWord64 c.issuedAt = true)
    (hexp : Json.isWord64 c.expires = true) :
    Assertion.said? (Assertion.jsonPart c.toJson).toList = some (Json.object c.fields) := by
  have hfits : ∀ e ∈ c.fields, e.2.fits (Json.maxDepth - 1) = true := by
    intro e he
    rcases List.mem_append.1 he with he | he
    · simp only [List.mem_cons, List.not_mem_nil, or_false] at he
      rcases he with rfl | rfl | rfl | rfl | rfl
      · rfl
      · rfl
      · rfl
      · exact hiat
      · exact hexp
    · obtain ⟨s, -, rfl⟩ := Option.map_eq_some_iff.1 (Option.mem_toList.1 he)
      rfl
  exact Assertion.said?_jsonPart hfits

end Claims

/-! ## Keys read back -/

namespace Key

variable (key : Key)

def fields : List (String × Json) :=
  [("client_email", .str key.clientEmail), ("private_key", .str key.privateKey),
    ("token_uri", .str key.tokenUri), ("project_id", (key.projectId.map .str).getD .null)]

/-- The text in which a key is kept. -/
def written : String := (Json.obj key.fields).compact

theorem isBlank_written : Text.isBlank key.written = false := by
  rw [written, Json.compact, Text.isBlank, String.toList_ofList]
  rfl

theorem takes_fields : Json.Shape.Takes shape.fields key.fields := by
  refine List.forall_mem_cons.2 ⟨⟨_, rfl, rfl⟩, List.forall_mem_cons.2 ⟨⟨_, rfl, rfl⟩,
    List.forall_mem_cons.2 ⟨⟨_, rfl, rfl⟩, List.forall_mem_singleton.2 ⟨_, rfl, ?_⟩⟩⟩⟩
  cases key.projectId <;> rfl

/-- A key is read back from the text in which it is kept. -/
theorem read_written {key : Key} (hclient : Text.isBlank key.clientEmail = false)
    (hprivate : Text.isBlank key.privateKey = false) : read key.written = .ok key := by
  have hnodup : (key.fields.map Prod.fst).Nodup := by
    change ["client_email", "private_key", "token_uri", "project_id"].Nodup
    simp
  have hget := Table.get?_ofList hnodup
  have hshape : shape.read key.written = .ok (key.fields.map Prod.snd) := by
    rw [written, Json.compact]
    refine (Json.Layout.compact.shape_read key.takes_fields hnodup).trans ?_
    simp only [shape, Json.Shape.collect, hget]
    rfl
  rw [read, hshape]
  change (if (Text.isBlank key.clientEmail || Text.isBlank key.privateKey) = true then _ else _) = _
  rw [hclient, hprivate]
  refine congrArg Except.ok ?_
  obtain ⟨clientEmail, privateKey, tokenUri, projectId⟩ := key
  cases projectId <;> rfl

end Key

/-! ## Asking for a token -/

/-- A moment of the years -262144 to 262143, in seconds. -/
def IsTold (now : Int) : Prop := -8334632851200 ≤ now ∧ now ≤ 8210298412799

instance (now : Int) : Decidable (IsTold now) := inferInstanceAs (Decidable (_ ∧ _))

variable {σ : Type} {client : Client σ} {timeout : Nat} {s : σ} {keyText assertion : String}
  {scopes : List String} {subject : Option String} {now : Int} {key : Key}

theorem Token.fetch_of_prepared
    (hprepare : Token.prepare keyText scopes subject now = .ok (key, assertion)) :
    Token.fetch client keyText scopes subject timeout now
      = Token.ofOutcome <$> client (Token.request key.tokenUri assertion timeout) := by
  rw [Token.fetch, hprepare]

/-- One request is made, whatever comes of it. -/
theorem Token.fetch_traced
    (hprepare : Token.prepare keyText scopes subject now = .ok (key, assertion)) :
    Traced client (Token.fetch client keyText scopes subject timeout now)
      (Token.fetch (recorded client) keyText scopes subject timeout now) s
      [⟨Token.request key.tokenUri assertion timeout,
        (client (Token.request key.tokenUri assertion timeout) s).1⟩] := by
  rw [Token.fetch_of_prepared hprepare, Token.fetch_of_prepared hprepare]
  exact (Traced.call _).map _

end ServiceAccount

open ServiceAccount

/-- **The request for a token is consistent.** With every key that is read, for all scopes and with
a user to act for or without, at any time for which an assertion is made: one request is exchanged,
which posts the grant and the assertion to the address in the key. The assertion has three parts,
and the one in the middle says who asks, for which scopes, from when until when, and for whom if
there is one. The audience that it names is the address that is posted to. -/
theorem token_request_is_consistent {keyText : String} {key : Key} {scopes : List String}
    {subject : Option String} {now : Int} {assertion : String} (hkey : Key.read keyText = .ok key)
    (hassertion : Assertion.make key scopes subject now = .ok assertion) (hnow : IsTold now)
    {σ : Type} (client : Client σ) (timeout : Nat) (s : σ) :
    ∃ request : Http.Request,
      Traced client (Token.fetch client keyText scopes subject timeout now)
        (Token.fetch (recorded client) keyText scopes subject timeout now) s
        [⟨request, (client request s).1⟩] ∧
      request.method = .post ∧ request.url = key.tokenUri ∧
      request.content = .form [("grant_type", Token.grant), ("assertion", assertion)] ∧
      ∃ header claims signature said,
        assertion.toList.splitOn '.' = [header, claims, signature] ∧
        Assertion.said? claims = some (.obj said) ∧
        said.lookup "iss" = some (.str key.clientEmail) ∧
        said.lookup "scope" = some (.str (String.intercalate " " scopes)) ∧
        said.lookup "aud" = some (.str request.url) ∧
        said.lookup "iat" = some (.int now) ∧ said.lookup "exp" = some (.int (now + 3600)) ∧
        -(2 ^ 63) ≤ now ∧ now + 3600 < 2 ^ 63 ∧
        said.lookup "sub" = subject.map .str := by
  have hprepare := Token.prepare_eq_ok_iff.2 ⟨hkey, hassertion⟩
  obtain ⟨header, signature, hparts⟩ := Assertion.splitOn_of_make hassertion
  obtain ⟨hearliest, hlatest⟩ := hnow
  -- Both moments are far from the ends of the numbers that are read back.
  have hword : ∀ {i : Int}, -(2 ^ 63) ≤ i → i < 2 ^ 63 → Json.isWord64 i = true := by
    intro i hlow hhigh
    simp only [Json.isWord64, Bool.and_eq_true, decide_eq_true_eq]
    omega
  have hiat : Json.isWord64 now = true := hword (by omega) (by omega)
  have hexp : Json.isWord64 (now + 3600) = true := hword (by omega) (by omega)
  have hlookup := Table.get?_ofList (Claims.forKey key scopes subject now).nodup_fields
  refine ⟨_, Token.fetch_traced hprepare, rfl, rfl, rfl, header, _, signature, _, hparts,
    Claims.said?_fields hiat hexp, hlookup _, hlookup _, hlookup _, hlookup _, hlookup _, ?_, ?_,
    (hlookup _).trans (Claims.lookup_sub _)⟩
  · omega
  · omega

/-! ## An account -/

namespace ServiceAccount

/-- An account whose key can sign. -/
def prothAccount : Key where
  clientEmail := "bot@example-project.iam.gserviceaccount.com"
  privateKey := Signature.prothFile
  tokenUri := "https://oauth2.example.test/token"
  projectId := none

theorem read_prothAccount : Key.read prothAccount.written = .ok prothAccount :=
  Key.read_written (by decide +kernel) (Signature.Armor.isBlank_written _)

theorem exists_make_prothAccount (scopes : List String) (subject : Option String) (now : Int) :
    ∃ assertion, Assertion.make prothAccount scopes subject now = .ok assertion := by
  obtain ⟨signature, hsignature⟩ := Signature.exists_sign_prothFile
    (utf8 (Assertion.message (.forKey prothAccount scopes subject now)))
  exact ⟨_, Assertion.make_eq_ok_iff.2 ⟨signature, hsignature, rfl⟩⟩

end ServiceAccount

/-- In 2026 this account asks for a token in the name of a user. -/
theorem account_asks_for_user :
    ∃ assertion, Key.read prothAccount.written = .ok prothAccount ∧
      Assertion.make prothAccount ["s", "t"] (some "user@example.com") 1767225600
        = .ok assertion ∧
      IsTold 1767225600 ∧
      ∃ first claims last said,
        assertion.toList.splitOn '.' = [first, claims, last] ∧
        Assertion.said? claims = some (.obj said) ∧
        said.lookup "scope" = some (.str "s t") ∧
        said.lookup "aud" = some (.str "https://oauth2.example.test/token") ∧
        said.lookup "sub" = some (.str "user@example.com") := by
  obtain ⟨assertion, hassertion⟩ :=
    exists_make_prothAccount ["s", "t"] (some "user@example.com") 1767225600
  have hnow : IsTold 1767225600 := by decide
  obtain ⟨request, -, -, hurl, -, first, claims, last, said, hparts, hsaid, -, hscope, haudience,
    -, -, -, -, hsubject⟩ := token_request_is_consistent read_prothAccount hassertion hnow
      Http.Script.client 30 ⟨[], [], 0⟩
  refine ⟨assertion, read_prothAccount, hassertion, hnow, first, claims, last, said, hparts, hsaid,
    hscope, ?_, hsubject⟩
  rw [haudience, hurl]
  rfl

end ServiceCall

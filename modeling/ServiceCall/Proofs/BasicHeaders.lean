import Mathlib.Data.List.TakeWhile
import ServiceCall.Catalog
import ServiceCall.Proofs.Base64
import ServiceCall.Proofs.Secrecy

/-!
# What a basic header transports

A user name and a password are joined by a colon and encoded. Nothing is lost on the way: whoever
receives the header gets back the joined text, whatever characters it has. To take it apart the
receiver cuts at the first colon. A password may have colons, a user name may not, and the program
does not look: with a colon in the user name the receiver finds another pair, which another call may
well have (`basic_header_transports_pair_iff`).
-/

namespace ServiceCall

open Http (Client Exchange Traced recorded)

/-! ## Cutting at the first colon -/

/-- The text in front of the first colon, and the text behind it. -/
def Text.cutAtColon? (text : String) : Option (String × String) :=
  if ':' ∈ text.toList then
    some (String.ofList (text.toList.takeWhile (· ≠ ':')),
      String.ofList (text.toList.dropWhile (· ≠ ':')).tail)
  else none

theorem Text.toList_joined (front back : String) :
    (front ++ ":" ++ back).toList = front.toList ++ ':' :: back.toList := by
  simp only [String.toList_append, List.append_assoc]
  rfl

/-- A joined text falls apart into what it was joined from, if no colon stands in front of that one.
-/
theorem Text.cutAtColon?_joined_iff {front back : String} :
    cutAtColon? (front ++ ":" ++ back) = some (front, back) ↔ ':' ∉ front.toList := by
  have hcolon : ':' ∈ (front ++ ":" ++ back).toList := by
    rw [toList_joined]
    exact List.mem_append_right _ List.mem_cons_self
  rw [cutAtColon?, if_pos hcolon, toList_joined]
  constructor
  · intro h hmem
    have hfront := congrArg (fun pair ↦ pair.1.toList) (Option.some.inj h)
    dsimp only at hfront
    rw [String.toList_ofList] at hfront
    rw [← hfront] at hmem
    exact absurd (List.mem_takeWhile_imp hmem) (by decide)
  · intro hnot
    have hne : ∀ c ∈ front.toList, decide (c ≠ ':') = true := by
      intro c hc
      refine decide_eq_true fun heq ↦ hnot ?_
      rw [← heq]
      exact hc
    rw [List.takeWhile_append_of_pos hne, List.dropWhile_append_of_pos hne,
      List.takeWhile_cons_of_neg (by decide), List.dropWhile_cons_of_neg (by decide),
      List.append_nil, List.tail_cons, String.ofList_toList, String.ofList_toList]

namespace Credentials

/-! ## Receiving a header -/

/-- The text that a basic header stands for. -/
def joined? (header : String) : Option String := do
  let encoded ← "Basic ".toList.isPrefixOf? header.toList
  Encoding.ofUtf8? (← Encoding.Base64.standard.decode? encoded)

/-- User name and password, as whoever receives the header reads them. -/
def received? (header : String) : Option (String × String) :=
  (joined? header).bind Text.cutAtColon?

theorem isPrefixOf?_append (front back : List Char) :
    front.isPrefixOf? (front ++ back) = some back := by
  induction front with
  | nil => cases back <;> rfl
  | cons c front ih => simp [List.isPrefixOf?, ih]

theorem joined?_basicHeader (username password : String) :
    joined? (basicHeader username password) = some (username ++ ":" ++ password) := by
  have hencoded : "Basic ".toList.isPrefixOf? (basicHeader username password).toList
      = some (Encoding.Base64.standard.encode
          (Encoding.utf8 (username ++ ":" ++ password))) := by
    rw [basicHeader, String.toList_append, isPrefixOf?_append, String.toList_ofList]
  rw [joined?, hencoded]
  change (Encoding.Base64.standard.decode? _).bind _ = _
  rw [Encoding.Base64.decode?_encode, Option.bind_some, Encoding.ofUtf8?_utf8]

theorem received?_basicHeader_iff {username password : String} :
    received? (basicHeader username password) = some (username, password) ↔
      ':' ∉ username.toList := by
  rw [received?, joined?_basicHeader, Option.bind_some, Text.cutAtColon?_joined_iff]

/-- Two pairs have one header if they are joined to one text. -/
theorem basicHeader_eq_iff {username password username' password' : String} :
    basicHeader username password = basicHeader username' password' ↔
      username ++ ":" ++ password = username' ++ ":" ++ password' := by
  constructor
  · intro h
    have hjoined := joined?_basicHeader username password
    rw [h, joined?_basicHeader] at hjoined
    exact (Option.some.inj hjoined).symm
  · intro h
    rw [basicHeader, h, basicHeader]

theorem eq_of_basicHeader_eq {username password username' password' : String}
    (hcolon : ':' ∉ username.toList) (hcolon' : ':' ∉ username'.toList)
    (h : basicHeader username password = basicHeader username' password') :
    (username, password) = (username', password') := by
  have hreceived : received? (basicHeader username password) = some (username, password) :=
    received?_basicHeader_iff.2 hcolon
  rw [h, received?_basicHeader_iff.2 hcolon'] at hreceived
  exact (Option.some.inj hreceived).symm

end Credentials

/-! ## The services -/

namespace Catalog

/-- The services that are reached with a user name and a password. -/
def withPassword : List Connector := [Zendesk.connector, Gorgias.connector, ServiceNow.connector]

theorem credentials_withPassword : ∀ c ∈ withPassword,
    ∃ username ending password, c.credentials = .basic username ending password := by
  intro c hc
  simp only [withPassword, List.mem_cons, List.not_mem_nil, or_false] at hc
  rcases hc with rfl | rfl | rfl <;> exact ⟨_, _, _, rfl⟩

end Catalog

/-- **A header transports the pair if the user name has no colon.** A call that is accepted holds a
user name and a password, and a run of it sends one request, under the header made of them. The
receiver gets them back just if the user name has no colon. Two pairs have the same header just if
they are the same when joined by a colon; where no user name has one, they are the same pair. -/
theorem basic_header_transports_pair_iff {c : Connector} (hc : c ∈ Catalog.withPassword)
    {base : Option String} {args : Args} {call : Call} (hcall : c.prepare base args = .ok call) :
    ∃ username password, call.credentials = .basic username password ∧
      (Connector.isDryRun args = false →
        ∀ {σ : Type} (client : Client σ) (timeout : Nat) (now : Int) (s : σ),
          ∃ exchange : Exchange,
            Traced client (c.run client ⟨timeout, base⟩ now args)
              (c.run (recorded client) ⟨timeout, base⟩ now args) s [exchange] ∧
            exchange.request.headers
              = [("Authorization", Credentials.basicHeader username password),
                ("Accept", "application/json")]) ∧
      (Credentials.received? (Credentials.basicHeader username password)
          = some (username, password) ↔ ':' ∉ username.toList) ∧
      ∀ username' password',
        (Credentials.basicHeader username password = Credentials.basicHeader username' password' ↔
          username ++ ":" ++ password = username' ++ ":" ++ password') ∧
        (':' ∉ username.toList → ':' ∉ username'.toList →
          Credentials.basicHeader username password
              = Credentials.basicHeader username' password' →
            username = username' ∧ password = password') := by
  obtain ⟨user, ending, secret, hsource⟩ := Catalog.credentials_withPassword c hc
  have hcredentials : call.credentials
      = .basic (args.textOr user "" ++ ending) (args.textOr secret "") := by
    rw [Connector.credentials_of_prepare hcall, hsource]
    rfl
  refine ⟨_, _, hcredentials, ?_, Credentials.received?_basicHeader_iff, ?_⟩
  · intro hlive σ client timeout now s
    have hready : call.credentials.authorize client timeout now s
        = (.ok [("Authorization", Credentials.basicHeader (args.textOr user "" ++ ending)
            (args.textOr secret ""))], s) := by
      rw [hcredentials, Credentials.authorize_basic]
    have htoken : call.credentials.tokenRequest? timeout now = none := by
      rw [hcredentials]
      rfl
    exact ⟨_, Connector.run_traced_of_live hcall hlive hready htoken, rfl⟩
  · intro username' password'
    refine ⟨Credentials.basicHeader_eq_iff, fun hcolon hcolon' h ↦ ?_⟩
    exact Prod.mk.inj (Credentials.eq_of_basicHeader_eq hcolon hcolon' h)

/-- Arguments for a ticket, with a user name and a key. -/
def helpdeskLookup (username key : String) : Args :=
  ⟨.ofList [("operation", .str "get_ticket"), ("domain", .str "acme"), ("ticket_id", .int 7),
    ("username", .str username), ("api_key", .str key)]⟩

/-- Colons and other characters of a key arrive. -/
theorem key_with_colons_is_transported :
    Catalog.Gorgias.connector ∈ Catalog.withPassword ∧
      ∃ call, Catalog.Gorgias.connector.prepare none (helpdeskLookup "agent" "s:é:") = .ok call ∧
        call.credentials = .basic "agent" "s:é:" ∧
        Credentials.received? (Credentials.basicHeader "agent" "s:é:")
          = some ("agent", "s:é:") := by
  have hc : Catalog.Gorgias.connector ∈ Catalog.withPassword := by simp [Catalog.withPassword]
  obtain ⟨call, hcall, hcredentials⟩ := exists_eq_ok_of_toOption
    (show (Catalog.Gorgias.connector.prepare none (helpdeskLookup "agent" "s:é:")).toOption.map
      (·.credentials) = some (.basic "agent" "s:é:") by decide +kernel)
  obtain ⟨username, password, hpair, -, hreceived, -⟩ :=
    basic_header_transports_pair_iff hc hcall
  rw [hcredentials] at hpair
  cases hpair
  exact ⟨hc, call, hcall, hcredentials, hreceived.2 (by decide)⟩

/-- A colon in the user name moves into the password, where it makes the pair of another call. -/
theorem different_pairs_share_header :
    ∃ x y, Catalog.Gorgias.connector.prepare none (helpdeskLookup "a:b" "c") = .ok x ∧
      Catalog.Gorgias.connector.prepare none (helpdeskLookup "a" "b:c") = .ok y ∧
      x.credentials = .basic "a:b" "c" ∧ y.credentials = .basic "a" "b:c" ∧
      Credentials.basicHeader "a:b" "c" = Credentials.basicHeader "a" "b:c" ∧
      Credentials.received? (Credentials.basicHeader "a:b" "c") = some ("a", "b:c") := by
  obtain ⟨x, hx, hpair⟩ := exists_eq_ok_of_toOption
    (show (Catalog.Gorgias.connector.prepare none (helpdeskLookup "a:b" "c")).toOption.map
      (·.credentials) = some (.basic "a:b" "c") by decide +kernel)
  obtain ⟨y, hy, hpair'⟩ := exists_eq_ok_of_toOption
    (show (Catalog.Gorgias.connector.prepare none (helpdeskLookup "a" "b:c")).toOption.map
      (·.credentials) = some (.basic "a" "b:c") by decide +kernel)
  have hsame : Credentials.basicHeader "a:b" "c" = Credentials.basicHeader "a" "b:c" :=
    Credentials.basicHeader_eq_iff.2 (by decide +kernel)
  refine ⟨x, y, hx, hy, hpair, hpair', hsame, ?_⟩
  rw [hsame]
  exact Credentials.received?_basicHeader_iff.2 (by decide)

end ServiceCall

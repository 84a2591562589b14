import ServiceCall.Proofs.Presence
import ServiceCall.Proofs.Secrecy

/-!
# What authorizes a call

The arguments that hold the credentials are checked to be there before a call is accepted. What
then authorizes the call is their text, and nothing where there is none. The two agree for scalars
only: a list or an object is there, and it is sent as an empty token or an empty password
(`credentials_filled_iff_scalar`).

The same holds of the arguments with a place in the address, for the same reason; see
`ServiceCall.Proofs.Segments`.
-/

namespace ServiceCall

open Http (Script)

/-! ## Credentials with a text -/

namespace Credentials

/-- Each part of the credentials holds the text of the argument that it is read from. -/
def Filled (args : Args) : Source → Credentials → Prop
  | .basic username ending password, .basic name secret =>
    (∃ text, args.Holds username text ∧ name = text ++ ending) ∧ args.Holds password secret
  | .bearer arg, .bearer token => args.Holds arg token
  | _, _ => False

theorem filled_read_iff {args : Args} {source : Source} (hdirect : source.isDirect = true) :
    Filled args source (source.read args) ↔ ∀ arg ∈ source.reads, ∃ text, args.Holds arg text := by
  cases source with
  | basic username ending password =>
    have hname : (∃ text, args.Holds username text ∧ args.textOr username "" ++ ending
        = text ++ ending) ↔ ∃ text, args.Holds username text := by
      refine exists_congr fun text ↦ and_iff_left_of_imp fun h ↦ ?_
      rw [h.textOr_eq]
    simp only [Source.read, Source.reads, Filled, hname, Args.holds_textOr_iff,
      List.forall_mem_cons, List.not_mem_nil, false_implies, implies_true, and_true]
  | bearer arg =>
    simp only [Source.read, Source.reads, Filled, Args.holds_textOr_iff, List.forall_mem_singleton]
  | serviceAccount key scopes subject => cases hdirect

end Credentials

namespace Catalog

theorem reads_eq_credentialFields : ∀ c ∈ all, c.credentials.isDirect = true →
    c.credentials.reads = c.credentialFields := by
  decide +kernel

end Catalog

/-- What an operation demands has nothing to do with credentials. -/
theorem Operation.credential_notMem_demands (op : Operation) (field : String) :
    .credential field ∉ op.demands := by
  simp [demands]

/-- Credentials are refused as missing only where they are. -/
theorem Connector.isPresent_of_noCredential {c : Connector} {base : Option String} {args : Args}
    {field : String} (h : c.prepare base args = .error (.noCredential field)) :
    field ∈ c.credentialFields ∧ args.isPresent field = false := by
  obtain ⟨before, d, after, hdemands, -, hunmet, hrefusal⟩ := prepare_eq_error_iff_first_unmet.1 h
  have hmem : d ∈ c.demands args := by
    rw [hdemands]
    exact List.mem_append_right before List.mem_cons_self
  cases d with
  | credential f =>
    obtain rfl : f = field := Refusal.noCredential.inj hrefusal
    refine ⟨?_, hunmet⟩
    have hfield : f ∈ c.credentialFields ∨
        .credential f ∈ ((c.operation? args).map Operation.demands).getD [] := by
      simpa [demands] using hmem
    rcases hfield with hfield | hop
    · exact hfield
    · cases hoperation : c.operation? args with
      | none =>
        rw [hoperation] at hop
        cases hop
      | some op =>
        rw [hoperation] at hop
        exact absurd hop (op.credential_notMem_demands f)
  | named | offered operation | connection f | supplied f | accepted r => cases hrefusal

/-- **Credentials are blank exactly where a list or an object was given for them.** What holds the
credentials is there when a call is accepted, but only a scalar authorizes it with a text of its
own; the others authorize it with nothing. They are never refused as missing. -/
theorem credentials_filled_iff_scalar {c : Connector} (hc : c ∈ Catalog.all)
    (hdirect : c.credentials.isDirect = true) (base : Option String) (args : Args) :
    (∀ call, c.prepare base args = .ok call →
      (∀ field ∈ c.credentialFields, args.isPresent field = true) ∧
      call.credentials = c.credentials.read args ∧
      (call.credentials.Filled args c.credentials ↔
        ∀ field ∈ c.credentialFields, args.isComposite field = false) ∧
      ∀ field ∈ c.credentialFields, args.isComposite field = true → args.textOr field "" = "") ∧
    ∀ field, c.prepare base args = .error (.noCredential field) →
      field ∈ c.credentialFields ∧ args.isComposite field = false := by
  refine ⟨fun call hcall ↦ ?_, fun field hfield ↦ ?_⟩
  · obtain ⟨name, op, haccept, -⟩ := Connector.prepare_eq_ok_iff.1 hcall
    have hpresent := (Connector.accept_eq_ok_iff.1 haccept).2.2.2.1
    have hread := Connector.credentials_of_prepare hcall
    refine ⟨hpresent, hread, ?_, fun field _ hfield ↦ Args.textOr_of_isComposite hfield ""⟩
    rw [hread, Credentials.filled_read_iff hdirect, Catalog.reads_eq_credentialFields c hc hdirect]
    exact forall₂_congr fun field hfield ↦ Args.exists_holds_iff (hpresent field hfield)
  · obtain ⟨hmem, habsent⟩ := Connector.isPresent_of_noCredential hfield
    refine ⟨hmem, Bool.eq_false_iff.2 fun hcomposite ↦ ?_⟩
    rw [Args.isPresent_of_isComposite hcomposite] at habsent
    cases habsent

/-- Arguments for a ticket, with a list for a password. -/
def listedPassword : Args :=
  ⟨.ofList [("operation", .str "get_ticket"), ("subdomain", .str "acme"),
    ("ticket_id", .num (.int 35)), ("email", .str "agent@example.com"),
    ("api_token", .arr [.str "secret"])]⟩

theorem listed_password_is_left_out :
    Catalog.Zendesk.connector ∈ Catalog.all ∧
      Catalog.Zendesk.connector.credentials.isDirect = true ∧
      ∃ call, Catalog.Zendesk.connector.prepare none listedPassword = .ok call ∧
        call.credentials = .basic "agent@example.com/token" "" ∧
        ¬ call.credentials.Filled listedPassword Catalog.Zendesk.connector.credentials := by
  have hc : Catalog.Zendesk.connector ∈ Catalog.all := by simp [Catalog.all]
  have hvalues :
      (Catalog.Zendesk.connector.prepare none listedPassword).toOption.map (·.credentials)
        = some (.basic "agent@example.com/token" "") := by decide +kernel
  obtain ⟨call, hcall, hvalues⟩ := exists_eq_ok_of_toOption hvalues
  have hfilled := ((credentials_filled_iff_scalar hc rfl none listedPassword).1 call hcall).2.2.1
  refine ⟨hc, rfl, call, hcall, hvalues, fun h ↦ ?_⟩
  have hscalar : listedPassword.isComposite "api_token" = false :=
    hfilled.1 h "api_token" (by decide)
  revert hscalar
  decide +kernel

/-- Arguments for a contact, with a list for a token. -/
def listedToken : Args :=
  ⟨.ofList [("operation", .str "get_contact"), ("contact_id", .num (.int 35)),
    ("access_token", .arr [.str "secret"])]⟩

/-- A token that is given as a list is not refused. The request is sent with an empty one. -/
theorem listed_token_is_sent_empty :
    listedToken.text? "access_token" = none ∧
      (Catalog.HubSpot.connector.run Script.client {} 0 listedToken
          (.start [.ok ⟨200, ""⟩])).2.sent.map (·.headers)
        = [[("Authorization", "Bearer "), ("Accept", "application/json")]] := by
  decide +kernel

end ServiceCall

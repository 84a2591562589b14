import ServiceCall.Proofs.Exchange
import ServiceCall.Proofs.NumberTexts
import ServiceCall.Proofs.Override
import ServiceCall.Proofs.Recovery
import ServiceCall.Proofs.Secrecy

/-!
# Instances named by an argument

A source code host runs in public and in instances of one's own, and an argument names the instance.
If it is a string the call goes there, and its token with it. If it is absent, null or blank the
call goes to the public instance. It goes there as well if the argument is a number, a truth value,
a list or an object: that is not refused, and it names nothing
(`token_goes_to_named_instance_iff`).

## When an address is public

An address is public if it begins with the public host and a slash. The end of a base that is named
by an argument cannot be seen in an address, so whether the address is public has to be told from
the base alone. What follows a base is a slash and the letter a, and nowhere in the public host does
that letter follow a slash; so the host, if the address begins with it, ends within the base or with
the slash behind it.
-/

namespace ServiceCall

open Http (Client Exchange Traced recorded)

/-! ## Arguments that are no strings -/

/-- The text of a number or of a truth value is not the beginning of an address. -/
theorem Args.h_notMem_of_holds {args : Args} {key text : String}
    (hnon : args.isNonString key = true) (h : args.Holds key text) : 'h' ∉ text.toList := by
  obtain ⟨v, hv, htext⟩ := text?_eq_some_iff.1 h.1
  rw [isNonString, (present?_eq_some_iff.1 hv).1] at hnon
  cases v with
  | null | str s => cases hnon
  | arr items | obj fields => cases htext
  | bool b =>
    cases htext
    cases b <;> decide
  | num n =>
    cases htext
    intro hmem
    rw [String.toList_ofList] at hmem
    exact absurd (Number.isNumeric_of_mem_text hmem) (by decide)

/-! ## Addresses of an instance -/

theorem Text.mem_of_mem_trimEndOf {c d : Char} {s : String}
    (h : d ∈ (trimEndOf c s).toList) : d ∈ s.toList := by
  obtain ⟨n, hn⟩ := exists_eq_trimEndOf_append c s
  rw [hn, String.toList_append]
  exact List.mem_append_left _ h

namespace Catalog.GitLab

variable {args : Args} {call : Call}

/-- The instance that is called. -/
def home (args : Args) : String :=
  Text.trimEndOf '/' ((args.string? "base_url").getD "https://gitlab.com")

theorem home_of_string?_eq_none (h : args.string? "base_url" = none) :
    home args = "https://gitlab.com" := by
  rw [home, h]
  decide +kernel

theorem home_of_string?_eq_some {s : String} (h : args.string? "base_url" = some s) :
    home args = Text.trimEndOf '/' s := by
  rw [home, h, Option.getD_some]

theorem head?_path : ∀ e ∈ operations.entries, e.2.path.head? = some (.text "/projects/") :=
  Table.forall_mem_entries_ofList (by decide +kernel)

theorem exists_renderAll_path {name : String} {op : Operation}
    (hop : operations.get? name = some op) (args : Args) :
    ∃ rest, Piece.renderAll args op.path = "/projects/" ++ rest := by
  have hhead := head?_path (name, op) (Table.get?_eq_some_iff.1 hop)
  obtain ⟨pieces, hpieces⟩ := List.head?_eq_some_iff.1 hhead
  refine ⟨Piece.renderAll args pieces, ?_⟩
  rw [hpieces]
  exact Piece.renderAll_append args [.text "/projects/"] pieces

theorem exists_url_eq (h : connector.prepare none args = .ok call) :
    ∃ rest, call.url = home args ++ "/api/v4/projects/" ++ rest := by
  obtain ⟨name, op, haccept, rfl⟩ := Connector.prepare_eq_ok_iff.1 h
  obtain ⟨-, hop, -⟩ := Connector.accept_eq_ok_iff.1 haccept
  obtain ⟨rest, hrest⟩ := exists_renderAll_path hop args
  refine ⟨rest, ?_⟩
  change home args ++ "/api/v4" ++ Piece.renderAll args op.path = _
  have hroot : "/api/v4" ++ ("/projects/" ++ rest) = "/api/v4/projects/" ++ rest := by
    rw [← String.append_assoc]
    rfl
  rw [hrest, String.append_assoc, hroot, String.append_assoc]

theorem exists_url_eq_of_holds_iff (h : connector.prepare none args = .ok call)
    (hpresent : args.isPresent "base_url" = true) :
    (∃ text rest, args.Holds "base_url" text ∧
        call.url = Text.trimEndOf '/' text ++ "/api/v4/projects/" ++ rest) ↔
      args.isNonString "base_url" = false := by
  obtain ⟨rest, hurl⟩ := exists_url_eq h
  constructor
  · rintro ⟨text, rest', htext, hurl'⟩
    refine Bool.eq_false_iff.2 fun hnon ↦ Args.h_notMem_of_holds hnon htext ?_
    -- The public address begins with a letter that would have to come from the text.
    rw [hurl, home_of_string?_eq_none (Args.string?_eq_none_iff.2 (.inr hnon))] at hurl'
    have hlists := congrArg String.toList hurl'
    simp only [String.toList_append] at hlists
    cases htrim : (Text.trimEndOf '/' text).toList with
    | nil =>
      rw [htrim] at hlists
      cases hlists
    | cons c cs =>
      rw [htrim] at hlists
      have hc : 'h' = c := (List.cons.inj hlists).1
      refine Text.mem_of_mem_trimEndOf (c := '/') ?_
      rw [htrim, hc]
      exact List.mem_cons_self
  · intro hstring
    obtain ⟨s, hs⟩ := (Args.exists_string?_iff hpresent).2 hstring
    rw [home_of_string?_eq_some hs] at hurl
    exact ⟨s, rest, Args.holds_of_string? hs, hurl⟩

/-! ## Public addresses -/

def publicRoot : String := "https://gitlab.com/"

/-- The address is one of the public instance. -/
def IsPublic (url : String) : Prop := publicRoot.toList <+: url.toList

instance (url : String) : Decidable (IsPublic url) :=
  inferInstanceAs (Decidable (publicRoot.toList <+: url.toList))

theorem isPublic_append_iff (base rest : String) :
    IsPublic (base ++ "/api/v4/projects/" ++ rest) ↔ IsPublic (base ++ "/") := by
  have hprefix : (base ++ "/").toList <+: (base ++ "/api/v4/projects/" ++ rest).toList := by
    simp only [String.toList_append, List.append_assoc, List.prefix_append_right_inj]
    exact ⟨_, rfl⟩
  have hlonger : (base ++ "/a").toList <+: (base ++ "/api/v4/projects/" ++ rest).toList := by
    simp only [String.toList_append, List.append_assoc, List.prefix_append_right_inj]
    exact ⟨_, rfl⟩
  constructor
  · intro h
    rcases Nat.lt_or_ge (base ++ "/").toList.length publicRoot.toList.length with hlt | hle
    · -- The base is too short, and the host would go on behind its slash with an a.
      have hroot : (base ++ "/a").toList <+: publicRoot.toList := by
        refine List.prefix_of_prefix_length_le hlonger h ?_
        simp only [String.toList_append, List.length_append] at hlt ⊢
        exact hlt
      rw [String.toList_append] at hroot
      have hinfix : "/a".toList <:+: publicRoot.toList :=
        (List.suffix_append _ _).isInfix.trans hroot.isInfix
      exact absurd hinfix (by decide)
    · exact List.prefix_of_prefix_length_le h hprefix hle
  · intro h
    exact h.trans hprefix

theorem isPublic_url_iff (h : connector.prepare none args = .ok call) :
    IsPublic call.url ↔ args.isPresent "base_url" = false ∨ args.isNonString "base_url" = true ∨
      ∃ s, args.string? "base_url" = some s ∧ IsPublic (Text.trimEndOf '/' s ++ "/") := by
  obtain ⟨rest, hurl⟩ := exists_url_eq h
  rw [hurl, isPublic_append_iff, ← or_assoc, ← Args.string?_eq_none_iff]
  cases hs : args.string? "base_url" with
  | none =>
    rw [home_of_string?_eq_none hs]
    exact iff_of_true (by decide) (.inl rfl)
  | some s =>
    rw [home_of_string?_eq_some hs]
    simp

/-! ## Runs -/

/-- The request of a call, with the token. -/
def authorized (args : Args) (call : Call) (timeout : Nat) : Http.Request :=
  call.request [("Authorization", "Bearer " ++ args.textOr "private_token" "")] timeout

/-- A run sends the one request. -/
theorem run_traced {σ : Type} {client : Client σ} {timeout : Nat} {now : Int} {s : σ}
    (h : connector.prepare none args = .ok call) (hlive : Connector.isDryRun args = false) :
    Traced client (connector.run client ⟨timeout, none⟩ now args)
      (connector.run (recorded client) ⟨timeout, none⟩ now args) s
      [⟨authorized args call timeout, (client (authorized args call timeout) s).1⟩] := by
  refine Connector.run_traced_of_live h hlive ?_ ?_
  · rw [Connector.credentials_of_prepare h]
    rfl
  · rw [Connector.credentials_of_prepare h]
    rfl

end Catalog.GitLab

/-- **The token goes to the instance that is named by a string.** If the argument is there, the call
goes to the instance whose address is the text of the argument just if the argument is a string. The
address is one of the public instance just if the argument is absent, null or blank, if it is there
and no string, or if the string names the public instance. A run sends one request, to the address
and with the token. -/
theorem token_goes_to_named_instance_iff {args : Args} {call : Call}
    (h : Catalog.GitLab.connector.prepare none args = .ok call) :
    (args.isPresent "base_url" = true →
      ((∃ text rest, args.Holds "base_url" text ∧
          call.url = Text.trimEndOf '/' text ++ "/api/v4/projects/" ++ rest) ↔
        args.isNonString "base_url" = false)) ∧
    (Catalog.GitLab.IsPublic call.url ↔
      args.isPresent "base_url" = false ∨ args.isNonString "base_url" = true ∨
        ∃ s, args.string? "base_url" = some s ∧
          Catalog.GitLab.IsPublic (Text.trimEndOf '/' s ++ "/")) ∧
    ∀ {σ : Type} (client : Client σ) (timeout : Nat) (now : Int) (s : σ),
      Connector.isDryRun args = false →
      ∃ exchange,
        Traced client (Catalog.GitLab.connector.run client ⟨timeout, none⟩ now args)
          (Catalog.GitLab.connector.run (recorded client) ⟨timeout, none⟩ now args) s [exchange] ∧
        exchange.request.url = call.url ∧
        ("Authorization", "Bearer " ++ args.textOr "private_token" "")
          ∈ exchange.request.headers := by
  refine ⟨Catalog.GitLab.exists_url_eq_of_holds_iff h, Catalog.GitLab.isPublic_url_iff h, ?_⟩
  intro σ client timeout now s hlive
  exact ⟨_, Catalog.GitLab.run_traced h hlive, rfl, List.mem_cons_self⟩

/-- A look-up of a project on an instance whose address is given in a list. -/
def listedInstance : Args := ⟨.ofList [("operation", .str "get_project"), ("project_id", .int 7),
  ("private_token", .str "t"), ("base_url", .arr [.str "https://git.corp.example"])]⟩

theorem url_listedInstance :
    (Catalog.GitLab.connector.prepare none listedInstance).toOption.map Call.url
      = some "https://gitlab.com/api/v4/projects/7" := by
  decide +kernel

theorem listed_instance_is_not_called :
    ∃ call, Catalog.GitLab.connector.prepare none listedInstance = .ok call ∧
      listedInstance.isPresent "base_url" = true ∧ Connector.isDryRun listedInstance = false ∧
      (¬ ∃ text rest, listedInstance.Holds "base_url" text ∧
        call.url = Text.trimEndOf '/' text ++ "/api/v4/projects/" ++ rest) ∧
      Catalog.GitLab.IsPublic call.url := by
  obtain ⟨call, hcall, -⟩ := exists_eq_ok_of_toOption url_listedInstance
  have hpresent : listedInstance.isPresent "base_url" = true := rfl
  have hnon : listedInstance.isNonString "base_url" = true := rfl
  obtain ⟨hnamed, hpublic, -⟩ := token_goes_to_named_instance_iff hcall
  refine ⟨call, hcall, hpresent, by decide, ?_, hpublic.2 (.inr (.inl hnon))⟩
  rw [hnamed hpresent, hnon]
  exact Bool.noConfusion

/-- A run sends the token to the public instance, although another one is named. -/
theorem token_for_listed_instance_goes_public :
    listedInstance.get? "base_url" = some (.arr [.str "https://git.corp.example"]) ∧
    listedInstance.isPresent "base_url" = true ∧
    ∃ call, Catalog.GitLab.connector.prepare none listedInstance = .ok call ∧
      call.url = "https://gitlab.com/api/v4/projects/7" ∧
      ∀ {σ : Type} (client : Client σ) (now : Int) (s : σ),
        ∃ exchange,
          Traced client (Catalog.GitLab.connector.run client {} now listedInstance)
            (Catalog.GitLab.connector.run (recorded client) {} now listedInstance) s
            [exchange] ∧
          exchange.request.url = "https://gitlab.com/api/v4/projects/7" ∧
          ("Authorization", "Bearer t") ∈ exchange.request.headers := by
  obtain ⟨call, hcall, hurl⟩ := exists_eq_ok_of_toOption url_listedInstance
  refine ⟨rfl, rfl, call, hcall, hurl, ?_⟩
  intro σ client now s
  exact ⟨_, Catalog.GitLab.run_traced hcall (by decide), hurl, List.mem_cons_self⟩

end ServiceCall

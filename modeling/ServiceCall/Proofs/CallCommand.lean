import ServiceCall.Proofs.CommandLines
import ServiceCall.Proofs.Endings

/-!
# The command that makes a call

A call may fail before it is made: its arguments or its context may not be in order. Then the run
fails, prints nothing and sends nothing. Otherwise the call is made, and the run prints the envelope
and ends with a code that goes by the envelope alone (`call_command`).

## Two ways to look at a run

A run is a computation over a transport. What it sends is seen by handing it a client that keeps a
record (`Program.exchanges`); that the record changes nothing is `Program.run_traced`. Nothing that
is proved here depends on the client, so most facts are stated over any client that the settings may
give (`Program.runOver`).

## Where arguments come from

Given on the command line or in the input, the same text has the same effect. The two lines are
compared in `ServiceCall.Proofs.CommandLines`; here it matters that nothing but the command looks at
the line, and nothing but the arguments of a call comes from the input.
-/

namespace ServiceCall

open Http (Client Exchange Traced Transport recorded)

/-! ## Invocations over any client -/

namespace Registry

variable {σ : Type} (r : Registry) (client : Client σ) (i : Invocation) (s : σ)

theorem exists_answer_traced :
    ∃ es, Traced client (r.answer client i) (r.answer (recorded client) i) s es := by
  simp only [answer, invoke]
  cases r.get? i.connector with
  | none => exact ⟨[], .pure _⟩
  | some c =>
    change ∃ es, Traced client (c.run client (r.options i.connector) i.now (i.filled c))
      (c.run (recorded client) (r.options i.connector) i.now (i.filled c)) s es
    cases hprepare : c.prepare (r.options i.connector).base (i.filled c) with
    | error refusal =>
      rw [Connector.run_of_refused hprepare, Connector.run_of_refused hprepare]
      exact ⟨[], .pure _⟩
    | ok call =>
      cases hdry : Connector.isDryRun (i.filled c) with
      | true =>
        rw [Connector.run_of_dryRun hprepare hdry, Connector.run_of_dryRun hprepare hdry]
        exact ⟨[], .pure _⟩
      | false =>
        rw [Connector.run_of_live hprepare hdry, Connector.run_of_live hprepare hdry]
        rcases hauth : call.credentials.authorize client (r.options i.connector).timeout i.now s
          with ⟨fault | headers, s'⟩
        · exact ⟨_, Connector.send_traced_of_unauthorized hauth⟩
        · exact ⟨_, Connector.send_traced_of_authorized hauth⟩

/-- A dry run ends without a client, even where it is refused or no service is offered. -/
theorem exists_answer_eq_pure (h : Connector.isDryRun i.args = true) :
    ∃ e, ∀ {τ : Type} (client : Client τ), r.answer client i = pure e := by
  cases hget : r.get? i.connector with
  | none =>
    refine ⟨.badInput (Failure.unknownConnector i.connector).message (some "connector"),
      fun client ↦ ?_⟩
    rw [answer, invoke, hget]
  | some c =>
    have hdry : Connector.isDryRun (i.filled c) = true :=
      (Invocation.isDryRun_filled (.inl h)).trans h
    cases hprepare : c.prepare (r.options i.connector).base (i.filled c) with
    | error refusal =>
      exact ⟨_, fun client ↦ (answer_of_get? hget).trans (Connector.run_of_refused hprepare)⟩
    | ok call =>
      exact ⟨_, fun client ↦ (answer_of_get? hget).trans (Connector.run_of_dryRun hprepare hdry)⟩

end Registry

/-! ## What is given for a call -/

namespace Json

/-- The fields of an object that is read are the entries of a table. -/
theorem exists_table_of_value {depth : Nat} {cs rest : List Char} {fields : List (String × Json)}
    (h : value depth cs = .ok (obj fields, rest)) : ∃ t : Table Json, fields = t.entries := by
  rw [value.eq_def] at h
  split at h
  · cases h
  · -- Only behind a brace an object is read; what is read elsewhere is of another kind.
    repeat' split at h
    all_goals first
      | cases h
      | (obtain ⟨r, -, hr⟩ := exists_of_map_eq_ok h
         cases hr
         try exact ⟨_, rfl⟩)

theorem exists_table_of_read? {text : String} {fields : List (String × Json)}
    (h : read? text = some (obj fields)) : ∃ t : Table Json, fields = t.entries := by
  rw [read?, read] at h
  cases hvalue : value maxDepth text.toList with
  | error fault =>
    rw [hvalue] at h
    cases h
  | ok r =>
    obtain ⟨v, rest⟩ := r
    rw [hvalue] at h
    change ((finish rest).bind fun _ ↦ .ok v).toOption = some (obj fields) at h
    cases hfinish : finish rest with
    | error fault =>
      rw [hfinish] at h
      cases h
    | ok u =>
      rw [hfinish] at h
      cases h
      exact exists_table_of_value hvalue

theorem kind_notMem_iff {v : Json} :
    v.kind ∉ ["object", "null"] ↔ ∃ kind, Args.ofJson v = .error kind := by
  cases v <;> simp [kind, Args.ofJson]

end Json

namespace Program

variable {text : String} {v : Json} {a : Args}

theorem readJson_eq_ok_iff : readJson text = .ok v ↔ Json.read? text = some v := by
  rw [readJson, Json.read?]
  cases Json.read text with
  | error fault => exact ⟨fun h ↦ (by cases h), fun h ↦ (by cases h)⟩
  | ok w =>
    refine ⟨fun h ↦ ?_, fun h ↦ ?_⟩
    · cases h
      rfl
    · cases h
      rfl

theorem exists_readJson_eq_error (h : Json.read? text = none) :
    ∃ cause, readJson text = .error cause := by
  cases hread : readJson text with
  | error cause => exact ⟨cause, rfl⟩
  | ok v =>
    rw [readJson_eq_ok_iff.1 hread] at h
    cases h

/-- The text cannot be the arguments of a call: it is not blank, and it holds no JSON, or JSON that
is neither an object nor null. -/
def IsUnfit (text : String) : Prop :=
  Text.isBlank text = false ∧
    (Json.read? text = none ∨ ∃ v, Json.read? text = some v ∧ v.kind ∉ ["object", "null"])

/-- The text gives these arguments: none at all, or those of the object that it holds. -/
def Supplies (text : String) (a : Args) : Prop :=
  (Text.isBlank text = true ∨ Json.read? text = some .null) ∧ a = .empty ∨
    Json.read? text = some a.toJson

theorem readArgs_of_isBlank (h : Text.isBlank text = true) : readArgs text = .ok .empty := by
  rw [readArgs, if_pos h]

theorem readArgs_of_read? (h : Text.isBlank text = false) (hread : Json.read? text = some v) :
    readArgs text = (Args.ofJson v).mapError .ofArgsKind := by
  rw [readArgs, if_neg (Bool.eq_false_iff.1 h), readJson_eq_ok_iff.2 hread]
  rfl

theorem exists_readArgs_eq_error (h : IsUnfit text) : ∃ cause, readArgs text = .error cause := by
  obtain ⟨hblank, hnone | ⟨v, hread, hkind⟩⟩ := h
  · obtain ⟨cause, hcause⟩ := exists_readJson_eq_error hnone
    refine ⟨cause, ?_⟩
    rw [readArgs, if_neg (Bool.eq_false_iff.1 hblank), hcause]
    rfl
  · obtain ⟨kind, hkind⟩ := Json.kind_notMem_iff.1 hkind
    refine ⟨.ofArgsKind kind, ?_⟩
    rw [readArgs_of_read? hblank hread, hkind]
    rfl

theorem exists_readArgs_eq_ok (h : ¬ IsUnfit text) :
    ∃ a, readArgs text = .ok a ∧ Supplies text a := by
  by_cases hblank : Text.isBlank text = true
  · exact ⟨.empty, readArgs_of_isBlank hblank, .inl ⟨.inl hblank, rfl⟩⟩
  · rw [Bool.not_eq_true] at hblank
    cases hread : Json.read? text with
    | none => exact absurd ⟨hblank, .inl hread⟩ h
    | some v =>
      cases hargs : Args.ofJson v with
      | error kind =>
        exact absurd ⟨hblank, .inr ⟨v, hread, Json.kind_notMem_iff.2 ⟨kind, hargs⟩⟩⟩ h
      | ok a =>
        refine ⟨a, ?_, ?_⟩
        · rw [readArgs_of_read? hblank hread, hargs]
          rfl
        · cases v with
          | null =>
            cases hargs
            exact .inl ⟨.inr hread, rfl⟩
          | obj fields =>
            obtain ⟨t, rfl⟩ := Json.exists_table_of_read? hread
            cases hargs
            refine .inr ?_
            rw [hread, Table.ofList_entries]
            rfl
          | bool _ | num _ | str _ | arr _ => cases hargs

/-- What is given for a call is not in order. -/
def Refuses (text : String) (context : Option String) : Prop :=
  IsUnfit text ∨ ∃ c, context = some c ∧ Json.read? c = none

/-- The arguments with the flag of a dry run, which replaces one that is given. -/
def flagged (a : Args) (dryRun : Bool) : Args :=
  if dryRun then a.insert "dry_run" (.bool true) else a

theorem isDryRun_flagged (a : Args) : Connector.isDryRun (flagged a true) = true := by
  rw [flagged, if_pos rfl, Connector.isDryRun, Args.flag, Args.get?_insert, if_pos rfl]

section Arguments

variable {w : World} {args context : Option String} (htext : argsText w args = .ok text)
  (dryRun : Bool)

include htext

theorem exists_callArgs_eq_error (h : Refuses text context) :
    ∃ cause, callArgs w args context dryRun = .error cause := by
  rw [callArgs, htext]
  change ∃ cause, ((readArgs text).bind _) = .error cause
  cases hread : readArgs text with
  | error cause => exact ⟨cause, rfl⟩
  | ok a =>
    rcases h with hunfit | ⟨c, rfl, hnone⟩
    · obtain ⟨cause, hcause⟩ := exists_readArgs_eq_error hunfit
      rw [hread] at hcause
      cases hcause
    · obtain ⟨cause, hcause⟩ := exists_readJson_eq_error hnone
      refine ⟨cause, ?_⟩
      change ((discard (readJson c)).bind _) = _
      rw [hcause]
      rfl

theorem exists_callArgs_eq_ok (h : ¬ Refuses text context) :
    ∃ a, Supplies text a ∧ callArgs w args context dryRun = .ok (flagged a dryRun) := by
  obtain ⟨hfit, hcontext⟩ := not_or.1 h
  obtain ⟨a, hread, hsupplies⟩ := exists_readArgs_eq_ok hfit
  refine ⟨a, hsupplies, ?_⟩
  rw [callArgs, htext]
  change ((readArgs text).bind _) = _
  rw [hread]
  cases context with
  | none => rfl
  | some c =>
    cases hjson : Json.read? c with
    | none => exact absurd ⟨c, rfl, hjson⟩ hcontext
    | some v =>
      change ((discard (readJson c)).bind _) = _
      rw [readJson_eq_ok_iff.2 hjson]
      rfl

end Arguments

theorem Report.output_ofEnvelope (e : Envelope) :
    (Report.ofEnvelope e).output = e.toJson.indented ++ "\n" := by
  rw [ofEnvelope]
  cases e.isError <;> rfl

/-! ## Runs over any client -/

/-- A run over whatever client the settings give. -/
def runOver {σ : Type} (w : World) (client : Settings → Client σ) (now : Int) : StateM σ Report :=
  match CommandLine.read? w.arguments with
  | none => pure .misused
  | some .help => pure (.printed helpText)
  | some .version => pure (.printed versionText)
  | some (.run named command) =>
    match settings w named with
    | .ok s => perform w (.ofCatalog s) (client s) now command
    | .error cause => pure (.failed cause)

/-- The client of a run. -/
def networkClient {σ : Type} (transport : Transport σ) (s : Settings) : Client σ :=
  Http.Network.client (some s.userAgent) transport

theorem run_eq_runOver {σ : Type} (w : World) (transport : Transport σ) (now : Int) :
    run w transport now = runOver w (networkClient transport) now := rfl

/-- The requests that a run sends, each with the outcome it meets. -/
def exchanges {σ : Type} (w : World) (transport : Transport σ) (now : Int) (s : σ) :
    List Exchange :=
  (runOver w (fun settings ↦ recorded (networkClient transport settings)) now (s, [])).2.2

/-- The call that a command asks for, with the credentials of the environment. -/
def invocation (w : World) (connector : String) (a : Args) (now : Int) : Invocation where
  connector := connector
  args := a
  lookup := w.environment.get?
  now := now

section Runs

variable {σ : Type} {w : World} {named args context : Option String} {connector : String}
  {dryRun : Bool} {s : Settings} {client : Settings → Client σ} {now : Int}
  (hline : CommandLine.read? w.arguments = some (.run named (.call connector args context dryRun)))
  (hsettings : settings w named = .ok s)

include hline hsettings

theorem runOver_eq_perform : runOver w client now
    = perform w (.ofCatalog s) (client s) now (.call connector args context dryRun) := by
  rw [runOver, hline]
  dsimp only
  rw [hsettings]

theorem runOver_of_callArgs_eq_error {cause : Failure}
    (h : callArgs w args context dryRun = .error cause) :
    runOver w client now = pure (.failed cause) := by
  rw [runOver_eq_perform hline hsettings, perform, h]

theorem runOver_of_callArgs_eq_ok (h : callArgs w args context dryRun = .ok a) :
    runOver w client now
      = Report.ofEnvelope <$> (Registry.ofCatalog s).answer (client s)
          (invocation w connector a now) := by
  rw [runOver_eq_perform hline hsettings, perform, h]
  rfl

/-- A record of what is sent changes nothing. -/
theorem run_traced (transport : Transport σ) (state : σ) :
    Traced (networkClient transport s) (run w transport now)
      (runOver w (fun settings ↦ recorded (networkClient transport settings)) now) state
      (exchanges w transport now state) := by
  have htraced : ∃ es, Traced (networkClient transport s) (run w transport now)
      (runOver w (fun settings ↦ recorded (networkClient transport settings)) now) state es := by
    rw [run_eq_runOver]
    cases hargs : callArgs w args context dryRun with
    | error cause =>
      rw [runOver_of_callArgs_eq_error hline hsettings hargs,
        runOver_of_callArgs_eq_error hline hsettings hargs]
      exact ⟨[], .pure _⟩
    | ok a =>
      rw [runOver_of_callArgs_eq_ok hline hsettings hargs,
        runOver_of_callArgs_eq_ok hline hsettings hargs]
      obtain ⟨es, hes⟩ := (Registry.ofCatalog s).exists_answer_traced (networkClient transport s)
        (invocation w connector a now) state
      exact ⟨es, hes.map _⟩
  obtain ⟨es, hes⟩ := htraced
  have heq : exchanges w transport now state = es := by
    rw [exchanges, hes.kept_eq]
    rfl
  rw [heq]
  exact hes

/-- With the switch set nothing is sent, whatever the arguments say of a dry run. -/
theorem exists_runOver_eq_pure (htext : argsText w args = .ok text) (hdry : dryRun = true) :
    ∃ report, ∀ {τ : Type} (client : Settings → Client τ),
      runOver w client now = pure report := by
  subst hdry
  by_cases hrefuses : Refuses text context
  · obtain ⟨cause, hargs⟩ := exists_callArgs_eq_error htext true hrefuses
    exact ⟨_, fun client ↦ runOver_of_callArgs_eq_error hline hsettings hargs⟩
  · obtain ⟨a, -, hargs⟩ := exists_callArgs_eq_ok htext true hrefuses
    obtain ⟨e, he⟩ := (Registry.ofCatalog s).exists_answer_eq_pure
      (invocation w connector (flagged a true) now) (isDryRun_flagged a)
    refine ⟨.ofEnvelope e, fun client ↦ ?_⟩
    rw [runOver_of_callArgs_eq_ok hline hsettings hargs, he]
    rfl

/-- Another line and another input make no difference but through the call that is asked for and
the text of its arguments. -/
theorem runOver_congr {arguments : List String} {input : Except String String}
    {args' : Option String}
    (hline' : CommandLine.read? arguments
      = some (.run named (.call connector args' context dryRun)))
    (htext : argsText { w with arguments := arguments, input := input } args' = argsText w args) :
    runOver { w with arguments := arguments, input := input } client now
      = runOver w client now := by
  -- Settings and environment come from elsewhere.
  have hsettings' : settings { w with arguments := arguments, input := input } named = .ok s :=
    hsettings
  have hargs : callArgs { w with arguments := arguments, input := input } args' context dryRun
      = callArgs w args context dryRun := by
    rw [callArgs, callArgs, htext]
  rw [runOver_eq_perform hline' hsettings', runOver_eq_perform hline hsettings, perform, perform,
    hargs]
  rfl

end Runs

theorem exchanges_of_runOver_eq_pure {σ : Type} {w : World} {now : Int} {report : Report}
    (h : ∀ {τ : Type} (client : Settings → Client τ), runOver w client now = pure report)
    (transport : Transport σ) (state : σ) : exchanges w transport now state = [] := by
  rw [exchanges, h]
  rfl

end Program

/-- **The contract of the call command.** For every command line that asks for a call, with settings
under which requests can be sent, and over every transport:

* If the text of the arguments is neither blank nor an object nor null, or if the context is not
  JSON, the run ends with the code two. It prints nothing and sends nothing.
* Otherwise it prints the indented envelope of the invocation and a line break, and ends with the
  code one if that envelope is an error and with the code zero if not.
* A dry run sends nothing, even if the arguments ask for none.
* Arguments that stand on the line, anywhere among the options, have the effect that the same text
  has in the input. -/
theorem call_command {w : World} {named args context : Option String} {connector text : String}
    {dryRun : Bool} {settings : Settings}
    (hline : CommandLine.read? w.arguments
      = some (.run named (.call connector args context dryRun)))
    (hsettings : Program.settings w named = .ok settings)
    (htext : Program.argsText w args = .ok text) {σ : Type} (transport : Transport σ) (now : Int)
    (s : σ) :
    let run := Program.run w transport now s
    let sent := Program.exchanges w transport now s
    (Program.Refuses text context →
      run.1.code = 2 ∧ run.1.output = "" ∧ sent = [] ∧ run.2 = s) ∧
    (¬ Program.Refuses text context → ∃ a, Program.Supplies text a ∧
      let call := (Registry.ofCatalog settings).invoke (Program.networkClient transport settings)
        w.environment.get? now connector (Program.flagged a dryRun) s
      run.1.output = call.1.toJson.indented ++ "\n" ∧
        run.1.code = (if call.1.isError then 1 else 0) ∧ run.2 = call.2) ∧
    (dryRun = true → sent = [] ∧ run.2 = s) ∧
    (args = none → ∀ before parts after input, w.arguments = before ++ after →
      CommandLine.AtOption before → CommandLine.Passes text parts →
      let w' := { w with arguments := before ++ (parts ++ after), input := input }
      Program.run w' transport now s = run ∧ Program.exchanges w' transport now s = sent) := by
  refine ⟨fun hrefuses ↦ ?_, fun hfit ↦ ?_, fun hdry ↦ ?_, ?_⟩
  · obtain ⟨cause, hargs⟩ := Program.exists_callArgs_eq_error htext dryRun hrefuses
    have hrun {τ : Type} (client : Settings → Client τ) :
        Program.runOver w client now = pure (.failed cause) :=
      Program.runOver_of_callArgs_eq_error hline hsettings hargs
    rw [Program.exchanges_of_runOver_eq_pure hrun, Program.run_eq_runOver, hrun]
    exact ⟨rfl, rfl, rfl, rfl⟩
  · obtain ⟨a, hsupplies, hargs⟩ := Program.exists_callArgs_eq_ok htext dryRun hfit
    refine ⟨a, hsupplies, ?_⟩
    rw [Program.run_eq_runOver, Program.runOver_of_callArgs_eq_ok hline hsettings hargs]
    exact ⟨Program.Report.output_ofEnvelope _, Program.Report.code_ofEnvelope _, rfl⟩
  · obtain ⟨report, hrun⟩ := Program.exists_runOver_eq_pure hline hsettings htext hdry
    rw [Program.exchanges_of_runOver_eq_pure hrun, Program.run_eq_runOver, hrun]
    exact ⟨rfl, rfl⟩
  · rintro rfl before parts after input harguments hbefore hparts
    have hline' := (CommandLine.read?_append_iff hbefore hparts).2 (harguments ▸ hline)
    have hcongr {τ : Type} (client : Settings → Client τ) :
        Program.runOver { w with arguments := before ++ (parts ++ after), input := input } client
          now = Program.runOver w client now :=
      Program.runOver_congr hline hsettings hline' htext.symm
    refine ⟨?_, ?_⟩
    · rw [Program.run_eq_runOver, hcongr, ← Program.run_eq_runOver]
    · rw [Program.exchanges, hcongr, ← Program.exchanges]

/-- Arguments for a contact, which ask for no dry run. -/
def contactText : String :=
  "\x7b\"operation\": \"get_contact\", \"contact_id\": 35, \"access_token\": \"t\", " ++
    "\"dry_run\": false\x7d"

/-- A call whose line asks for a dry run, with the arguments in the input. -/
def contactWorld : World where
  arguments := ["call", "hubspot", "--dry-run"]
  input := .ok contactText
  vars := .empty
  workFolder := "/"
  programFolder := none
  look _ := .nothing

/-- The switch of the line counts, and the call is the same with the arguments on the line. -/
theorem contact_call_is_dry_run :
    CommandLine.read? contactWorld.arguments
        = some (.run none (.call "hubspot" none none true)) ∧
      Program.settings contactWorld none = .ok {} ∧
      Program.argsText contactWorld none = .ok contactText ∧
      Program.exchanges contactWorld Http.Network.unreachable 0 () = [] ∧
      Program.run { contactWorld with
          arguments := ["call", "hubspot", "--args", contactText, "--dry-run"], input := .ok "" }
          Http.Network.unreachable 0 ()
        = Program.run contactWorld Http.Network.unreachable 0 () := by
  have hline : CommandLine.read? contactWorld.arguments
      = some (.run none (.call "hubspot" none none true)) := by decide +kernel
  have hsettings : Program.settings contactWorld none = .ok {} := by rfl
  have htext : Program.argsText contactWorld none = .ok contactText := rfl
  have hbefore : CommandLine.AtOption ["call", "hubspot"] :=
    ⟨[], ["hubspot"], {}, { words := ["hubspot"] }, rfl, fun rest ↦ rfl, fun rest ↦ rfl⟩
  obtain ⟨-, -, hdry, hplace⟩ :=
    call_command hline hsettings htext Http.Network.unreachable 0 ()
  refine ⟨hline, hsettings, htext, (hdry rfl).1, ?_⟩
  exact (hplace rfl ["call", "hubspot"] ["--args", contactText] ["--dry-run"] (.ok "") rfl hbefore
    (.apart (by decide))).1

end ServiceCall

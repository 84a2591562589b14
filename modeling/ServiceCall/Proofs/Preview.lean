import ServiceCall.Proofs.Exchange
import ServiceCall.Proofs.Reads

/-!
# What is shown is what is sent

A dry run shows a call, a live run sends it. The two go different ways from the prepared call
onwards: one describes it as an object, the other fills a request with it. `Shows` says when the
description fits the request, and `dry_run_shows_last_request` that for every service of the catalog
it always does.

## Distinct names

Parameters are sent as a list but shown as an object, in which a name can stand only once. The two
say the same because no operation of the catalog sends two parameters under one name, whatever the
arguments are; and the flag that tells the two runs apart is read by no operation.
-/

namespace ServiceCall

open Http (Client Exchange Request recorded)

/-- The description fits the request. -/
structure Shows (preview : Json) (request : Request) : Prop where
  method : preview.field? "method" = some (.str request.method.name)
  url : preview.field? "url" = some (.str request.url)
  content : request.content = match preview.field? "payload" with
    | some payload => .json payload
    | none => .empty
  /-- No name stands twice among the parameters. -/
  names_nodup : (request.params.map Prod.fst).Nodup
  params_eq_nil_iff : request.params = [] ↔ preview.field? "params" = none
  /-- The parameters and the object shown for them are the same map. -/
  mem_params_iff : ∀ shown, preview.field? "params" = some shown → ∀ name value,
    shown.field? name = some value ↔ ∃ text, value = .str text ∧ (name, text) ∈ request.params

/-! ## A call and its description -/

namespace Call

theorem field?_summary (call : Call) (k : String) :
    call.summary.field? k
      = ([("operation", some (.str call.operation)), ("url", some (.str call.url)),
          ("method", some (.str call.method.name)), ("auth", some (.str call.credentials.scheme)),
          ("payload", call.payload.map .ofTable),
          ("params", if call.params.isEmpty then none else some (paramsJson call.params))].lookup
            k).join := by
  rw [summary, Json.field?_object_entries (by simp)]

theorem field?_params_summary (call : Call) :
    call.summary.field? "params"
      = if call.params.isEmpty then none else some (paramsJson call.params) := by
  rw [field?_summary]
  exact Option.join_some

theorem field?_paramsJson {params : List (String × String)} (h : (params.map Prod.fst).Nodup)
    {name : String} {value : Json} :
    (paramsJson params).field? name = some value ↔
      ∃ text, value = .str text ∧ (name, text) ∈ params := by
  have hkeys : ((params.map fun p ↦ (p.1, Json.str p.2)).map Prod.fst).Nodup := by
    rwa [List.map_map]
  rw [paramsJson, Json.field?_object hkeys, Table.lookup_eq_some_iff_mem hkeys]
  simp only [List.mem_map, Prod.mk.injEq, Prod.exists]
  constructor
  · rintro ⟨n, text, hmem, rfl, rfl⟩
    exact ⟨text, rfl, hmem⟩
  · rintro ⟨text, rfl, hmem⟩
    exact ⟨name, text, hmem, rfl, rfl⟩

/-- A call's description fits its request, with whatever headers and time limit. -/
theorem summary_shows {call : Call} (h : (call.params.map Prod.fst).Nodup)
    (headers : List (String × String)) (timeout : Nat) :
    Shows call.summary (call.request headers timeout) where
  method := by rw [field?_summary]; rfl
  url := by rw [field?_summary]; rfl
  content := by
    have hpayload : call.summary.field? "payload" = call.payload.map .ofTable := by
      rw [field?_summary]
      exact Option.join_some
    rw [hpayload, request]
    cases call.payload <;> rfl
  names_nodup := h
  params_eq_nil_iff := by
    rw [field?_params_summary, request]
    cases call.params <;> simp
  mem_params_iff shown hshown name value := by
    rw [field?_params_summary] at hshown
    split at hshown
    · cases hshown
    · rw [Option.some.injEq] at hshown
      rw [← hshown, field?_paramsJson h]
      rfl

end Call

/-! ## Names of parameters -/

theorem Param.fst_of_render?_eq_some {args : Args} {p : Param} {e : String × String}
    (h : p.render? args = some e) : e.1 = p.sentAs := by
  cases p with
  | query arg | text arg name =>
    obtain ⟨t, -, rfl⟩ := Option.map_eq_some_iff.1 h
    rfl
  | textOr arg default =>
    cases h
    rfl

theorem Param.names_renderAll_sublist (args : Args) (params : List Param) :
    ((Param.renderAll args params).map Prod.fst).Sublist (params.map Param.sentAs) := by
  induction params with
  | nil => exact .slnil
  | cons p params ih =>
    rw [Param.renderAll, List.filterMap_cons]
    cases hp : p.render? args with
    | none => exact ih.cons _
    | some e =>
      rw [List.map_cons, List.map_cons, Param.fst_of_render?_eq_some hp]
      exact ih.cons_cons _

/-- Parameters under different names stay under different names, whichever of them are left out. -/
theorem Operation.names_params_nodup {op : Operation}
    (h : ((op.query.getD []).map Param.sentAs).Nodup) (args : Args) :
    ((op.params args).map Prod.fst).Nodup := by
  rw [Operation.params]
  cases hquery : op.query with
  | none => exact .nil
  | some params =>
    rw [hquery] at h
    exact h.sublist (Param.names_renderAll_sublist args params)

namespace Catalog

/-- No operation of the catalog sends two parameters under one name. -/
theorem sentAs_nodup : ∀ c ∈ all, ∀ e ∈ c.operations.entries,
    ((e.2.query.getD []).map Param.sentAs).Nodup := by decide +kernel

theorem dry_run_notMem_reads : ∀ c ∈ all, "dry_run" ∉ c.reads := by decide +kernel

theorem names_params_nodup {c : Connector} (hc : c ∈ all) {base : Option String} {args : Args}
    {call : Call} (h : c.prepare base args = .ok call) : (call.params.map Prod.fst).Nodup := by
  obtain ⟨name, op, haccept, rfl⟩ := Connector.prepare_eq_ok_iff.1 h
  have hop : (name, op) ∈ c.operations.entries :=
    Table.get?_eq_some_iff.1 (Connector.accept_eq_ok_iff.1 haccept).2.1
  exact Operation.names_params_nodup (sentAs_nodup c hc _ hop) args

end Catalog

/-! ## The two runs -/

theorem Connector.isDryRun_insert (args : Args) :
    Connector.isDryRun (args.insert "dry_run" (.bool true)) = true := by
  simp [Connector.isDryRun, Args.flag]

theorem Connector.isDryRun_without (args : Args) :
    Connector.isDryRun (args.without "dry_run") = false := by
  simp [Connector.isDryRun, Args.flag, Args.get?_without]

/-- **A dry run shows what the live run sends.** Either both are refused alike and nothing is sent,
or the dry run answers with a description, again sending nothing, and of the live run, if it gets
past authorization, the description fits the one request that is sent from then on. -/
theorem dry_run_shows_last_request {c : Connector} (hc : c ∈ Catalog.all) {σ : Type}
    (client : Client σ) (options : CallOptions) (now : Int) (args : Args)
    (s : σ × List Exchange) :
    let shown := c.run (recorded client) options now (args.insert "dry_run" (.bool true)) s
    let live := c.run (recorded client) options now (args.without "dry_run") s
    (∃ refusal : Refusal, shown = (refusal.envelope, s) ∧ live = (refusal.envelope, s)) ∨
      ∃ preview call, shown = (.ok (.object [("preview", preview)]) none, s) ∧
        shown.1.isError = false ∧ c.prepare options.base (args.without "dry_run") = .ok call ∧
        ∀ headers after,
          call.credentials.authorize (recorded client) options.timeout now s
            = (.ok headers, after) →
          ∃ last, live.2.2 = after.2 ++ [last] ∧ Shows preview last.request := by
  intro shown live
  -- The two sets of arguments differ in the flag only, and no call looks at it.
  have hreads : ∀ k ∈ c.reads,
      (args.insert "dry_run" (.bool true)).get? k = (args.without "dry_run").get? k := by
    intro k hk
    have hne : k ≠ "dry_run" := fun h ↦ Catalog.dry_run_notMem_reads c hc (h ▸ hk)
    rw [Args.get?_insert, Args.get?_without, if_neg hne, if_neg hne]
  have hsame : c.prepare options.base (args.insert "dry_run" (.bool true))
      = c.prepare options.base (args.without "dry_run") := Connector.prepare_congr hreads _
  cases hprepare : c.prepare options.base (args.without "dry_run") with
  | error refusal =>
    refine .inl ⟨refusal, ?_, ?_⟩
    · exact congrFun (Connector.run_of_refused (hsame.trans hprepare)) s
    · exact congrFun (Connector.run_of_refused hprepare) s
  | ok call =>
    have hshown : shown = (.ok call.preview none, s) := congrFun
      (Connector.run_of_dryRun (hsame.trans hprepare) (Connector.isDryRun_insert args)) s
    refine .inr ⟨call.summary, call, hshown, ?_, rfl, fun headers after hauth ↦ ?_⟩
    · rw [hshown]
      rfl
    · -- Past authorization, exactly one request is left to be sent: the one for this call.
      have hlive : live = c.handling.execute (recorded client)
          (call.request headers options.timeout) after := by
        rw [← Connector.proceed, ← Connector.send_of_authorize hauth,
          ← Connector.run_of_live hprepare (Connector.isDryRun_without args)]
      refine ⟨_, congrArg (·.2.2) hlive, ?_⟩
      exact Call.summary_shows (Catalog.names_params_nodup hc hprepare) headers options.timeout

/-- The arguments for the issues of a project under two labels. -/
def issueList : Args :=
  ⟨.ofList [("operation", .str "list_issues"), ("project_id", .str "group/app"),
    ("private_token", .str "secret"), ("labels", .arr [.str "bug", .str "ui"])]⟩

theorem dry_run_shows_issue_list :
    Catalog.GitLab.connector ∈ Catalog.all ∧
      ∃ preview last,
        Catalog.GitLab.connector.run (recorded Http.Script.client) {} 0
            (issueList.insert "dry_run" (.bool true)) (.start [.ok ⟨200, "[]"⟩], [])
          = (.ok (.object [("preview", preview)]) none, (.start [.ok ⟨200, "[]"⟩], [])) ∧
        (Catalog.GitLab.connector.run (recorded Http.Script.client) {} 0
            (issueList.without "dry_run") (.start [.ok ⟨200, "[]"⟩], [])).2.2 = [last] ∧
        Shows preview last.request ∧
        last.request.url = "https://gitlab.com/api/v4/projects/group%2Fapp/issues" ∧
        last.request.params = [("labels", "bug,ui")] := by
  have hc : Catalog.GitLab.connector ∈ Catalog.all := by simp [Catalog.all]
  have hcredentials : ((Catalog.GitLab.connector.prepare none
      (issueList.without "dry_run")).toOption.map (·.credentials)) = some (.bearer "secret") := by
    decide +kernel
  have hrequests : (Catalog.GitLab.connector.run (recorded Http.Script.client) {} 0
      (issueList.without "dry_run") (.start [.ok ⟨200, "[]"⟩], [])).2.2.map
        (fun e ↦ (e.request.url, e.request.params))
      = [("https://gitlab.com/api/v4/projects/group%2Fapp/issues", [("labels", "bug,ui")])] := by
    decide +kernel
  refine ⟨hc, ?_⟩
  rcases dry_run_shows_last_request hc Http.Script.client {} 0 issueList
    (.start [.ok ⟨200, "[]"⟩], []) with
    ⟨refusal, -, hlive⟩ | ⟨preview, call, hshown, -, hcall, hlast⟩
  · rw [hlive] at hrequests
    cases hrequests
  · rw [hcall, Except.toOption, Option.map_some, Option.some.injEq] at hcredentials
    obtain ⟨last, hsent, hshows⟩ := hlast _ _ (by rw [hcredentials]; rfl)
    rw [hsent] at hrequests
    simp only [List.nil_append, List.map_cons, List.map_nil, List.cons.injEq, Prod.mk.injEq,
      and_true] at hrequests
    exact ⟨preview, last, hshown, hsent, hshows, hrequests⟩

end ServiceCall

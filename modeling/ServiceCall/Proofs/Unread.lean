import ServiceCall.Catalog
import ServiceCall.Proofs.Reads

/-!
# Arguments that nobody looks at

A caller may hand over more than a call needs. Every service has a list of the names that its
description mentions (`Connector.reads`), and what stands under any other name makes no difference:
not for the call that is prepared, and not for the run, which apart from the call looks at the flag
of a dry run only.

## Objects that are merged

A body may take over the entries of an object that the caller supplies. Their keys are names, too,
but of entries and not of arguments. The example at the end has one and the same name on both
sides.
-/

namespace ServiceCall

open Http (Client)

namespace Connector

variable {c : Connector} {a b : Args}

/-- A run depends on what a call reads, and on the flag of a dry run. -/
theorem run_congr (h : ∀ k ∈ c.reads, a.get? k = b.get? k)
    (hflag : a.get? "dry_run" = b.get? "dry_run") {σ : Type} (client : Client σ)
    (options : CallOptions) (now : Int) :
    c.run client options now a = c.run client options now b := by
  have hprepare : c.prepare options.base a = c.prepare options.base b :=
    prepare_congr h options.base
  have hdry : isDryRun a = isDryRun b := Args.flag_congr (Args.present?_congr hflag)
  rw [run, run, hprepare, hdry]

end Connector

namespace Args

variable {args : Args} {key k : String}

theorem get?_insert_of_ne (h : k ≠ key) (value : Json) :
    (args.insert key value).get? k = args.get? k := by
  rw [get?_insert, if_neg h]

theorem get?_without_of_ne (h : k ≠ key) : (args.without key).get? k = args.get? k := by
  rw [get?_without, if_neg h]

end Args

/-- **Unknown arguments are ignored.** Of a name that the description of a service does not mention,
it makes no difference what it holds, and whether it holds anything: the same call is prepared, or
refused for the same reason. Unless the name is that of the flag for a dry run, the run is the same,
too, over every client, in what it answers and in what it sends. -/
theorem unread_arguments_are_ignored (c : Connector) (args : Args) {key : String}
    (hkey : key ∉ c.reads) (value : Json) :
    (∀ base, c.prepare base (args.insert key value) = c.prepare base args ∧
        c.prepare base (args.without key) = c.prepare base args) ∧
      (key ≠ "dry_run" →
        ∀ {σ : Type} (client : Client σ) (options : CallOptions) (now : Int),
          c.run client options now (args.insert key value) = c.run client options now args ∧
            c.run client options now (args.without key) = c.run client options now args) := by
  have hne : ∀ k ∈ c.reads, k ≠ key := by
    intro k hk heq
    exact hkey (heq ▸ hk)
  have hinsert : ∀ k ∈ c.reads, (args.insert key value).get? k = args.get? k := fun k hk ↦
    Args.get?_insert_of_ne (hne k hk) value
  have hwithout : ∀ k ∈ c.reads, (args.without key).get? k = args.get? k := fun k hk ↦
    Args.get?_without_of_ne (hne k hk)
  constructor
  · intro base
    exact ⟨Connector.prepare_congr hinsert base, Connector.prepare_congr hwithout base⟩
  · intro hdry σ client options now
    have hflag : "dry_run" ≠ key := Ne.symm hdry
    exact ⟨Connector.run_congr hinsert (Args.get?_insert_of_ne hflag value) client options now,
      Connector.run_congr hwithout (Args.get?_without_of_ne hflag) client options now⟩

/-- A new contact, with a property that has no argument of its own. -/
def contactWithNickname : Args :=
  ⟨.ofList [("operation", .str "create_contact"), ("email", .str "ada@example.com"),
    ("properties", .object [("nickname", .str "Ada")]), ("access_token", .str "t")]⟩

/-- A name among the properties is taken, the same name among the arguments is not. -/
theorem nickname_beside_properties_is_ignored :
    "nickname" ∉ Catalog.HubSpot.connector.reads ∧ "nickname" ≠ "dry_run" ∧
      Catalog.HubSpot.connector.prepare none
          (contactWithNickname.insert "nickname" (.str "Countess"))
        = Catalog.HubSpot.connector.prepare none contactWithNickname ∧
      (Catalog.HubSpot.connector.run Http.Script.client {} 0
          (contactWithNickname.insert "nickname" (.str "Countess"))
          (.start [.ok ⟨201, ""⟩])).2.sent.map (·.content)
        = [.json (.object [("properties", .object [("email", .str "ada@example.com"),
            ("nickname", .str "Ada")])])] := by
  have hkey : "nickname" ∉ Catalog.HubSpot.connector.reads := by decide +kernel
  have hdry : "nickname" ≠ "dry_run" := by decide
  obtain ⟨hprepare, hrun⟩ := unread_arguments_are_ignored Catalog.HubSpot.connector
    contactWithNickname hkey (.str "Countess")
  refine ⟨hkey, hdry, (hprepare none).1, ?_⟩
  rw [(hrun hdry Http.Script.client {} 0).1]
  decide +kernel

end ServiceCall

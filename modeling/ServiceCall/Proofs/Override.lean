import Mathlib.Data.List.DropRight
import ServiceCall.Proofs.Addresses
import ServiceCall.Registry

/-!
# Another base for the addresses of a service

The base of an address is the one part of a call that can be set from outside. It is looked at last,
when all checks are made, and nothing else depends on it: with another base, the same call is
refused, or the same call is made under an address that goes on in the same way
(`override_replaces_base`). This holds although some checks are there for the sake of the base, and
what they ask for is not used when there is another one.

## Slashes at the end

A base from the settings is cut twice, when the settings are looked up and when the address is put
together. Neither cut sees how many slashes there were (`Text.trimEndOf_append`), so the two amount
to one.
-/

namespace ServiceCall

open Http (Client)

/-! ## Slashes -/

def slashes (n : Nat) : String := String.ofList (List.replicate n '/')

namespace Text

variable (c : Char) (s : String)

theorem toList_trimEndOf : (trimEndOf c s).toList = s.toList.rdropWhile (· == c) :=
  String.toList_ofList

theorem trimEndOf_append (n : Nat) :
    trimEndOf c (s ++ String.ofList (List.replicate n c)) = trimEndOf c s := by
  have hcut : ∀ d ∈ List.replicate n c, (d == c) = true := fun d hd ↦
    beq_iff_eq.2 (List.eq_of_mem_replicate hd)
  rw [trimEndOf, String.toList_append, String.toList_ofList, List.reverse_append,
    List.reverse_replicate, List.dropWhile_append_of_pos hcut]
  rfl

theorem trimEndOf_trimEndOf : trimEndOf c (trimEndOf c s) = trimEndOf c s := by
  refine String.toList_inj.1 ?_
  rw [toList_trimEndOf, toList_trimEndOf, List.rdropWhile_idempotent]

theorem getLast?_trimEndOf_ne : (trimEndOf c s).toList.getLast? ≠ some c := by
  intro hlast
  rw [toList_trimEndOf] at hlast
  obtain ⟨hne, hc⟩ := List.mem_getLast?_eq_getLast hlast
  exact List.rdropWhile_last_not _ _ hne (beq_iff_eq.2 hc.symm)

/-- What is cut off is nothing but the character. -/
theorem exists_eq_trimEndOf_append :
    ∃ n, s = trimEndOf c s ++ String.ofList (List.replicate n c) := by
  have hcut : s.toList.rtakeWhile (· == c)
      = List.replicate (s.toList.rtakeWhile (· == c)).length c := by
    refine List.eq_replicate_of_mem fun d hd ↦ ?_
    have hd' := List.mem_rtakeWhile_imp hd
    exact beq_iff_eq.1 hd'
  refine ⟨(s.toList.rtakeWhile (· == c)).length, String.toList_inj.1 ?_⟩
  rw [String.toList_append, String.toList_ofList, toList_trimEndOf, ← hcut,
    List.rdropWhile_append_rtakeWhile]

end Text

/-! ## Settings that name a base -/

/-- What is said of a service. -/
def Settings.serviceSettings (s : Settings) (name : String) : ServiceSettings :=
  (s.services.get? name).getD {}

/-- The settings with another base for one service. -/
def Settings.withBase (s : Settings) (name base : String) : Settings :=
  { s with
    services := s.services.insert name { s.serviceSettings name with base := some base } }

namespace Registry

/-- The registry with another base for one service. -/
def withBase (r : Registry) (name base : String) : Registry :=
  { r with settings := r.settings.withBase name base }

/-- Apart from the base, calls are made as before. -/
theorem options_withBase (r : Registry) (name base : String) :
    (r.withBase name base).options name
      = { r.options name with base := some (Text.trimEndOf '/' base) } := by
  have hget : (r.settings.withBase name base).services.get? name
      = some { r.settings.serviceSettings name with base := some base } :=
    Table.get?_insert_self ..
  simp only [options, withBase, Settings.timeoutFor, Settings.baseFor?, hget, Option.bind_some,
    Option.map_some, CallOptions.mk.injEq, and_true]
  rw [Settings.serviceSettings, Settings.withBase]
  cases r.settings.services.get? name <;> rfl

theorem options_withBase_append (r : Registry) (name base : String) (n : Nat) :
    (r.withBase name (base ++ slashes n)).options name = (r.withBase name base).options name := by
  rw [options_withBase, options_withBase, slashes, Text.trimEndOf_append]

theorem invoke_withBase_append {σ : Type} (r : Registry) (name base : String) (n : Nat)
    (client : Client σ) (lookup : Fallback.Lookup) (now : Int) (args : Args) :
    (r.withBase name (base ++ slashes n)).invoke client lookup now name args
      = (r.withBase name base).invoke client lookup now name args := by
  rw [invoke, invoke, options_withBase_append]
  rfl

end Registry

/-! ## Paths -/

theorem Template.fill_eq_nil_or_head? {args : Args} {t : Template}
    (h : t.head?.all Mark.isSlash = true) :
    fill args t = [] ∨ (fill args t).head? = some '/' := by
  cases t with
  | nil => exact .inl rfl
  | cons m t =>
    cases m with
    | fixed c =>
      have hc : c = '/' := of_decide_eq_true h
      exact .inr (by rw [hc]; rfl)
    | place arg => cases h

namespace Catalog

/-- The paths of the catalog begin with a slash, unless there is nothing to them. -/
theorem head?_path : ∀ c ∈ all, ∀ e ∈ c.operations.entries,
    (Template.ofPieces e.2.path).head?.all Mark.isSlash = true := by
  intro c hc
  simp only [all, List.mem_cons, List.not_mem_nil, or_false] at hc
  rcases hc with rfl | rfl | rfl | rfl | rfl | rfl | rfl
  all_goals exact Table.forall_mem_entries_ofList (by decide +kernel)

theorem renderAll_path {c : Connector} (hc : c ∈ all) {name : String} {op : Operation}
    (hop : c.operations.get? name = some op) (args : Args) :
    Piece.renderAll args op.path = "" ∨
      (Piece.renderAll args op.path).toList.head? = some '/' := by
  have hhead := head?_path c hc (name, op) (Table.get?_eq_some_iff.1 hop)
  rw [← String.toList_eq_nil_iff, ← Template.fill_ofPieces]
  exact Template.fill_eq_nil_or_head? hhead

end Catalog

/-! ## Calls under another base -/

namespace Connector

variable (c : Connector)

/-- What is built under two bases differs in the address alone. -/
theorem build_base (base : Option String) (args : Args) (name : String) (op : Operation) :
    c.build base args name op
      = { c.build none args name op with
          url := c.baseUrl base args ++ Piece.renderAll args op.path } := rfl

theorem prepare_congr_base {base base' : Option String} {args : Args}
    (h : c.baseUrl base args = c.baseUrl base' args) :
    c.prepare base args = c.prepare base' args := by
  rw [prepare_eq_map_accept, prepare_eq_map_accept]
  refine congrArg (fun f ↦ (c.accept args).map f) (funext fun e ↦ ?_)
  rw [build_base, build_base c base', h]

theorem prepare_append_slashes (base : String) (n : Nat) (args : Args) :
    c.prepare (some (base ++ slashes n)) args = c.prepare (some base) args :=
  c.prepare_congr_base (Text.trimEndOf_append '/' base n)

/-- A base from the settings is cut twice, which is the same as once. -/
theorem prepare_withBase (r : Registry) (name base : String) (args : Args) :
    c.prepare ((r.withBase name base).options name).base args = c.prepare (some base) args := by
  rw [Registry.options_withBase]
  -- The settings have cut the base, and the address cuts what they have left.
  exact c.prepare_congr_base (Text.trimEndOf_trimEndOf '/' base)

end Connector

/-- **Another base replaces the base and nothing else.** Whether a call is refused, and for what
reason, does not depend on the base. Of a call that is made, everything but the address stays the
same, and the address is the base, without slashes at its end, followed by one and the same path.
For a service of the catalog that path is empty or begins with a slash. The number of slashes at the
end of a base makes no difference, be it given for the call or named by the settings for all
invocations of the service. -/
theorem override_replaces_base (c : Connector) (args : Args) :
    ((∃ refusal, ∀ base, c.prepare base args = .error refusal) ∨
      ∃ call path, c.prepare none args = .ok call ∧ call.url = c.base.render args ++ path ∧
        (∀ base, ∃ kept n, base = kept ++ slashes n ∧ kept.toList.getLast? ≠ some '/' ∧
          c.prepare (some base) args = .ok { call with url := kept ++ path }) ∧
        (c ∈ Catalog.all → path = "" ∨ path.toList.head? = some '/')) ∧
      (∀ base n, c.prepare (some (base ++ slashes n)) args = c.prepare (some base) args) ∧
      ∀ (r : Registry) (name base : String) (n : Nat),
        c.prepare ((r.withBase name (base ++ slashes n)).options name).base args
            = c.prepare (some base) args ∧
          ∀ {σ : Type} (client : Client σ) (lookup : Fallback.Lookup) (now : Int),
            (r.withBase name (base ++ slashes n)).invoke client lookup now name args
              = (r.withBase name base).invoke client lookup now name args := by
  refine ⟨?_, fun base n ↦ c.prepare_append_slashes base n args, fun r name base n ↦ ⟨?_, ?_⟩⟩
  · -- The checks are made without the base, so they come out the same for all bases.
    cases haccept : c.accept args with
    | error refusal =>
      exact .inl ⟨refusal, fun base ↦ Connector.prepare_eq_error_iff.2 haccept⟩
    | ok e =>
      obtain ⟨name, op⟩ := e
      have hprepare (base : Option String) :
          c.prepare base args = .ok (c.build base args name op) :=
        Connector.prepare_eq_ok_iff.2 ⟨name, op, haccept, rfl⟩
      refine .inr ⟨c.build none args name op, Piece.renderAll args op.path, hprepare none, rfl,
        fun base ↦ ?_, fun hc ↦ ?_⟩
      · obtain ⟨n, hn⟩ := Text.exists_eq_trimEndOf_append '/' base
        exact ⟨Text.trimEndOf '/' base, n, hn, Text.getLast?_trimEndOf_ne '/' base,
          hprepare (some base)⟩
      · exact Catalog.renderAll_path hc (Connector.accept_eq_ok_iff.1 haccept).2.1 args
  · rw [Registry.options_withBase_append, Connector.prepare_withBase]
  · intro σ client lookup now
    exact r.invoke_withBase_append name base n client lookup now args

end ServiceCall

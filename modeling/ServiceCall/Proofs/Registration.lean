import ServiceCall.Proofs.Blanks
import ServiceCall.Proofs.ByteOrder
import ServiceCall.Proofs.LastWrites
import ServiceCall.Registry

/-!
# What registries and tables of operations keep

A registry is filled connector by connector and the table of a service operation by operation. A
name may come more than once, and then what came last under it is kept
(`last_registration_is_kept`).

## Listings

The names are listed in the order of their bytes, each of them once. There is only one such list of
given names (`IsListing.eq_mergeSort`): however a store keeps them, sorting them brings it about.
-/

namespace ServiceCall

open Encoding (utf8 utf8_lt_utf8_iff)

universe u

/-! ## Listings of names -/

/-- Whether the one text stands before the other, or is the same, by their bytes. -/
def byteLe (s t : String) : Bool := decide (utf8 s ≤ utf8 t)

theorem byteLe_iff {s t : String} : byteLe s t = true ↔ s ≤ t := by
  rw [byteLe, decide_eq_true_iff, ← List.not_lt, utf8_lt_utf8_iff, String.not_lt]

/-- The names with the property, each of them once and in the order of their bytes. -/
structure IsListing (P : String → Prop) (names : List String) : Prop where
  ascending : names.Pairwise fun s t ↦ utf8 s < utf8 t
  mem_iff : ∀ name, name ∈ names ↔ P name

namespace IsListing

variable {P : String → Prop} {names stored : List String}

theorem nodup (h : IsListing P names) : names.Nodup := by
  refine h.ascending.imp fun hlt heq ↦ ?_
  exact List.lt_irrefl _ (heq ▸ hlt)

/-- A listing comes about by sorting the names, in whatever order they were stored. -/
theorem eq_mergeSort (h : IsListing P names) (hnodup : stored.Nodup)
    (hstored : ∀ name, name ∈ stored ↔ P name) : names = stored.mergeSort byteLe := by
  have hperm : names.Perm (stored.mergeSort byteLe) := by
    refine List.Perm.trans ?_ (List.mergeSort_perm stored byteLe).symm
    rw [List.perm_ext_iff_of_nodup h.nodup hnodup]
    exact fun name ↦ (h.mem_iff name).trans (hstored name).symm
  have hnames : names.Pairwise fun s t ↦ byteLe s t = true := by
    refine h.ascending.imp fun hlt ↦ byteLe_iff.2 ?_
    exact String.not_lt.1 (String.lt_asymm (utf8_lt_utf8_iff.1 hlt))
  have hsorted : (stored.mergeSort byteLe).Pairwise fun s t ↦ byteLe s t = true := by
    refine List.pairwise_mergeSort (fun s t w hst htw ↦ ?_) (fun s t ↦ ?_) stored
    · exact byteLe_iff.2 (String.le_trans (byteLe_iff.1 hst) (byteLe_iff.1 htw))
    · rw [Bool.or_eq_true, byteLe_iff, byteLe_iff]
      exact String.le_total s t
  exact hperm.eq_of_pairwise
    (fun s t _ _ hst hts ↦ String.le_antisymm (byteLe_iff.1 hst) (byteLe_iff.1 hts))
    hnames hsorted

theorem congr {Q : String → Prop} (h : IsListing P names) (hpq : ∀ name, P name ↔ Q name) :
    IsListing Q names where
  ascending := h.ascending
  mem_iff name := (h.mem_iff name).trans (hpq name)

end IsListing

namespace Table

variable {α : Type u} {t : Table α} {entries : List (String × α)} {name : String}

theorem isListing_keys (t : Table α) : IsListing (fun name ↦ ∃ v, t.get? name = some v) t.keys where
  ascending := t.keys_ascending.imp utf8_lt_utf8_iff.2
  mem_iff _ := mem_keys_iff

/-! ## Entries written one after the other -/

def insertAll (t : Table α) (entries : List (String × α)) : Table α :=
  entries.foldl (fun t e ↦ t.insert e.1 e.2) t

theorem ofList_eq_insertAll (entries : List (String × α)) :
    ofList entries = empty.insertAll entries := rfl

theorem get?_insertAll_eq_some_iff {v : α} :
    (t.insertAll entries).get? name = some v ↔
      IsLast (fun e ↦ e.1 = name) entries (name, v) ∨
        (∀ e ∈ entries, e.1 ≠ name) ∧ t.get? name = some v := by
  have hstep : ∀ (t : Table α) (e : String × α),
      (t.insert e.1 e.2).get? name = if e.1 = name then some e.2 else t.get? name := by
    intro t e
    rw [get?_insert]
    simp only [eq_comm]
  rw [insertAll, foldl_eq_some_iff_of_ite (fun t : Table α ↦ t.get? name) hstep,
    exists_isLast_entry_iff fun _ h ↦ h]

theorem exists_get?_insertAll_iff :
    (∃ v, (t.insertAll entries).get? name = some v) ↔
      name ∈ t.keys ∨ ∃ e ∈ entries, e.1 = name := by
  simp only [get?_insertAll_eq_some_iff, mem_keys_iff]
  by_cases hname : ∃ e ∈ entries, e.1 = name
  · obtain ⟨⟨key, v⟩, hlast⟩ := exists_isLast_iff.2 hname
    obtain rfl : key = name := hlast.holds
    exact iff_of_true ⟨v, .inl hlast⟩ (.inr hname)
  · have hnone : ∀ e ∈ entries, e.1 ≠ name := by
      intro e he heq
      exact hname ⟨e, he, heq⟩
    have hno : ∀ v, ¬ IsLast (fun e ↦ e.1 = name) entries (name, v) := by
      intro v hlast
      exact hname ⟨(name, v), hlast.mem, rfl⟩
    simp only [hno, hname, false_or, or_false, and_iff_right hnone]

theorem isListing_keys_insertAll (t : Table α) (entries : List (String × α)) :
    IsListing (fun name ↦ name ∈ t.keys ∨ ∃ e ∈ entries, e.1 = name)
      (t.insertAll entries).keys :=
  (isListing_keys _).congr fun _ ↦ exists_get?_insertAll_iff

end Table

/-! ## Registries -/

namespace Registry

variable {r : Registry} {cs : List Connector} {name : String} {c : Connector}

theorem connectors_registerAll (r : Registry) (cs : List Connector) :
    (r.registerAll cs).connectors = r.connectors.insertAll (cs.map fun c ↦ (c.name, c)) := by
  induction cs generalizing r with
  | nil => rfl
  | cons c cs ih => exact ih (r.register c)

theorem get_eq_ok_iff : r.get name = .ok c ↔ r.get? name = some c := by
  rw [get]
  cases r.get? name <;> simp

theorem get_eq_error_iff {cause : Failure} :
    r.get name = .error cause ↔ cause = .unknownConnector name ∧ name ∉ r.names := by
  rw [get, names, Table.mem_keys_iff, ← get?]
  cases r.get? name <;> simp [eq_comm]

theorem get_registerAll_eq_ok_iff :
    (r.registerAll cs).get name = .ok c ↔
      IsLast (fun d ↦ d.name = name) cs c ∨ (∀ d ∈ cs, d.name ≠ name) ∧ r.get name = .ok c := by
  have hstep : ∀ (r : Registry) (d : Connector),
      (r.register d).get? name = if d.name = name then some d else r.get? name := by
    intro r d
    rw [get?, connectors_register, Table.get?_insert]
    simp only [eq_comm, get?]
  rw [get_eq_ok_iff, get_eq_ok_iff, registerAll,
    foldl_eq_some_iff_of_ite (fun r : Registry ↦ r.get? name) hstep]
  simp

theorem isListing_names_registerAll (r : Registry) (cs : List Connector) :
    IsListing (fun name ↦ name ∈ r.names ∨ ∃ c ∈ cs, c.name = name) (r.registerAll cs).names := by
  have hkeys := Table.isListing_keys_insertAll r.connectors (cs.map fun c ↦ (c.name, c))
  rw [← connectors_registerAll] at hkeys
  exact hkeys.congr fun name ↦ by simp [names]

end Registry

/-! ## The registry of the catalog -/

/-- The settings say of the service that it is not to be offered. -/
def Settings.Disables (s : Settings) (name : String) : Prop :=
  ∃ service, s.services.get? name = some service ∧ service.enabled = false

theorem Settings.isEnabled_iff {s : Settings} {name : String} :
    s.isEnabled name = true ↔ ¬ s.Disables name := by
  rw [isEnabled, Disables]
  cases s.services.get? name <;> simp

namespace Registry

theorem get_ofCatalog_eq_ok_iff {settings : Settings} {name : String} {c : Connector} :
    (ofCatalog settings).get name = .ok c ↔
      c ∈ Catalog.all ∧ c.name = name ∧ ¬ settings.Disables name := by
  have hstart : (start settings).get name ≠ .ok c := by
    rw [ne_eq, get_eq_ok_iff]
    exact nofun
  -- No two services share a name, so the order in which they are registered does not matter.
  have hunique : ∀ d ∈ Catalog.all.filter fun d ↦ settings.isEnabled d.name,
      ∀ e ∈ Catalog.all.filter fun d ↦ settings.isEnabled d.name,
        d.name = name → e.name = name → d = e := by
    intro d hd e he hdname hename
    exact Catalog.eq_of_name_eq (List.mem_of_mem_filter hd) (List.mem_of_mem_filter he)
      (hdname.trans hename.symm)
  rw [ofCatalog, get_registerAll_eq_ok_iff, isLast_iff_mem hunique, List.mem_filter,
    Settings.isEnabled_iff]
  constructor
  · rintro (⟨⟨hc, hable⟩, rfl⟩ | ⟨-, hget⟩)
    · exact ⟨hc, rfl, hable⟩
    · exact absurd hget hstart
  · rintro ⟨hc, rfl, hable⟩
    exact .inl ⟨⟨hc, hable⟩, rfl⟩

theorem isListing_names_ofCatalog (settings : Settings) :
    IsListing (fun name ↦ name ∈ Catalog.all.map (·.name) ∧ ¬ settings.Disables name)
      (ofCatalog settings).names := by
  refine (isListing_names_registerAll (start settings) _).congr fun name ↦ ?_
  have hstart : (start settings).names = [] := rfl
  simp only [hstart, List.not_mem_nil, false_or, List.mem_filter, Settings.isEnabled_iff,
    List.mem_map]
  constructor
  · rintro ⟨c, ⟨hc, hable⟩, rfl⟩
    exact ⟨⟨c, hc, rfl⟩, hable⟩
  · rintro ⟨⟨c, hc, rfl⟩, hable⟩
    exact ⟨c, ⟨hc, hable⟩, rfl⟩

end Registry

/-- **The last registration is kept, and names are listed in order.** After any connectors have been
registered with a registry, its names are those it had and those of the connectors, in the order of
their bytes, as sorting them from any store gives them. Under a name stands the connector that was
registered last under it, and no connector is found under other names. The same holds of a table of
operations, which is written entry by entry from an empty one. The registry of the catalog offers
those services of the catalog that the settings do not disable. -/
theorem last_registration_is_kept :
    (∀ (r : Registry) (cs : List Connector),
      IsListing (fun name ↦ name ∈ r.names ∨ ∃ c ∈ cs, c.name = name) (r.registerAll cs).names ∧
      (∀ stored : List String, stored.Nodup →
        (∀ name, name ∈ stored ↔ name ∈ r.names ∨ ∃ c ∈ cs, c.name = name) →
        (r.registerAll cs).names = stored.mergeSort byteLe) ∧
      (∀ name c, (r.registerAll cs).get name = .ok c ↔
        IsLast (fun d ↦ d.name = name) cs c ∨ (∀ d ∈ cs, d.name ≠ name) ∧ r.get name = .ok c) ∧
      ∀ name cause, (r.registerAll cs).get name = .error cause ↔
        cause = .unknownConnector name ∧ name ∉ r.names ∧ ∀ c ∈ cs, c.name ≠ name) ∧
    (∀ (operations : Operations) (entries : List (String × Operation)),
      IsListing (fun name ↦ name ∈ operations.keys ∨ ∃ e ∈ entries, e.1 = name)
        (operations.insertAll entries).keys ∧
      (operations.insertAll entries).size = (operations.insertAll entries).keys.length ∧
      (∀ name, (operations.insertAll entries).contains name = true ↔
        name ∈ operations.keys ∨ ∃ e ∈ entries, e.1 = name) ∧
      ∀ name op, (operations.insertAll entries).get? name = some op ↔
        IsLast (fun e ↦ e.1 = name) entries (name, op) ∨
          (∀ e ∈ entries, e.1 ≠ name) ∧ operations.get? name = some op) ∧
    (∀ settings, (Registry.start settings).names = []) ∧ (Table.empty : Operations).keys = [] ∧
    (∀ entries : List (String × Operation), .ofList entries = Table.empty.insertAll entries) ∧
    ∀ settings,
      IsListing (fun name ↦ name ∈ Catalog.all.map (·.name) ∧ ¬ settings.Disables name)
        (Registry.ofCatalog settings).names ∧
      ∀ name c, (Registry.ofCatalog settings).get name = .ok c ↔
        c ∈ Catalog.all ∧ c.name = name ∧ ¬ settings.Disables name := by
  refine ⟨fun r cs ↦ ?_, fun operations entries ↦ ?_, fun settings ↦ rfl, rfl,
    Table.ofList_eq_insertAll, fun settings ↦ ?_⟩
  · have hnames := Registry.isListing_names_registerAll r cs
    refine ⟨hnames, fun stored hnodup hstored ↦ hnames.eq_mergeSort hnodup hstored,
      fun name c ↦ Registry.get_registerAll_eq_ok_iff, fun name cause ↦ ?_⟩
    rw [Registry.get_eq_error_iff, hnames.mem_iff]
    simp
  · have hkeys := Table.isListing_keys_insertAll operations entries
    refine ⟨hkeys, (Table.length_keys _).symm, fun name ↦ ?_,
      fun name op ↦ Table.get?_insertAll_eq_some_iff⟩
    rw [Table.contains_iff_mem_keys, hkeys.mem_iff]
  · exact ⟨Registry.isListing_names_ofCatalog settings,
      fun name c ↦ Registry.get_ofCatalog_eq_ok_iff⟩

/-- The services that are listed if the settings disable none. -/
example : (Registry.ofCatalog {}).names
    = ["bigquery", "gitlab", "google_docs", "gorgias", "hubspot", "servicenow", "zendesk"] := by
  decide +kernel

end ServiceCall

import ServiceCall.Toml.Basic

/-!
# Tables under construction

While a settings file is read, its tables remember how they came about, because that decides what
may still be added. A table that was declared under a header cannot be declared again, nor be
reached by a dotted key from another table; one that only lies on the way to a declared table can
still be declared, once; and one made by a dotted key can only be extended by dotted keys of the
same table.
-/

namespace ServiceCall.Toml

/-- How a table came about. -/
inductive Origin where
  | declared
  /-- It lies on the way to a declared table. -/
  | implied
  | dotted
  deriving DecidableEq

inductive Draft where
  | value (v : Toml)
  | table (origin : Origin) (entries : List (String × Draft))
  /-- Tables declared one after the other under the same header. -/
  | tables (items : List (List (String × Draft)))

namespace Draft

abbrev Entries := List (String × Draft)

/-- Changes what stands under a key, or adds it. -/
def alter (key : String) (f : Option Draft → Option Draft) : Entries → Option Entries
  | [] => (f none).map fun d ↦ [(key, d)]
  | (k, d) :: rest =>
    if k = key then (f (some d)).map fun d ↦ (k, d) :: rest
    else (alter key f rest).map ((k, d) :: ·)

/-- Changes the last of a list. -/
def alterLast {α : Type} (f : α → Option α) : List α → Option (List α)
  | [] => none
  | [x] => (f x).map ([·])
  | x :: xs => (alterLast f xs).map (x :: ·)

/-- Changes the table at the end of a path. Tables that are missing on the way are made, with the
given origin. -/
def descend (making : Origin) (f : Origin → Entries → Option Entries) :
    (path : List String) → Origin → Entries → Option Entries
  | [], origin, entries => f origin entries
  | key :: path, _, entries =>
    alter key (fun
      | none => (descend making f path making []).map (.table making)
      | some (.value _) => none
      | some (.table origin inner) =>
        if making = .dotted ∧ origin = .declared then none
        else (descend making f path origin inner).map (.table origin)
      | some (.tables items) =>
        (alterLast (descend making f path .declared) items).map .tables) entries

/-- Adds a value under a dotted key. -/
def addValue (path : List String) (key : String) (v : Toml) (entries : Entries) : Option Entries :=
  descend .dotted (fun origin inner ↦
    if path ≠ [] ∧ origin ≠ .dotted then none
    else alter key (fun
      | none => some (.value v)
      | some _ => none) inner) path .declared entries

/-- Declares a table. -/
def declare (path : List String) (key : String) (root : Entries) : Option Entries :=
  descend .implied (fun _ ↦ alter key fun
    | none => some (.table .declared [])
    | some (.table .implied inner) => some (.table .declared inner)
    | some _ => none) path .declared root

/-- Declares a further table in a list of tables. -/
def declareNext (path : List String) (key : String) (root : Entries) : Option Entries :=
  descend .implied (fun _ ↦ alter key fun
    | none => some (.tables [[]])
    | some (.tables items) => some (.tables (items ++ [[]]))
    | some _ => none) path .declared root

/-- Adds a value to the table declared last. -/
def addUnder (header path : List String) (key : String) (v : Toml) (root : Entries) :
    Option Entries :=
  descend .implied (fun _ ↦ addValue path key v) header .declared root

/-! ## Finished tables -/

mutual

def finish : Draft → Toml
  | .value v => v
  | .table _ entries => .table (finishEntries entries)
  | .tables items => .list (finishItems items)

def finishEntries : Entries → List (String × Toml)
  | [] => []
  | (k, d) :: rest => (k, finish d) :: finishEntries rest

def finishItems : List Entries → List Toml
  | [] => []
  | entries :: rest => .table (finishEntries entries) :: finishItems rest

end

end Draft

end ServiceCall.Toml

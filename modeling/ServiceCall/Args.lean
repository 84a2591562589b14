import ServiceCall.Check

/-!
# Arguments

The named arguments of one invocation. Nothing is refused here: an argument that is null or blank
reads as one that was left out, and each accessor says which values it understands.
-/

namespace ServiceCall

structure Args where
  table : Table Json

namespace Args

def empty : Args := ⟨.empty⟩

def insert (args : Args) (key : String) (value : Json) : Args := ⟨args.table.insert key value⟩

def get? (args : Args) (key : String) : Option Json := args.table.get? key

def keys (args : Args) : List String := args.table.keys

def toJson (args : Args) : Json := .ofTable args.table

/-- The value under the key, unless it is null or blank. -/
def present? (args : Args) (key : String) : Option Json := (args.get? key).filter Json.isPresent

def isPresent (args : Args) (key : String) : Bool := (args.present? key).isSome

/-- A string argument, as it is. -/
def string? (args : Args) (key : String) : Option String := (args.present? key).bind Json.string?

/-- The text of a scalar argument; identifiers may be given as numbers. -/
def text? (args : Args) (key : String) : Option String :=
  (args.present? key).bind Json.scalarText?

def textOr (args : Args) (key default : String) : String := (args.text? key).getD default

/-- The form of the argument in a query. -/
def query? (args : Args) (key : String) : Option String :=
  (args.present? key).bind Json.queryForm?

/-- A string argument even if it is blank, or the empty string. -/
def verbatim (args : Args) (key : String) : String :=
  ((args.get? key).bind Json.string?).getD ""

/-- A switch: true, a number other than zero, or one of a few words. -/
def flag (args : Args) (key : String) : Bool :=
  match args.get? key with
  | some (.bool b) => b
  | some (.num n) => !n.isZero
  | some (.str s) => ["true", "1", "yes"].contains (Text.asciiLower (Text.trim s))
  | _ => false

/-- Arguments come as an object; null stands for none at all. Of another value only its kind is
told. -/
def ofJson : Json → Except String Args
  | .obj fields => .ok ⟨.ofList fields⟩
  | .null => .ok empty
  | v => .error v.kind

/-! ## What the accessors see -/

theorem ext_get? {a b : Args} (h : ∀ k, a.get? k = b.get? k) : a = b := by
  have := Table.ext_get? h
  cases a
  cases b
  cases this
  rfl

@[simp] theorem get?_insert (args : Args) (key k : String) (value : Json) :
    (args.insert key value).get? k = if k = key then some value else args.get? k :=
  Table.get?_insert ..

theorem present?_eq_some_iff {args : Args} {key : String} {v : Json} :
    args.present? key = some v ↔ args.get? key = some v ∧ v.isPresent = true := by
  simp [present?, Option.filter_eq_some_iff]

theorem isPresent_iff {args : Args} {key : String} :
    args.isPresent key = true ↔ ∃ v, args.get? key = some v ∧ v.isPresent = true := by
  simp [isPresent, Option.isSome_iff_exists, present?_eq_some_iff]

theorem text?_eq_some_iff {args : Args} {key t : String} :
    args.text? key = some t ↔ ∃ v, args.present? key = some v ∧ v.scalarText? = some t := by
  simp [text?, Option.bind_eq_some_iff]

theorem text?_of_present? {args : Args} {key : String} {v : Json}
    (h : args.present? key = some v) : args.text? key = v.scalarText? := by
  rw [text?, h, Option.bind_some]

theorem query?_of_present? {args : Args} {key : String} {v : Json}
    (h : args.present? key = some v) : args.query? key = v.queryForm? := by
  rw [query?, h, Option.bind_some]

theorem isPresent_of_flag {args : Args} {key : String} (h : args.flag key = true) :
    args.isPresent key = true := by
  rw [flag] at h
  rw [isPresent_iff]
  cases hv : args.get? key with
  | none => simp [hv] at h
  | some v =>
    refine ⟨v, rfl, ?_⟩
    cases v with
    | str s =>
      rw [Json.isPresent, Bool.not_eq_true']
      refine Bool.eq_false_iff.2 fun hblank ↦ ?_
      rw [hv] at h
      dsimp only at h
      rw [Text.trim_of_isBlank hblank] at h
      exact absurd h (by decide)
    | null => simp [hv] at h
    | bool _ | num _ | arr _ | obj _ => rfl

/-! ## Tables that hold the same under a key

It is enough that they hold the same when blanks do not count. Only `verbatim` tells a blank text
from none. -/

section Congr

variable {a b : Args} {key : String}

theorem present?_congr (h : a.get? key = b.get? key) : a.present? key = b.present? key := by
  rw [present?, present?, h]

theorem verbatim_congr (h : a.get? key = b.get? key) : a.verbatim key = b.verbatim key := by
  rw [verbatim, verbatim, h]

variable (h : a.present? key = b.present? key)
include h

theorem isPresent_congr : a.isPresent key = b.isPresent key := by rw [isPresent, isPresent, h]

theorem string?_congr : a.string? key = b.string? key := by rw [string?, string?, h]

theorem text?_congr : a.text? key = b.text? key := by rw [text?, text?, h]

theorem textOr_congr (default : String) : a.textOr key default = b.textOr key default := by
  rw [textOr, textOr, text?_congr h]

theorem query?_congr : a.query? key = b.query? key := by rw [query?, query?, h]

theorem flag_of_flag (hflag : a.flag key = true) : b.flag key = true := by
  obtain ⟨v, hv⟩ := Option.isSome_iff_exists.1 (isPresent_of_flag hflag)
  have ha : a.get? key = some v := (present?_eq_some_iff.1 hv).1
  have hb : b.get? key = some v := (present?_eq_some_iff.1 (h ▸ hv)).1
  rwa [flag, hb, ← ha, ← flag]

theorem flag_congr : a.flag key = b.flag key :=
  Bool.eq_iff_iff.2 ⟨flag_of_flag h, flag_of_flag h.symm⟩

end Congr

end Args

end ServiceCall

import ServiceCall.Json.Printer
import ServiceCall.Text.Blank

/-!
# Checks on argument values

What can be asked of a single value: whether it is there at all, whether it has the kind an
operation needs, and how it reads in the query of an address.
-/

namespace ServiceCall.Json

/-- Null and blank strings count as left out. -/
def isPresent : Json → Bool
  | null => false
  | str s => !Text.isBlank s
  | _ => true

def isObject : Json → Bool
  | obj _ => true
  | _ => false

def isNonEmptyList : Json → Bool
  | arr (_ :: _) => true
  | _ => false

/-- A string with something in front of its first at sign and a dot somewhere behind it. -/
def isEmail : Json → Bool
  | str s =>
    let user := s.toList.takeWhile (· ≠ '@')
    let domain := s.toList.dropWhile (· ≠ '@')
    user ≠ [] && '.' ∈ domain
  | _ => false

/-- A text, a number or a truth value. -/
def isScalar : Json → Bool
  | str _ | num _ | bool _ => true
  | _ => false

/-- Whether the value can stand in a query: a scalar, or a list of at least one scalar and nothing
else. -/
def hasQueryForm : Json → Bool
  | arr items => !items.isEmpty && items.all isScalar
  | v => isScalar v

/-- The form of a value in a query: the text of a scalar, or those of a list, joined by commas. -/
def queryForm? : Json → Option String
  | arr [] => none
  | arr items => (items.mapM scalarText?).map (String.intercalate ",")
  | v => v.scalarText?

theorem isScalar_iff {v : Json} : v.isScalar = true ↔ ∃ t, v.scalarText? = some t := by
  cases v <;> simp [isScalar, scalarText?]

theorem all_isScalar_iff {items : List Json} :
    items.all isScalar = true ↔ ∃ ts, items.mapM scalarText? = some ts := by
  induction items with
  | nil => simp
  | cons v items ih =>
    rw [List.all_cons, Bool.and_eq_true, isScalar_iff, ih]
    constructor
    · rintro ⟨⟨t, ht⟩, ts, hts⟩
      exact ⟨t :: ts, by simp [List.mapM_cons, ht, hts]⟩
    · rintro ⟨ts, hts⟩
      simp only [List.mapM_cons, Option.pure_def, Option.bind_eq_bind,
        Option.bind_eq_some_iff, Option.some.injEq] at hts
      obtain ⟨t, ht, us, hus, -⟩ := hts
      exact ⟨⟨t, ht⟩, us, hus⟩

theorem hasQueryForm_iff {v : Json} : v.hasQueryForm = true ↔ ∃ t, v.queryForm? = some t := by
  cases v with
  | arr items =>
    cases items with
    | nil => simp [hasQueryForm, queryForm?]
    | cons x items =>
      have := @all_isScalar_iff (x :: items)
      simp only [hasQueryForm, queryForm?, List.isEmpty_cons, Bool.not_false, Bool.true_and, this]
      constructor
      · rintro ⟨ts, hts⟩
        exact ⟨_, by rw [hts]; rfl⟩
      · rintro ⟨t, ht⟩
        obtain ⟨ts, hts, -⟩ := Option.map_eq_some_iff.1 ht
        exact ⟨ts, hts⟩
  | _ => simp [hasQueryForm, queryForm?, isScalar, scalarText?]

end ServiceCall.Json

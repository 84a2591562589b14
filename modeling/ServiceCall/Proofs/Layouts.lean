import Mathlib.Algebra.Group.Int.Defs
import Mathlib.Data.List.DropRight
import ServiceCall.Proofs.Objects
import ServiceCall.Proofs.Spelling

/-!
# Values read back from any layout

A value is printed in one of two layouts, which differ only in the blanks between the tokens. A
`Json.Layout` is any such printer: it says what stands before the entries of a container and behind
the colon of a field, and how these make up the text of a container. Reading does not see the
blanks, so one proof covers both layouts (`Json.Layout.reads_text`).

## Which values come back

Not every value does. A text has no more than one number for each integer, but integers beyond
sixty-four bits come back as doubles; fields come back in ascending order and once each; containers
below the deepest level are refused. `Json.fits` excludes just these. It excludes doubles as well,
whose digits are another matter.

## Depth

The reader counts down the levels that are still allowed, the printer counts up those it has
entered, and the two have nothing to do with each other: the induction is on the levels still
allowed, for all depths at which the value may be printed.
-/

namespace ServiceCall.Json

/-! ## Values that come back -/

/-- Integers of sixty-four bits, with or without a sign. -/
def isWord64 (i : Int) : Bool := -(2 ^ 63) ≤ i && i < 2 ^ 64

/-- The keys stand in ascending order, none twice. -/
def isAscending (fields : List (String × Json)) : Bool :=
  decide (fields.Pairwise fun a b ↦ a.1 < b.1)

/-- The value has no doubles, its integers have sixty-four bits, its fields are in order, and its
containers are nested at most so many levels deep. -/
def fits : (levels : Nat) → Json → Bool
  | _, null | _, bool _ | _, str _ => true
  | _, num (.int i) => isWord64 i
  | _, num (.real _) => false
  | 0, arr _ | 0, obj _ => false
  | levels + 1, arr items => items.all (fits levels)
  | levels + 1, obj fields => isAscending fields && fields.all fun e ↦ fits levels e.2

/-! ## Layouts -/

/-- What stands behind the first entry of a container: the others, each with its comma, and the
end. -/
def remainder (before last : List Char) (closing : Char) (ts : List (List Char)) : List Char :=
  (ts.flatMap fun t ↦ ',' :: before ++ t) ++ last ++ [closing]

/-- The text of a container whose entries have these texts. -/
def container (opening closing : Char) (before last : List Char) : List (List Char) → List Char
  | [] => [opening, closing]
  | t :: ts => opening :: before ++ t ++ remainder before last closing ts

def fieldText (pad : List Char) (text : Json → List Char) (e : String × Json) : List Char :=
  quoteText e.1 ++ ':' :: pad ++ text e.2

/-- A printer that is free in its blanks and in nothing else. -/
structure Layout where
  /-- The text of a value that stands so many levels deep. -/
  text : Nat → Json → List Char
  /-- What stands before an entry, or before a closing mark, at some depth. -/
  line : Nat → List Char
  /-- What stands between a colon and its value. -/
  pad : List Char
  isGap_of_mem_line : ∀ depth, ∀ c ∈ line depth, isGap c = true
  isGap_of_mem_pad : ∀ c ∈ pad, isGap c = true
  text_null : ∀ depth, text depth null = ['n', 'u', 'l', 'l']
  text_true : ∀ depth, text depth (bool true) = ['t', 'r', 'u', 'e']
  text_false : ∀ depth, text depth (bool false) = ['f', 'a', 'l', 's', 'e']
  text_num : ∀ depth n, text depth (num n) = n.text
  text_str : ∀ depth s, text depth (str s) = quoteText s
  text_arr : ∀ depth items, text depth (arr items) =
    container '[' ']' (line (depth + 1)) (line depth) (items.map (text (depth + 1)))
  text_obj : ∀ depth fields, text depth (obj fields) =
    container '\x7b' '\x7d' (line (depth + 1)) (line depth)
      (fields.map (fieldText pad (text (depth + 1))))

theorem compactItems_eq (items : List Json) :
    compactItems items = items.flatMap fun x ↦ ',' :: compactText x := by
  induction items with
  | nil => rw [compactItems, List.flatMap_nil]
  | cons x items ih => rw [compactItems, ih, List.flatMap_cons]

theorem compactFields_eq (fields : List (String × Json)) :
    compactFields fields
      = fields.flatMap fun e ↦ ',' :: quoteText e.1 ++ ':' :: compactText e.2 := by
  induction fields with
  | nil => rw [compactFields, List.flatMap_nil]
  | cons e fields ih => rw [compactFields, ih, List.flatMap_cons]

theorem indentedItems_eq (depth : Nat) (items : List Json) :
    indentedItems depth items
      = items.flatMap fun x ↦ ',' :: newLine depth ++ indentedText depth x := by
  induction items with
  | nil => rw [indentedItems, List.flatMap_nil]
  | cons x items ih => rw [indentedItems, ih, List.flatMap_cons]

theorem indentedFields_eq (depth : Nat) (fields : List (String × Json)) :
    indentedFields depth fields = fields.flatMap fun e ↦
      ',' :: newLine depth ++ quoteText e.1 ++ ':' :: ' ' :: indentedText depth e.2 := by
  induction fields with
  | nil => rw [indentedFields, List.flatMap_nil]
  | cons e fields ih => rw [indentedFields, ih, List.flatMap_cons]

theorem isGap_of_mem_newLine (depth : Nat) : ∀ c ∈ newLine depth, isGap c = true := by
  intro c hc
  rcases List.mem_cons.1 hc with rfl | hspace
  · rfl
  · rw [List.eq_of_mem_replicate hspace]
    rfl

namespace Layout

def compact : Layout where
  text _ := compactText
  line _ := []
  pad := []
  isGap_of_mem_line _ c hc := by cases hc
  isGap_of_mem_pad c hc := by cases hc
  text_null _ := by rw [compactText]
  text_true _ := by rw [compactText]
  text_false _ := by rw [compactText]
  text_num _ n := by rw [compactText]
  text_str _ s := by rw [compactText]
  text_arr _ items := by
    cases items with
    | nil => rw [compactText, List.map_nil, container]
    | cons x items =>
      rw [compactText, compactItems_eq, List.map_cons, container, remainder, List.flatMap_map]
      simp only [List.append_nil, List.nil_append, List.cons_append, List.append_assoc]
  text_obj _ fields := by
    cases fields with
    | nil => rw [compactText, List.map_nil, container]
    | cons e fields =>
      rw [compactText, compactFields_eq, List.map_cons, container, remainder, List.flatMap_map]
      simp only [fieldText, List.nil_append, List.cons_append, List.append_assoc]

def indented : Layout where
  text := indentedText
  line := newLine
  pad := [' ']
  isGap_of_mem_line := isGap_of_mem_newLine
  isGap_of_mem_pad c hc := by
    rw [List.mem_singleton.1 hc]
    rfl
  text_null _ := by rw [indentedText]
  text_true _ := by rw [indentedText]
  text_false _ := by rw [indentedText]
  text_num _ n := by rw [indentedText]
  text_str _ s := by rw [indentedText]
  text_arr _ items := by
    cases items with
    | nil => rw [indentedText, List.map_nil, container]
    | cons x items =>
      rw [indentedText, indentedItems_eq, List.map_cons, container, remainder, List.flatMap_map]
      simp only [List.cons_append, List.append_assoc]
  text_obj _ fields := by
    cases fields with
    | nil => rw [indentedText, List.map_nil, container]
    | cons e fields =>
      rw [indentedText, indentedFields_eq, List.map_cons, container, remainder, List.flatMap_map]
      simp only [fieldText, List.nil_append, List.cons_append, List.append_assoc]

end Layout

/-! ## Blanks are skipped -/

section Gaps

variable {gaps : List Char} (hgaps : ∀ c ∈ gaps, isGap c = true)

include hgaps

theorem skipGaps_append (cs : List Char) : skipGaps (gaps ++ cs) = skipGaps cs :=
  List.dropWhile_append_of_pos hgaps

theorem endsNumber_append {cs : List Char} (h : EndsNumber cs) : EndsNumber (gaps ++ cs) := by
  cases gaps with
  | nil => exact h
  | cons c gaps =>
    have hc : isGap c = true := hgaps c List.mem_cons_self
    simp only [isGap, Bool.or_eq_true, decide_eq_true_eq] at hc
    rcases hc with ((rfl | rfl) | rfl) | rfl
    all_goals exact endsNumber_cons rfl _

end Gaps

theorem skipGaps_cons {c : Char} (h : isGap c = false) (cs : List Char) :
    skipGaps (c :: cs) = c :: cs := by
  rw [skipGaps, List.dropWhile_cons, h]
  rfl

theorem skipGaps_skipGaps (cs : List Char) : skipGaps (skipGaps cs) = skipGaps cs :=
  List.dropWhile_idempotent isGap cs

/-- A value depends on the text from its first character on. -/
theorem value_congr {cs cs' : List Char} (h : skipGaps cs = skipGaps cs') (d : Nat) :
    value d cs = value d cs' := by
  rw [value.eq_def, value.eq_def d cs', h]

theorem value_skipGaps (d : Nat) (cs : List Char) : value d (skipGaps cs) = value d cs :=
  value_congr (skipGaps_skipGaps cs) d

theorem value_append {gaps : List Char} (hgaps : ∀ c ∈ gaps, isGap c = true) (d : Nat)
    (cs : List Char) : value d (gaps ++ cs) = value d cs :=
  value_congr (skipGaps_append hgaps cs) d

/-! ## Scalars -/

/-- Whatever follows the text, the reader takes the text and nothing more. -/
def Reads {α : Type} (r : Reader α) (text : List Char) (a : α) : Prop :=
  ∀ rest, EndsNumber rest → r (text ++ rest) = .ok (a, rest)

theorem Reads.value_append {d : Nat} {text gaps more : List Char} {v : Json}
    (h : Reads (value d) text v) (hgaps : ∀ c ∈ gaps, isGap c = true) (hmore : EndsNumber more) :
    value d (gaps ++ (text ++ more)) = .ok (v, more) := by
  rw [Json.value_append hgaps, h more hmore]

theorem reads_null (d : Nat) : Reads (value d) ['n', 'u', 'l', 'l'] null := by
  intro rest _
  cases d <;> rfl

theorem reads_true (d : Nat) : Reads (value d) ['t', 'r', 'u', 'e'] (bool true) := by
  intro rest _
  cases d <;> rfl

theorem reads_false (d : Nat) : Reads (value d) ['f', 'a', 'l', 's', 'e'] (bool false) := by
  intro rest _
  cases d <;> rfl

theorem quoteText_append (s : String) (rest : List Char) :
    quoteText s ++ rest = '"' :: (s.toList.flatMap escapeChar ++ '"' :: rest) := by
  rw [quoteText, List.cons_append, List.cons_append, List.append_assoc, List.singleton_append]

theorem reads_str (d : Nat) (s : String) : Reads (value d) (quoteText s) (str s) := by
  intro rest _
  have hquote (cs : List Char) : value d ('"' :: cs) = (string cs).map fun r ↦ (str r.1, r.2) := by
    cases d <;> rfl
  rw [quoteText_append, hquote, string_flatMap_escapeChar]
  rfl

theorem ne_of_isDigit {c e : Char} (hc : c.isDigit = true) (he : e.isDigit = false) : c ≠ e := by
  rintro rfl
  exact absurd hc (he ▸ Bool.false_ne_true)

theorem isGap_of_isDigit {c : Char} (h : c.isDigit = true) : isGap c = false := by
  rw [isGap, decide_eq_false (ne_of_isDigit h rfl), decide_eq_false (ne_of_isDigit h rfl),
    decide_eq_false (ne_of_isDigit h rfl), decide_eq_false (ne_of_isDigit h rfl)]
  rfl

theorem value_digit {c : Char} (h : c.isDigit = true) (d : Nat) (cs : List Char) :
    value d (c :: cs) = (number false (c :: cs)).map fun r ↦ (num r.1, r.2) := by
  rw [value.eq_def, skipGaps_cons (isGap_of_isDigit h)]
  simp only [if_neg (ne_of_isDigit (e := 'n') h rfl), if_neg (ne_of_isDigit (e := 't') h rfl),
    if_neg (ne_of_isDigit (e := 'f') h rfl), if_neg (ne_of_isDigit (e := '-') h rfl), if_pos h]

theorem reads_digits (d : Nat) {n : Nat} (h : n ≤ maxWord64) :
    Reads (value d) (Number.digits n) (num (.int n)) := by
  intro rest hrest
  have hnumber := number_digits false h hrest
  obtain ⟨c, ds, hdigits, -⟩ := exists_digits_eq_cons n
  have hc : c.isDigit = true := isDigit_of_mem_digits (hdigits ▸ List.mem_cons_self)
  rw [hdigits, List.cons_append] at hnumber ⊢
  rw [value_digit hc, hnumber]
  rfl

theorem reads_intText (d : Nat) {i : Int} (h : isWord64 i = true) :
    Reads (value d) (Number.intText i) (num (.int i)) := by
  rw [isWord64, Bool.and_eq_true, decide_eq_true_eq, decide_eq_true_eq] at h
  have hmax : maxWord64 = 2 ^ 64 - 1 := rfl
  rw [Number.intText]
  by_cases hneg : i < 0
  · intro rest hrest
    have hnumber := number_digits true (n := i.natAbs) (by omega) hrest
    have hinteger : integer true i.natAbs = .int i := by
      have hpow : Nat.pow 2 63 = 2 ^ 63 := rfl
      rw [integer, hpow, decide_eq_true (by omega), decide_eq_true (by omega)]
      exact congrArg Number.int (by omega)
    have hminus (cs : List Char) :
        value d ('-' :: cs) = (number true cs).map fun r ↦ (num r.1, r.2) := by
      cases d <;> rfl
    rw [if_pos hneg, List.cons_append, hminus, hnumber, hinteger]
    rfl
  · have hnat : (i.natAbs : Int) = i := by omega
    have hdigits := reads_digits d (n := i.natAbs) (by omega)
    rw [hnat] at hdigits
    rw [if_neg hneg]
    exact hdigits

/-! ## Lists -/

section Containers

variable {before last : List Char} {closing : Char}

theorem container_append (opening : Char) (t : List Char) (ts : List (List Char))
    (rest : List Char) :
    container opening closing before last (t :: ts) ++ rest
      = opening :: (before ++ (t ++ (remainder before last closing ts ++ rest))) := by
  simp only [container, List.append_assoc, List.cons_append]

theorem remainder_nil_append (rest : List Char) :
    remainder before last closing [] ++ rest = last ++ closing :: rest := by
  simp only [remainder, List.flatMap_nil, List.nil_append, List.append_assoc, List.cons_append]

theorem remainder_cons_append (t : List Char) (ts : List (List Char)) (rest : List Char) :
    remainder before last closing (t :: ts) ++ rest
      = ',' :: (before ++ (t ++ (remainder before last closing ts ++ rest))) := by
  simp only [remainder, List.flatMap_cons, List.append_assoc, List.cons_append]

theorem endsNumber_remainder (before : List Char) (hlast : ∀ c ∈ last, isGap c = true)
    (hclosing : continuesNumber closing = false) (ts : List (List Char)) (rest : List Char) :
    EndsNumber (remainder before last closing ts ++ rest) := by
  cases ts with
  | nil =>
    rw [remainder_nil_append]
    exact endsNumber_append hlast (endsNumber_cons hclosing rest)
  | cons t ts =>
    rw [remainder_cons_append]
    exact endsNumber_cons rfl _

theorem continuesNumber_bracket : continuesNumber ']' = false := rfl

theorem continuesNumber_brace : continuesNumber '\x7d' = false := rfl

/-- There are fewer entries than characters in their texts. -/
theorem length_lt_length_remainder (before last : List Char) (closing : Char)
    (ts : List (List Char)) :
    ts.length < (remainder before last closing ts).length := by
  have hflat : ts.length ≤ (ts.flatMap fun t ↦ ',' :: before ++ t).length := by
    induction ts with
    | nil => exact Nat.le_refl 0
    | cons t ts ih =>
      rw [List.flatMap_cons, List.length_append, List.cons_append, List.length_cons,
        List.length_cons]
      omega
  rw [remainder, List.length_append, List.length_append, List.length_singleton]
  omega

end Containers

theorem value_bracket (d : Nat) (cs : List Char) :
    value (d + 1) ('[' :: cs)
      = (itemsFrom (value d) (cs.length + 1) true [] cs).map fun r ↦ (arr r.1, r.2) := rfl

/-- A value that is read starts with neither a blank nor a closing bracket. -/
theorem skipGaps_of_value {d : Nat} {cs : List Char} {r : Json × List Char}
    (h : value d cs = .ok r) : ∃ c rest, skipGaps cs = c :: rest ∧ c ≠ ']' := by
  cases hcs : skipGaps cs with
  | nil =>
    have hempty : value d cs = value d [] := value_congr hcs d
    rw [hempty] at h
    cases d <;> cases h
  | cons c rest =>
    refine ⟨c, rest, rfl, ?_⟩
    rintro rfl
    have hclosed : value d cs = value d (']' :: rest) := value_congr hcs d
    rw [hclosed] at h
    cases d <;> cases h

theorem nextItem_first {d : Nat} {cs : List Char} {r : Json × List Char}
    (h : value d cs = .ok r) : nextItem true cs = .ok (some (skipGaps cs), []) := by
  obtain ⟨c, rest, hcs, hc⟩ := skipGaps_of_value h
  simp [nextItem, hcs]

theorem nextItem_comma {d : Nat} {cs : List Char} {r : Json × List Char}
    (h : value d cs = .ok r) : nextItem false (',' :: cs) = .ok (some (skipGaps cs), []) := by
  obtain ⟨c, rest, hcs, hc⟩ := skipGaps_of_value h
  simp [nextItem, skipGaps_cons (c := ',') rfl, hcs, hc]

theorem nextItem_close (first : Bool) {last : List Char} (hlast : ∀ c ∈ last, isGap c = true)
    (rest : List Char) : nextItem first (last ++ ']' :: rest) = .ok (none, rest) := by
  rw [nextItem, skipGaps_append hlast, skipGaps_cons rfl]
  rfl

section Items

variable {d : Nat} {before last : List Char} (hbefore : ∀ c ∈ before, isGap c = true)
  (hlast : ∀ c ∈ last, isGap c = true) {text : Json → List Char}

include hbefore hlast

theorem itemsFrom_remainder {items : List Json} (h : ∀ x ∈ items, Reads (value d) (text x) x)
    {bound : Nat} (hbound : items.length < bound) (done : List Json) (rest : List Char) :
    itemsFrom (value d) bound false done (remainder before last ']' (items.map text) ++ rest)
      = .ok (done.reverse ++ items, rest) := by
  induction items generalizing bound done with
  | nil =>
    obtain ⟨bound, rfl⟩ := Nat.exists_eq_add_one.2 hbound
    rw [List.map_nil, remainder_nil_append, itemsFrom, nextItem_close false hlast, List.append_nil]
  | cons x items ih =>
    obtain ⟨bound, rfl⟩ := Nat.exists_eq_add_one.2 (Nat.zero_lt_of_lt hbound)
    have hread := (h x List.mem_cons_self).value_append hbefore
      (endsNumber_remainder before hlast continuesNumber_bracket (items.map text) rest)
    rw [List.map_cons, remainder_cons_append, itemsFrom, nextItem_comma hread]
    simp only [value_skipGaps, hread]
    rw [ih (fun y hy ↦ h y (List.mem_cons_of_mem x hy)) (Nat.lt_of_succ_lt_succ hbound),
      List.reverse_cons, List.append_assoc, List.singleton_append]

theorem reads_arr {items : List Json} (h : ∀ x ∈ items, Reads (value d) (text x) x) :
    Reads (value (d + 1)) (container '[' ']' before last (items.map text)) (arr items) := by
  intro rest _
  cases items with
  | nil =>
    rw [List.map_nil, container, List.cons_append, value_bracket]
    rfl
  | cons x items =>
    have hread := (h x List.mem_cons_self).value_append hbefore
      (endsNumber_remainder before hlast continuesNumber_bracket (items.map text) rest)
    have hlength : items.length < (before ++ (text x ++
        (remainder before last ']' (items.map text) ++ rest))).length := by
      have hitems := length_lt_length_remainder before last ']' (items.map text)
      rw [List.length_map] at hitems
      simp only [List.length_append]
      omega
    -- No comma stands before the first item, so it takes a step of its own.
    rw [List.map_cons, container_append, value_bracket, itemsFrom, nextItem_first hread]
    simp only [value_skipGaps, hread]
    rw [itemsFrom_remainder hbefore hlast (fun y hy ↦ h y (List.mem_cons_of_mem x hy)) hlength]
    rfl

end Items

/-! ## Objects -/

theorem fieldText_append (pad : List Char) (text : Json → List Char) (e : String × Json)
    (cs : List Char) :
    fieldText pad text e ++ cs = quoteText e.1 ++ ':' :: (pad ++ (text e.2 ++ cs)) := by
  simp only [fieldText, List.append_assoc, List.cons_append]

theorem colon_cons (cs : List Char) : colon (':' :: cs) = .ok cs := by
  rw [colon, skipGaps_cons rfl]
  rfl

section Keys

variable {gaps : List Char} (hgaps : ∀ c ∈ gaps, isGap c = true)

include hgaps

theorem nextKey_first (k : String) (cs : List Char) :
    nextKey true (gaps ++ (quoteText k ++ cs)) = .ok (some k, cs) := by
  rw [nextKey, skipGaps_append hgaps, quoteText_append, skipGaps_cons rfl]
  change (string _).map _ = _
  rw [string_flatMap_escapeChar]
  rfl

theorem nextKey_comma (k : String) (cs : List Char) :
    nextKey false (',' :: (gaps ++ (quoteText k ++ cs))) = .ok (some k, cs) := by
  have hkey : skipGaps (gaps ++ (quoteText k ++ cs))
      = '"' :: (k.toList.flatMap escapeChar ++ '"' :: cs) := by
    rw [skipGaps_append hgaps, quoteText_append, skipGaps_cons rfl]
  simp [nextKey, skipGaps_cons (c := ',') rfl, hkey, string_flatMap_escapeChar, Except.map]

theorem nextKey_close (first : Bool) (rest : List Char) :
    nextKey first (gaps ++ '\x7d' :: rest) = .ok (none, rest) := by
  rw [nextKey, skipGaps_append hgaps, skipGaps_cons rfl]
  rfl

end Keys

theorem value_brace (d : Nat) (cs : List Char) :
    value (d + 1) ('\x7b' :: cs)
      = (fieldsFrom (value d) (cs.length + 1) true .empty cs).map fun r ↦ (ofTable r.1, r.2) := rfl

section Fields

variable {d : Nat} {before last pad : List Char} (hbefore : ∀ c ∈ before, isGap c = true)
  (hlast : ∀ c ∈ last, isGap c = true) (hpad : ∀ c ∈ pad, isGap c = true)
  {text : Json → List Char}

include hbefore hlast hpad

theorem fieldsFrom_remainder {fields : List (String × Json)}
    (h : ∀ e ∈ fields, Reads (value d) (text e.2) e.2) {bound : Nat}
    (hbound : fields.length < bound) (done : Table Json) (rest : List Char) :
    fieldsFrom (value d) bound false done
        (remainder before last '\x7d' (fields.map (fieldText pad text)) ++ rest)
      = .ok (fields.foldl (fun t e ↦ t.insert e.1 e.2) done, rest) := by
  induction fields generalizing bound done with
  | nil =>
    obtain ⟨bound, rfl⟩ := Nat.exists_eq_add_one.2 hbound
    rw [List.map_nil, remainder_nil_append, fieldsFrom, nextKey_close hlast, List.foldl_nil]
  | cons e fields ih =>
    obtain ⟨bound, rfl⟩ := Nat.exists_eq_add_one.2 (Nat.zero_lt_of_lt hbound)
    have hread := (h e List.mem_cons_self).value_append hpad
      (endsNumber_remainder before hlast continuesNumber_brace (fields.map (fieldText pad text))
        rest)
    rw [List.map_cons, remainder_cons_append, fieldText_append, fieldsFrom, nextKey_comma hbefore]
    simp only [colon_cons, hread]
    rw [ih (fun f hf ↦ h f (List.mem_cons_of_mem e hf)) (Nat.lt_of_succ_lt_succ hbound),
      List.foldl_cons]

/-- Of fields in any order, equal keys included, the table of their entries is read. -/
theorem reads_obj {fields : List (String × Json)}
    (h : ∀ e ∈ fields, Reads (value d) (text e.2) e.2) :
    Reads (value (d + 1))
      (container '\x7b' '\x7d' before last (fields.map (fieldText pad text))) (object fields) := by
  intro rest _
  cases fields with
  | nil =>
    rw [List.map_nil, container, List.cons_append, value_brace]
    rfl
  | cons e fields =>
    have hread := (h e List.mem_cons_self).value_append hpad
      (endsNumber_remainder before hlast continuesNumber_brace (fields.map (fieldText pad text))
        rest)
    have hlength := length_lt_length_remainder before last '\x7d' (fields.map (fieldText pad text))
    rw [List.length_map] at hlength
    rw [List.map_cons, container_append, fieldText_append, value_brace, fieldsFrom,
      nextKey_first hbefore]
    simp only [colon_cons, hread]
    rw [fieldsFrom_remainder hbefore hlast hpad fun f hf ↦ h f (List.mem_cons_of_mem e hf)]
    · rfl
    · simp only [List.length_append, List.length_cons]
      omega

end Fields

/-! ## Values -/

/-- An object whose fields are in order is the object with these entries. -/
theorem object_of_isAscending {fields : List (String × Json)} (h : isAscending fields = true) :
    object fields = obj fields := by
  have hascending : fields.Pairwise fun a b ↦ a.1 < b.1 := of_decide_eq_true h
  exact congrArg ofTable (Table.ofList_entries ⟨fields, hascending⟩)

namespace Layout

variable (l : Layout)

/-- What fits into no level is not a container, and is read at any depth. -/
theorem reads_scalar {v : Json} (h : v.fits 0 = true) (d depth : Nat) :
    Reads (value d) (l.text depth v) v := by
  cases v with
  | null =>
    rw [l.text_null]
    exact reads_null d
  | bool b =>
    cases b with
    | true =>
      rw [l.text_true]
      exact reads_true d
    | false =>
      rw [l.text_false]
      exact reads_false d
  | num n =>
    cases n with
    | int i =>
      rw [l.text_num]
      exact reads_intText d h
    | real x => cases h
  | str s =>
    rw [l.text_str]
    exact reads_str d s
  | arr items => cases h
  | obj fields => cases h

/-- What is laid out is read back, and what stands behind it is left. -/
theorem reads_text {d : Nat} {v : Json} (h : v.fits d = true) (depth : Nat) :
    Reads (value d) (l.text depth v) v := by
  induction d generalizing v depth with
  | zero => exact l.reads_scalar h 0 depth
  | succ d ih =>
    cases v with
    | arr items =>
      rw [fits, List.all_eq_true] at h
      rw [l.text_arr]
      exact reads_arr (l.isGap_of_mem_line _) (l.isGap_of_mem_line _) fun x hx ↦ ih (h x hx) _
    | obj fields =>
      rw [fits, Bool.and_eq_true, List.all_eq_true] at h
      rw [l.text_obj, ← object_of_isAscending h.1]
      exact reads_obj (l.isGap_of_mem_line _) (l.isGap_of_mem_line _) l.isGap_of_mem_pad
        fun e he ↦ ih (h.2 e he) _
    | num n =>
      have hzero : (num n).fits 0 = (num n).fits (d + 1) := by cases n <;> rfl
      exact l.reads_scalar (hzero.trans h) _ depth
    | null | bool _ | str _ => exact l.reads_scalar rfl _ depth

/-- Nothing is left behind a whole text. -/
theorem read_text {v : Json} (h : v.fits maxDepth = true) :
    read (String.ofList (l.text 0 v)) = .ok v := by
  have hvalue := l.reads_text h 0 [] endsNumber_nil
  rw [List.append_nil] at hvalue
  rw [read, String.toList_ofList, hvalue]
  rfl

end Layout

theorem read_compact {v : Json} (h : v.fits maxDepth = true) : read v.compact = .ok v :=
  Layout.compact.read_text h

theorem read_indented {v : Json} (h : v.fits maxDepth = true) : read v.indented = .ok v :=
  Layout.indented.read_text h

/-- Of an object whose fields are in any order, the object with these entries is read. -/
theorem read_compact_obj {fields : List (String × Json)}
    (h : ∀ e ∈ fields, e.2.fits (maxDepth - 1) = true) :
    read (obj fields).compact = .ok (object fields) := by
  have hvalue : Reads (value maxDepth) (Layout.compact.text 0 (obj fields)) (object fields) := by
    rw [Layout.text_obj]
    exact reads_obj (Layout.compact.isGap_of_mem_line _) (Layout.compact.isGap_of_mem_line _)
      Layout.compact.isGap_of_mem_pad fun e he ↦ Layout.compact.reads_text (h e he) _
  have hwhole := hvalue [] endsNumber_nil
  rw [List.append_nil] at hwhole
  rw [compact, read, String.toList_ofList]
  change (value maxDepth (Layout.compact.text 0 (obj fields))).bind _ = _
  rw [hwhole]
  rfl

/-- Blanks within a string stay, whatever the layout. -/
example : read (obj [("a b", str " \n")]).indented = .ok (obj [("a b", str " \n")]) :=
  read_indented (by decide)

end ServiceCall.Json

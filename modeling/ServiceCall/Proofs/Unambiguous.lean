import ServiceCall.Proofs.NumberTexts
import ServiceCall.Proofs.Presence

/-!
# No two values have one text

The JSON text of a value determines the value (`Json.compact_injective`). Reading the text back
would show this only for the values that come back (`Json.fits`), among which are no doubles and no
objects with fields out of order; so the texts are compared as they are printed, token by token.

## What the induction needs

Inside a container a text has others behind it, so two texts are compared with any rests behind
them: if the wholes are equal, then the values are and the rests are. A number has no end of its
own, and its text goes on for as long as there are characters that occur in numbers. It is therefore
asked of the rests that they begin with another character, as they do between the brackets of a
container (`Json.EndsValue`). All other values are delimited from within.

The first character tells which kind of value follows, so values of different kinds need no further
comparison.
-/

namespace ServiceCall.Json

open Number (isNumeric)

/-! ## Where a value ends -/

/-- The text is empty or begins with a character that no number contains. -/
def EndsValue (rest : List Char) : Prop := ∀ c ∈ rest.head?, isNumeric c = false

theorem endsValue_nil : EndsValue [] := by
  intro c hc
  cases hc

theorem endsValue_cons {c : Char} (h : isNumeric c = false) (rest : List Char) :
    EndsValue (c :: rest) := by
  intro d hd
  cases hd
  exact h

theorem EndsValue.takeWhile_eq_nil {rest : List Char} (h : EndsValue rest) :
    rest.takeWhile isNumeric = [] := by
  cases rest with
  | nil => rfl
  | cons c rest =>
    rw [List.takeWhile_cons, h c rfl]
    rfl

theorem takeWhile_text_append (n : Number) {rest : List Char} (h : EndsValue rest) :
    (n.text ++ rest).takeWhile isNumeric = n.text := by
  rw [List.takeWhile_append_of_pos fun c ↦ Number.isNumeric_of_mem_text, h.takeWhile_eq_nil,
    List.append_nil]

theorem text_append_inj {m n : Number} {rest rest' : List Char} (hrest : EndsValue rest)
    (hrest' : EndsValue rest') (h : m.text ++ rest = n.text ++ rest') : m = n ∧ rest = rest' := by
  have htext : m.text = n.text := by
    rw [← takeWhile_text_append m hrest, h, takeWhile_text_append n hrest']
  refine ⟨Number.text_injective htext, ?_⟩
  rw [htext] at h
  exact List.append_cancel_left h

theorem quoteText_append_inj {s t : String} {rest rest' : List Char}
    (h : quoteText s ++ rest = quoteText t ++ rest') : s = t ∧ rest = rest' := by
  rw [quoteText_append, quoteText_append] at h
  have hread := congrArg string (List.cons.inj h).2
  rw [string_flatMap_escapeChar, string_flatMap_escapeChar] at hread
  exact Prod.mk.inj (Except.ok.inj hread)

/-! ## Where a value begins -/

/-- The kind of the values whose texts begin with the character. -/
def kindAt (c : Char) : Option String :=
  if c = 'n' then some "null"
  else if c = 't' ∨ c = 'f' then some "boolean"
  else if c = '"' then some "string"
  else if c = '[' then some "array"
  else if c = '\x7b' then some "object"
  else if isNumeric c then some "number"
  else none

theorem kindAt_of_isNumeric {c : Char} (h : isNumeric c = true) : kindAt c = some "number" := by
  have hne {d : Char} (hd : isNumeric d = false) : c ≠ d := by
    rintro rfl
    rw [hd] at h
    cases h
  rw [kindAt, if_neg (hne rfl), if_neg (not_or.2 ⟨hne rfl, hne rfl⟩), if_neg (hne rfl),
    if_neg (hne rfl), if_neg (hne rfl), if_pos h]

theorem exists_compactText_eq_cons (v : Json) :
    ∃ c cs, compactText v = c :: cs ∧ kindAt c = some v.kind := by
  cases v with
  | null => exact ⟨'n', _, by rw [compactText], rfl⟩
  | bool b =>
    cases b with
    | false => exact ⟨'f', _, by rw [compactText], rfl⟩
    | true => exact ⟨'t', _, by rw [compactText], rfl⟩
  | num n =>
    obtain ⟨d, hd, -⟩ := n.exists_not_isSpace
    obtain ⟨c, cs, htext⟩ := List.exists_cons_of_ne_nil (List.ne_nil_of_mem hd)
    have hc : c ∈ n.text := by
      rw [htext]
      exact List.mem_cons_self
    exact ⟨c, cs, by rw [compactText, htext], kindAt_of_isNumeric (Number.isNumeric_of_mem_text hc)⟩
  | str s => exact ⟨'"', _, by rw [compactText, quoteText]; rfl, rfl⟩
  | arr items =>
    cases items with
    | nil => exact ⟨'[', _, by rw [compactText], rfl⟩
    | cons x items => exact ⟨'[', _, by rw [compactText]; rfl, rfl⟩
  | obj fields =>
    cases fields with
    | nil => exact ⟨'\x7b', _, by rw [compactText], rfl⟩
    | cons e fields => exact ⟨'\x7b', _, by rw [compactText]; rfl, rfl⟩

theorem kind_eq_of_compactText_append_eq {v w : Json} {rest rest' : List Char}
    (h : compactText v ++ rest = compactText w ++ rest') : v.kind = w.kind := by
  obtain ⟨c, cs, hv, hc⟩ := exists_compactText_eq_cons v
  obtain ⟨d, ds, hw, hd⟩ := exists_compactText_eq_cons w
  rw [hv, hw] at h
  obtain rfl : c = d := (List.cons.inj h).1
  exact Option.some.inj (hc.symm.trans hd)

theorem compactText_append_ne {v : Json} {c : Char} (hc : kindAt c = none)
    (rest rest' : List Char) : compactText v ++ rest ≠ c :: rest' := by
  obtain ⟨d, ds, hv, hd⟩ := exists_compactText_eq_cons v
  intro h
  rw [hv] at h
  obtain rfl : d = c := (List.cons.inj h).1
  rw [hc] at hd
  cases hd

/-! ## Texts of containers -/

theorem compactText_arr_cons_append (x : Json) (items : List Json) (rest : List Char) :
    compactText (arr (x :: items)) ++ rest
      = '[' :: (compactText x ++ (compactItems items ++ ']' :: rest)) := by
  rw [compactText]
  simp only [List.cons_append, List.append_assoc, List.nil_append]

theorem compactText_obj_cons_append (e : String × Json) (fields : List (String × Json))
    (rest : List Char) :
    compactText (obj (e :: fields)) ++ rest
      = '\x7b' :: (quoteText e.1 ++
          ':' :: (compactText e.2 ++ (compactFields fields ++ '\x7d' :: rest))) := by
  rw [compactText]
  simp only [List.cons_append, List.append_assoc, List.nil_append]

theorem compactItems_cons_append (x : Json) (items : List Json) (rest : List Char) :
    compactItems (x :: items) ++ rest = ',' :: (compactText x ++ (compactItems items ++ rest)) := by
  rw [compactItems]
  simp only [List.cons_append, List.append_assoc]

theorem compactFields_cons_append (e : String × Json) (fields : List (String × Json))
    (rest : List Char) :
    compactFields (e :: fields) ++ rest
      = ',' :: (quoteText e.1 ++ ':' :: (compactText e.2 ++ (compactFields fields ++ rest))) := by
  rw [compactFields]
  simp only [List.cons_append, List.append_assoc]

theorem endsValue_compactItems (items : List Json) (rest : List Char) :
    EndsValue (compactItems items ++ ']' :: rest) := by
  cases items with
  | nil => exact endsValue_cons rfl rest
  | cons x items =>
    rw [compactItems_cons_append]
    exact endsValue_cons rfl _

theorem endsValue_compactFields (fields : List (String × Json)) (rest : List Char) :
    EndsValue (compactFields fields ++ '\x7d' :: rest) := by
  cases fields with
  | nil => exact endsValue_cons rfl rest
  | cons e fields =>
    rw [compactFields_cons_append]
    exact endsValue_cons rfl _

theorem compactItems_cons_append_ne (x : Json) (items : List Json) (rest rest' : List Char) :
    compactItems (x :: items) ++ rest ≠ ']' :: rest' := by
  rw [compactItems_cons_append]
  intro h
  cases h

theorem compactFields_cons_append_ne (e : String × Json) (fields : List (String × Json))
    (rest rest' : List Char) : compactFields (e :: fields) ++ rest ≠ '\x7d' :: rest' := by
  rw [compactFields_cons_append]
  intro h
  cases h

theorem compactText_obj_cons_append_ne (e : String × Json) (fields : List (String × Json))
    (rest rest' : List Char) :
    compactText (obj (e :: fields)) ++ rest ≠ compactText (obj []) ++ rest' := by
  rw [compactText_obj_cons_append, compactText, quoteText_append]
  intro h
  cases h

/-! ## The comparison -/

mutual

theorem compactText_append_inj (v : Json) {w : Json} {rest rest' : List Char}
    (hrest : EndsValue rest) (hrest' : EndsValue rest')
    (h : compactText v ++ rest = compactText w ++ rest') : v = w ∧ rest = rest' := by
  have hkind := kind_eq_of_compactText_append_eq h
  match v with
  | null =>
    cases w with
    | null => exact ⟨rfl, List.append_cancel_left h⟩
    | bool _ | num _ | str _ | arr _ | obj _ => simp [kind] at hkind
  | bool b =>
    cases w with
    | bool b' =>
      cases b with
      | false =>
        cases b' with
        | false => exact ⟨rfl, List.append_cancel_left h⟩
        | true => cases (List.cons.inj h).1
      | true =>
        cases b' with
        | false => cases (List.cons.inj h).1
        | true => exact ⟨rfl, List.append_cancel_left h⟩
    | null | num _ | str _ | arr _ | obj _ => simp [kind] at hkind
  | num m =>
    cases w with
    | num n =>
      rw [compactText, compactText] at h
      obtain ⟨rfl, hrest⟩ := text_append_inj hrest hrest' h
      exact ⟨rfl, hrest⟩
    | null | bool _ | str _ | arr _ | obj _ => simp [kind] at hkind
  | str s =>
    cases w with
    | str t =>
      rw [compactText, compactText] at h
      obtain ⟨rfl, hrest⟩ := quoteText_append_inj h
      exact ⟨rfl, hrest⟩
    | null | bool _ | num _ | arr _ | obj _ => simp [kind] at hkind
  | arr [] =>
    cases w with
    | arr items' =>
      cases items' with
      | nil => exact ⟨rfl, List.append_cancel_left h⟩
      | cons y items' =>
        rw [compactText_arr_cons_append, compactText] at h
        exact absurd (List.cons.inj h).2.symm (compactText_append_ne rfl _ _)
    | null | bool _ | num _ | str _ | obj _ => simp [kind] at hkind
  | arr (x :: items) =>
    cases w with
    | arr items' =>
      cases items' with
      | nil =>
        rw [compactText_arr_cons_append, compactText] at h
        exact absurd (List.cons.inj h).2 (compactText_append_ne rfl _ _)
      | cons y items' =>
        rw [compactText_arr_cons_append, compactText_arr_cons_append] at h
        obtain ⟨rfl, hitems⟩ := compactText_append_inj x (endsValue_compactItems items rest)
          (endsValue_compactItems items' rest') (List.cons.inj h).2
        obtain ⟨rfl, hrest⟩ := compactItems_append_inj items hitems
        exact ⟨rfl, hrest⟩
    | null | bool _ | num _ | str _ | obj _ => simp [kind] at hkind
  | obj [] =>
    cases w with
    | obj fields' =>
      cases fields' with
      | nil => exact ⟨rfl, List.append_cancel_left h⟩
      | cons e fields' => exact absurd h.symm (compactText_obj_cons_append_ne e fields' _ _)
    | null | bool _ | num _ | str _ | arr _ => simp [kind] at hkind
  | obj ((k, x) :: fields) =>
    cases w with
    | obj fields' =>
      cases fields' with
      | nil => exact absurd h (compactText_obj_cons_append_ne (k, x) fields _ _)
      | cons e fields' =>
        obtain ⟨k', y⟩ := e
        rw [compactText_obj_cons_append, compactText_obj_cons_append] at h
        obtain ⟨rfl, hvalue⟩ := quoteText_append_inj (List.cons.inj h).2
        obtain ⟨rfl, hfields⟩ := compactText_append_inj x (endsValue_compactFields fields rest)
          (endsValue_compactFields fields' rest') (List.cons.inj hvalue).2
        obtain ⟨rfl, hrest⟩ := compactFields_append_inj fields hfields
        exact ⟨rfl, hrest⟩
    | null | bool _ | num _ | str _ | arr _ => simp [kind] at hkind

theorem compactItems_append_inj (items : List Json) {items' : List Json} {rest rest' : List Char}
    (h : compactItems items ++ ']' :: rest = compactItems items' ++ ']' :: rest') :
    items = items' ∧ rest = rest' := by
  match items, items' with
  | [], [] => exact ⟨rfl, (List.cons.inj h).2⟩
  | [], y :: items' => exact absurd h.symm (compactItems_cons_append_ne y items' _ _)
  | x :: items, [] => exact absurd h (compactItems_cons_append_ne x items _ _)
  | x :: items, y :: items' =>
    rw [compactItems_cons_append, compactItems_cons_append] at h
    obtain ⟨rfl, hitems⟩ := compactText_append_inj x (endsValue_compactItems items rest)
      (endsValue_compactItems items' rest') (List.cons.inj h).2
    obtain ⟨rfl, hrest⟩ := compactItems_append_inj items hitems
    exact ⟨rfl, hrest⟩

theorem compactFields_append_inj (fields : List (String × Json)) {fields' : List (String × Json)}
    {rest rest' : List Char}
    (h : compactFields fields ++ '\x7d' :: rest = compactFields fields' ++ '\x7d' :: rest') :
    fields = fields' ∧ rest = rest' := by
  match fields, fields' with
  | [], [] => exact ⟨rfl, (List.cons.inj h).2⟩
  | [], e :: fields' => exact absurd h.symm (compactFields_cons_append_ne e fields' _ _)
  | e :: fields, [] => exact absurd h (compactFields_cons_append_ne e fields _ _)
  | (k, x) :: fields, (k', y) :: fields' =>
    rw [compactFields_cons_append, compactFields_cons_append] at h
    obtain ⟨rfl, hvalue⟩ := quoteText_append_inj (List.cons.inj h).2
    obtain ⟨rfl, hfields⟩ := compactText_append_inj x (endsValue_compactFields fields rest)
      (endsValue_compactFields fields' rest') (List.cons.inj hvalue).2
    obtain ⟨rfl, hrest⟩ := compactFields_append_inj fields hfields
    exact ⟨rfl, hrest⟩

end

/-- Values with the same JSON text are the same value. -/
theorem compact_injective : Function.Injective compact := by
  intro v w h
  have htext : compactText v ++ [] = compactText w ++ [] := by
    rw [List.append_nil, List.append_nil]
    exact String.ofList_injective h
  exact (compactText_append_inj v endsValue_nil endsValue_nil htext).1

end ServiceCall.Json

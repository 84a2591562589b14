import ServiceCall.Operation.Path
import ServiceCall.Proofs.Escapes
import ServiceCall.Proofs.Splitting

/-!
# Templates of addresses

A row of pieces is a template: fixed characters, and places for arguments. What an argument puts
into its place is escaped, so a character that needs escaping stands in an address only where it
stands in the template (`Template.count_fill`). In particular the slashes are those of the template,
and filling a template fills its segments one by one (`Template.splitOn_fill`).

## Two kinds of segments

A segment is either one place and nothing else, or it has a character of its own. Only a segment of
the first kind is at the mercy of its argument: it can be empty (`Template.fill_eq_nil_iff`) or,
once decoded, any text at all (`Template.decode_fill`). A segment of the second kind always keeps
its own character.
-/

namespace ServiceCall

open Encoding (utf8 utf8_append Percent.Escaped Percent.decode Percent.isPlainChar)

/-- One mark of a template. -/
inductive Mark where
  | fixed (c : Char)
  /-- The place of an argument. -/
  | place (arg : String)
  deriving DecidableEq

def Mark.isSlash : Mark → Bool
  | fixed c => c = '/'
  | place _ => false

abbrev Template := List Mark

/-! ## What is put into a place -/

namespace Piece

/-- What an argument puts into an address. -/
def inserted (args : Args) (arg : String) : String := render args (.segment arg)

variable {args : Args} {arg : String}

theorem inserted_of_text? {t : String} (h : args.text? arg = some t) :
    inserted args arg = Encoding.Percent.segment t := by
  rw [inserted, render, h]
  rfl

theorem inserted_of_text?_eq_none (h : args.text? arg = none) : inserted args arg = "" := by
  rw [inserted, render, h]
  rfl

theorem escaped_inserted (args : Args) (arg : String) :
    Percent.Escaped (inserted args arg).toList := by
  cases h : args.text? arg with
  | none =>
    rw [inserted_of_text?_eq_none h]
    exact .nil
  | some t =>
    rw [inserted_of_text? h]
    exact Encoding.Percent.escaped_segment t

theorem decode_inserted_append (args : Args) (arg : String) (cs : List Char) :
    Percent.decode ((inserted args arg).toList ++ cs)
      = utf8 (args.textOr arg "") ++ Percent.decode cs := by
  cases h : args.text? arg with
  | none =>
    rw [inserted_of_text?_eq_none h, Args.textOr, h]
    rfl
  | some t =>
    rw [inserted_of_text? h, Args.textOr, h]
    exact Encoding.Percent.decode_segment_append t cs

theorem notMem_inserted {c : Char} (hplain : Percent.isPlainChar c = false) (hsign : c ≠ '%') :
    c ∉ (inserted args arg).toList := by
  intro hc
  rcases (escaped_inserted args arg).isPlainChar_or_eq hc with h | h
  · rw [hplain] at h
    cases h
  · exact hsign h

end Piece

namespace Template

def ofText (s : String) : Template := s.toList.map .fixed

def ofPieces (pieces : List Piece) : Template :=
  pieces.flatMap fun
    | .text s => ofText s
    | .segment arg => [.place arg]

def fillMark (args : Args) : Mark → List Char
  | .fixed c => [c]
  | .place arg => (Piece.inserted args arg).toList

/-- The template with the arguments in their places. -/
def fill (args : Args) (t : Template) : List Char := t.flatMap (fillMark args)

theorem ofPieces_append (ps qs : List Piece) : ofPieces (ps ++ qs) = ofPieces ps ++ ofPieces qs :=
  List.flatMap_append

theorem fill_append (args : Args) (t u : Template) :
    fill args (t ++ u) = fill args t ++ fill args u :=
  List.flatMap_append

theorem fill_cons (args : Args) (m : Mark) (t : Template) :
    fill args (m :: t) = fillMark args m ++ fill args t :=
  List.flatMap_cons

theorem fill_ofText (args : Args) (s : String) : fill args (ofText s) = s.toList := by
  rw [ofText, fill, List.flatMap_map]
  exact List.flatMap_singleton' s.toList

theorem fill_ofPieces (args : Args) (pieces : List Piece) :
    fill args (ofPieces pieces) = (Piece.renderAll args pieces).toList := by
  rw [Piece.renderAll, String.toList_join, List.flatMap_map]
  induction pieces with
  | nil => rfl
  | cons p pieces ih =>
    have hpiece : fill args (ofPieces [p]) = (Piece.render args p).toList := by
      cases p with
      | text s =>
        rw [ofPieces, List.flatMap_singleton]
        exact fill_ofText args s
      | segment arg => exact List.append_nil _
    rw [← List.singleton_append, ofPieces_append, fill_append, ih, hpiece]
    rfl

/-! ## Characters that no argument brings in -/

/-- A character that an argument would have to escape stands in an address as often as in its
template. -/
theorem count_fill (args : Args) (t : Template) {c : Char}
    (hplain : Percent.isPlainChar c = false) (hsign : c ≠ '%') :
    (fill args t).count c = t.count (.fixed c) := by
  induction t with
  | nil => rfl
  | cons m t ih =>
    have hmark : (fillMark args m).count c = [m].count (.fixed c) := by
      cases m with
      | fixed d => simp [fillMark, List.count_singleton]
      | place arg => exact List.count_eq_zero_of_not_mem (Piece.notMem_inserted hplain hsign)
    rw [fill_cons, List.count_append, ih, hmark, ← List.count_append, List.singleton_append]

/-! ## Segments -/

/-- What stands between the slashes. -/
def segments (t : Template) : List Template := t.splitOnP Mark.isSlash

theorem segments_cons (m : Mark) (t : Template) : segments (m :: t)
    = if m.isSlash then [] :: segments t else (segments t).modifyHead (m :: ·) :=
  List.splitOnP_cons_eq_if_modifyHead ..

/-- Filling a template fills its segments. -/
theorem splitOn_fill (args : Args) (t : Template) :
    (fill args t).splitOn '/' = (segments t).map (fill args) := by
  induction t with
  | nil => rfl
  | cons m t ih =>
    rw [segments_cons, fill_cons]
    by_cases hm : m.isSlash = true
    · have hfill : fillMark args m = ['/'] := by
        cases m with
        | fixed c => rw [fillMark, of_decide_eq_true hm]
        | place arg => cases hm
      rw [if_pos hm, hfill, List.map_cons, ← ih, List.singleton_append]
      rfl
    · have hslash : '/' ∉ fillMark args m := by
        cases m with
        | fixed c => simpa [fillMark, Mark.isSlash, eq_comm] using hm
        | place arg => exact Piece.notMem_inserted (by decide) (by decide)
      rw [splitOn_append_of_notMem hslash, if_neg hm, ih]
      cases segments t with
      | nil => rfl
      | cons u us =>
        rw [List.map_cons, List.modifyHead_cons, List.modifyHead_cons, List.map_cons, fill_cons]

theorem mem_reads_of_mem_ofPieces {pieces : List Piece} {arg : String}
    (h : .place arg ∈ ofPieces pieces) : arg ∈ Piece.reads pieces := by
  obtain ⟨p, hp, harg⟩ := List.mem_flatMap.1 h
  cases p with
  | text s => simp [ofText] at harg
  | segment a =>
    rw [List.mem_singleton, Mark.place.injEq] at harg
    rw [harg]
    exact List.mem_filterMap.2 ⟨_, hp, rfl⟩

/-- The argument whose place the template is, if it is nothing else. -/
def place? : Template → Option String
  | [.place arg] => some arg
  | _ => none

/-- Some character of the template is its own, and no dot. -/
def hasOwn (t : Template) : Bool :=
  t.any fun
    | .fixed c => c ≠ '.'
    | .place _ => false

/-- A segment of one of the two kinds. -/
def isSimple (t : Template) : Bool := (place? t).isSome || hasOwn t

/-- Fixed characters are those of paths. -/
def isPathLike (t : Template) : Bool :=
  t.all fun
    | .fixed c => Percent.isPlainChar c || c = '/' || c = ':'
    | .place _ => true

theorem exists_mem_of_hasOwn {t : Template} (h : hasOwn t = true) : ∃ c ≠ '.', .fixed c ∈ t := by
  obtain ⟨m, hm, hown⟩ := List.any_eq_true.1 h
  cases m with
  | fixed c => exact ⟨c, by simpa using hown, hm⟩
  | place arg => cases hown

theorem mem_fill_of_fixed {args : Args} {t : Template} {c : Char} (h : .fixed c ∈ t) :
    c ∈ fill args t :=
  List.mem_flatMap.2 ⟨_, h, List.mem_singleton_self c⟩

theorem eq_of_place?_eq_some {t : Template} {arg : String} (h : place? t = some arg) :
    t = [.place arg] := by
  unfold place? at h
  split at h
  · rw [Option.some.inj h]
  · cases h

theorem fill_place (args : Args) (arg : String) :
    fill args [.place arg] = (Piece.inserted args arg).toList :=
  List.append_nil _

/-- Of the segments only those that consist of one place can be empty. -/
theorem fill_eq_nil_iff {args : Args} {t : Template} (h : isSimple t = true) :
    fill args t = [] ↔ ∃ arg, place? t = some arg ∧ Piece.inserted args arg = "" := by
  constructor
  · intro hnil
    cases hplace : place? t with
    | some arg =>
      rw [eq_of_place?_eq_some hplace, fill_place] at hnil
      exact ⟨arg, rfl, String.toList_eq_nil_iff.1 hnil⟩
    | none =>
      rw [isSimple, hplace] at h
      obtain ⟨c, -, hc⟩ := exists_mem_of_hasOwn h
      have hmem : c ∈ fill args t := mem_fill_of_fixed hc
      rw [hnil] at hmem
      cases hmem
  · rintro ⟨arg, hplace, hempty⟩
    rw [eq_of_place?_eq_some hplace, fill_place, hempty]
    rfl

/-! ## Decoding a filled template -/

/-- The template with the texts of the arguments in their places as they are. -/
def spell (args : Args) (t : Template) : List Char :=
  t.flatMap fun
    | .fixed c => [c]
    | .place arg => (args.textOr arg "").toList

/-- Decoded, an address is what its template spells. -/
theorem decode_fill (args : Args) {t : Template} (h : .fixed '%' ∉ t) :
    Percent.decode (fill args t) = utf8 (String.ofList (spell args t)) := by
  induction t with
  | nil => rfl
  | cons m t ih =>
    rw [List.mem_cons, not_or] at h
    rw [fill_cons, spell, List.flatMap_cons, String.ofList_append, utf8_append, ← spell, ← ih h.2]
    cases m with
    | fixed c =>
      have hc : c ≠ '%' := fun hc ↦ h.1 (by rw [hc])
      rw [fillMark, List.singleton_append, Encoding.Percent.decode_cons_of_ne hc]
      simp [utf8]
    | place arg =>
      rw [fillMark, Piece.decode_inserted_append, String.ofList_toList]

end Template

end ServiceCall

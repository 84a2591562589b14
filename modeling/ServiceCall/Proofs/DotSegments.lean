import ServiceCall.Http.Network
import ServiceCall.Proofs.Reading
import ServiceCall.Proofs.Segments

/-!
# Dots in addresses

A segment of one dot or two does not stand for itself in an address. Before a request is sent, the
one is dropped, and the other takes the segment in front of it along. So the path of a message is
the path that was built exactly if no segment of it is dots (`path_sent_as_built_iff`), and that is
up to the arguments which fill a segment on their own.

## Why escaping does not help

Dots are among the characters that stand for themselves, so an argument of dots is left as it is.
Nor could it be escaped, since reading resolves an escaped dot as it does a bare one. Both are
covered by asking what a segment decodes to: a segment that is resolved decodes to dots
(`Url.decode_of_isDotted`), and a filled template to what it spells (`Template.decode_fill`).
-/

namespace ServiceCall

open Encoding (utf8 Percent.decode)

namespace Url

/-! ## Segments that are resolved -/

/-- A segment that reading does not keep. -/
def isDotted (s : String) : Bool := isTwoDots s || isDot s

/-- A character is its own form in lower case, or the form in upper case of that form. -/
theorem eq_toLower_or (c : Char) :
    c = c.toLower ∨ c.toLower.isLower = true ∧ c = c.toLower.toUpper := by
  by_cases hc : c.toNat < 0x80
  · exact Encoding.Percent.forall_ascii
      (P := fun c ↦ c = c.toLower ∨ c.toLower.isLower = true ∧ c = c.toLower.toUpper)
      (by decide +kernel) hc
  · -- Outside of ASCII no character has another form.
    refine .inl ?_
    have hupper : ¬ (c.val ≥ 'A'.val ∧ c.val ≤ 'Z'.val) := by
      rintro ⟨-, hZ⟩
      have hle : c.toNat ≤ 90 := hZ
      omega
    have hsame : c.toLower = c := by
      delta Char.toLower
      exact dif_neg hupper
    exact hsame.symm

theorem eq_of_toLower_eq {c d : Char} (h : c.toLower = d) (hd : d.isLower = false) : c = d := by
  rcases eq_toLower_or c with hsame | ⟨hlower, -⟩
  · exact hsame.trans h
  · rw [h, hd] at hlower
    cases hlower

/-- The letter case counts only in the last digit of an escaped dot, whose value it does not
change. -/
theorem exists_decode_of_map_toLower {cs ds : List Char} (h : cs.map Char.toLower = '.' :: ds ∨
    cs.map Char.toLower = '%' :: '2' :: 'e' :: ds) :
    ∃ rest, rest.map Char.toLower = ds ∧ Percent.decode cs = 0x2E :: Percent.decode rest := by
  rcases h with h | h
  · obtain ⟨c, rest, rfl, hc, hrest⟩ := List.map_eq_cons_iff.1 h
    rw [eq_of_toLower_eq hc (by decide)]
    exact ⟨rest, hrest, Encoding.Percent.decode_cons_of_ne (by decide) rest⟩
  · obtain ⟨c, cs, rfl, hsign, h⟩ := List.map_eq_cons_iff.1 h
    obtain ⟨d, cs, rfl, hhigh, h⟩ := List.map_eq_cons_iff.1 h
    obtain ⟨e, rest, rfl, hlow, hrest⟩ := List.map_eq_cons_iff.1 h
    refine ⟨rest, hrest, ?_⟩
    rw [eq_of_toLower_eq hsign (by decide), eq_of_toLower_eq hhigh (by decide)]
    rcases eq_toLower_or e with he | ⟨-, he⟩
    · rw [he, hlow]
      rfl
    · rw [he, hlow]
      rfl

theorem map_toLower_of_asciiLower {s t : String} (h : Text.asciiLower s = t) :
    s.toList.map Char.toLower = t.toList := by
  rw [← h, Text.asciiLower, String.toList_ofList]

theorem decode_of_isDot {s : String} (h : isDot s = true) :
    Percent.decode s.toList = utf8 "." := by
  have hform : s.toList.map Char.toLower = ['.'] ∨
      s.toList.map Char.toLower = ['%', '2', 'e'] := by
    have hlower : Text.asciiLower s = "." ∨ Text.asciiLower s = "%2e" := by simpa [isDot] using h
    exact hlower.imp map_toLower_of_asciiLower map_toLower_of_asciiLower
  obtain ⟨rest, hrest, hdecode⟩ := exists_decode_of_map_toLower hform
  rw [hdecode, List.map_eq_nil_iff.1 hrest]
  rfl

theorem decode_of_isTwoDots {s : String} (h : isTwoDots s = true) :
    Percent.decode s.toList = utf8 ".." := by
  have hlower : Text.asciiLower s = ".." ∨ Text.asciiLower s = ".%2e" ∨
      Text.asciiLower s = "%2e." ∨ Text.asciiLower s = "%2e%2e" := by simpa [isTwoDots] using h
  -- Each of the four is one dot and then another, bare or escaped.
  have hform : ∃ ds, (s.toList.map Char.toLower = '.' :: ds ∨
      s.toList.map Char.toLower = '%' :: '2' :: 'e' :: ds) ∧
      (ds = ['.'] ∨ ds = ['%', '2', 'e']) := by
    rcases hlower with h | h | h | h
    · exact ⟨_, .inl (map_toLower_of_asciiLower h), .inl rfl⟩
    · exact ⟨_, .inl (map_toLower_of_asciiLower h), .inr rfl⟩
    · exact ⟨_, .inr (map_toLower_of_asciiLower h), .inl rfl⟩
    · exact ⟨_, .inr (map_toLower_of_asciiLower h), .inr rfl⟩
  obtain ⟨ds, hfirst, hsecond⟩ := hform
  obtain ⟨cs, rfl, hdecode⟩ := exists_decode_of_map_toLower hfirst
  obtain ⟨rest, hrest, hdecode'⟩ := exists_decode_of_map_toLower hsecond
  rw [hdecode, hdecode', List.map_eq_nil_iff.1 hrest]
  rfl

theorem decode_of_isDotted {s : String} (h : isDotted s = true) :
    Percent.decode s.toList = utf8 "." ∨ Percent.decode s.toList = utf8 ".." := by
  rcases Bool.or_eq_true_iff.1 h with h | h
  · exact .inr (decode_of_isTwoDots h)
  · exact .inl (decode_of_isDot h)

/-! ## Resolving -/

theorem resolve_cons (done : List String) (s : String) (rest : List String) :
    resolve false done (s :: rest) =
      if isDotted s then
        let done := if isTwoDots s then withoutLast done else done
        if rest.isEmpty then ("" :: done).reverse else resolve false done rest
      else resolve false (s :: done) rest := by
  rw [resolve]
  rfl

theorem resolve_of_forall {segments : List String} (h : ∀ s ∈ segments, isDotted s = false)
    (done : List String) : resolve false done segments = done.reverse ++ segments := by
  induction segments generalizing done with
  | nil => rw [resolve, List.append_nil]
  | cons s rest ih =>
    have hs : ¬ isDotted s = true := Bool.eq_false_iff.1 (h s List.mem_cons_self)
    rw [resolve_cons, if_neg hs, ih fun s' hs' ↦ h s' (List.mem_cons_of_mem s hs'),
      List.reverse_cons, List.append_assoc, List.singleton_append]

theorem mem_of_mem_withoutLast {done : List String} {s : String} (h : s ∈ withoutLast done) :
    s ∈ done := by
  cases done with
  | nil => cases h
  | cons d done =>
    rw [withoutLast] at h
    split at h
    · exact h
    · exact List.mem_cons_of_mem d h

/-- No segment is left that would be resolved. -/
theorem isDotted_of_mem_resolve {done segments : List String}
    (hdone : ∀ s ∈ done, isDotted s = false) :
    ∀ s ∈ resolve false done segments, isDotted s = false := by
  induction segments generalizing done with
  | nil =>
    intro s hs
    rw [resolve, List.mem_reverse] at hs
    exact hdone s hs
  | cons d rest ih =>
    by_cases hd : isDotted d = true
    · -- Two dots take a segment away, and what is left of `done` is still kept.
      have hkept : ∀ s ∈ if isTwoDots d then withoutLast done else done, isDotted s = false := by
        intro s hs
        split at hs
        · exact hdone s (mem_of_mem_withoutLast hs)
        · exact hdone s hs
      rw [resolve_cons, if_pos hd]
      dsimp only
      by_cases hrest : rest.isEmpty = true
      · rw [if_pos hrest]
        intro s hs
        rw [List.mem_reverse, List.mem_cons] at hs
        rcases hs with rfl | hs
        · decide
        · exact hkept s hs
      · rw [if_neg hrest]
        exact ih hkept
    · rw [resolve_cons, if_neg hd]
      exact ih (List.forall_mem_cons.2 ⟨Bool.eq_false_iff.2 hd, hdone⟩)

theorem resolve_eq_self_iff {segments : List String} :
    resolve false [] segments = segments ↔ ∀ s ∈ segments, isDotted s = false := by
  constructor
  · intro h
    rw [← h]
    exact isDotted_of_mem_resolve (List.forall_mem_nil _)
  · intro h
    exact resolve_of_forall h []

end Url

/-! ## Segments of filled templates -/

namespace Template

variable {args : Args} {t : Template}

theorem percent_notMem_of_isPathLike (h : isPathLike t = true) : .fixed '%' ∉ t := by
  intro hmem
  have hsign := List.all_eq_true.1 h _ hmem
  revert hsign
  decide

theorem isPathChar_of_mem_fill (h : isPathLike t = true) {c : Char} (hc : c ∈ fill args t) :
    Url.isPathChar c = true := by
  obtain ⟨m, hm, hc⟩ := List.mem_flatMap.1 hc
  have hpath := List.all_eq_true.1 h m hm
  cases m with
  | fixed d =>
    rw [fillMark, List.mem_singleton] at hc
    simp only [Bool.or_eq_true, decide_eq_true_eq] at hpath
    rcases hpath with (hplain | rfl) | rfl
    · rw [hc]
      simp [Url.isPathChar, Url.isInert, hplain]
    · rw [hc]
      rfl
    · rw [hc]
      rfl
  | place arg =>
    rcases (Piece.escaped_inserted args arg).isPlainChar_or_eq hc with hplain | rfl
    · simp [Url.isPathChar, Url.isInert, hplain]
    · rfl

/-- A template with a character of its own does not spell dots. -/
theorem exists_mem_spell_of_hasOwn (h : hasOwn t = true) : ∃ c ∈ spell args t, c ≠ '.' := by
  obtain ⟨c, hne, hc⟩ := exists_mem_of_hasOwn h
  exact ⟨c, List.mem_flatMap.2 ⟨_, hc, List.mem_singleton_self c⟩, hne⟩

theorem spell_of_place? {arg : String} (h : place? t = some arg) :
    spell args t = (args.textOr arg "").toList := by
  rw [eq_of_place?_eq_some h, spell, List.flatMap_singleton]

/-- A segment is resolved only if it is one place, and the text of its argument is dots. -/
theorem exists_of_isDotted_fill (hsimple : isSimple t = true)
    (hsign : .fixed '%' ∉ t) (h : Url.isDotted (String.ofList (fill args t)) = true) :
    ∃ arg dots, place? t = some arg ∧ args.text? arg = some dots ∧ (dots = "." ∨ dots = "..") := by
  have hspell : ∃ dots, spell args t = dots.toList ∧ (dots = "." ∨ dots = "..") := by
    have hdecode := Url.decode_of_isDotted h
    rw [String.toList_ofList, decode_fill args hsign] at hdecode
    exact ⟨_, String.toList_ofList.symm,
      hdecode.imp Encoding.Percent.utf8_injective Encoding.Percent.utf8_injective⟩
  obtain ⟨dots, hspell, hdots⟩ := hspell
  cases hplace : place? t with
  | none =>
    rw [isSimple, hplace] at hsimple
    obtain ⟨c, hc, hne⟩ : ∃ c ∈ spell args t, c ≠ '.' := exists_mem_spell_of_hasOwn hsimple
    rw [hspell] at hc
    rcases hdots with rfl | rfl
    · exact absurd (by simpa using hc) hne
    · exact absurd (by simpa using hc) hne
  | some arg =>
    rw [spell_of_place? hplace, String.toList_inj, Args.textOr] at hspell
    refine ⟨arg, dots, rfl, ?_, hdots⟩
    cases htext : args.text? arg with
    | some t => rw [← hspell, htext, Option.getD_some]
    | none =>
      rw [htext, Option.getD_none] at hspell
      rw [← hspell] at hdots
      exact absurd hdots (by decide)

theorem fill_of_dots {arg : String} (hplace : place? t = some arg) {dots : String}
    (hdots : dots = "." ∨ dots = "..") (htext : args.text? arg = some dots) :
    String.ofList (fill args t) = dots := by
  have hsegment : Encoding.Percent.segment dots = dots := by
    rcases hdots with rfl | rfl
    · decide
    · decide
  rw [eq_of_place?_eq_some hplace, fill_place, Piece.inserted_of_text? htext, hsegment,
    String.ofList_toList]

/-- Of filled segments those are dots that an argument of dots fills on its own. -/
theorem exists_dots_iff {ts : List Template} (hsimple : ∀ t ∈ ts, t = [] ∨ isSimple t = true)
    (hsign : ∀ t ∈ ts, .fixed '%' ∉ t) :
    (∃ s ∈ ts.map fun t ↦ String.ofList (fill args t), s = "." ∨ s = "..") ↔
      ∃ arg ∈ ts.filterMap place?, args.text? arg = some "." ∨ args.text? arg = some ".." := by
  constructor
  · rintro ⟨s, hs, hdots⟩
    obtain ⟨t, ht, rfl⟩ := List.mem_map.1 hs
    have hdotted : Url.isDotted (String.ofList (fill args t)) = true := by
      rcases hdots with hdots | hdots <;> rw [hdots] <;> decide
    rcases hsimple t ht with rfl | hsimple
    · cases hdotted
    · obtain ⟨arg, dots, hplace, htext, hdots⟩ :=
        exists_of_isDotted_fill hsimple (hsign t ht) hdotted
      refine ⟨arg, List.mem_filterMap.2 ⟨t, ht, hplace⟩, ?_⟩
      rw [htext]
      exact hdots.imp (congrArg some) (congrArg some)
  · rintro ⟨arg, harg, htext⟩
    obtain ⟨t, ht, hplace⟩ := List.mem_filterMap.1 harg
    refine ⟨_, List.mem_map.2 ⟨t, ht, rfl⟩, ?_⟩
    rcases htext with htext | htext
    · exact .inl (fill_of_dots hplace (.inl rfl) htext)
    · exact .inr (fill_of_dots hplace (.inr rfl) htext)

end Template

/-! ## The part of a path that an operation gives -/

namespace Operation

/-- The segments of the path behind the base of an address. -/
def pathSegments (op : Operation) (args : Args) : List String :=
  ((Piece.renderAll args op.path).toList.splitOn '/').map String.ofList

/-- The arguments that each fill a segment behind the base on their own. -/
def fillers (op : Operation) : List String :=
  (Template.segments (.ofPieces op.path)).filterMap Template.place?

/-- Behind the base, the segments are of the two kinds, unless they are empty. -/
def isRegular (op : Operation) : Bool :=
  (Template.segments (.ofPieces op.path)).all (fun t ↦ t.isEmpty || Template.isSimple t) &&
    Template.isPathLike (.ofPieces op.path)

theorem exists_dots_iff {op : Operation} (h : op.isRegular = true) (args : Args) :
    (∃ s ∈ op.pathSegments args, s = "." ∨ s = "..") ↔
      ∃ arg ∈ op.fillers, args.text? arg = some "." ∨ args.text? arg = some ".." := by
  rw [isRegular, Bool.and_eq_true, List.all_eq_true] at h
  have hsegments : op.pathSegments args = (Template.segments (.ofPieces op.path)).map
      fun t ↦ String.ofList (Template.fill args t) := by
    rw [pathSegments, ← Template.fill_ofPieces, Template.splitOn_fill, List.map_map]
    rfl
  rw [hsegments]
  refine Template.exists_dots_iff (fun t ht ↦ ?_) fun t ht hsign ↦
    Template.percent_notMem_of_isPathLike h.2 (mem_of_mem_splitOnP ht hsign)
  simpa using h.1 t ht

end Operation

theorem Catalog.isRegular_of_mem_operations : ∀ c ∈ all, ∀ e ∈ c.operations.entries,
    e.2.isRegular = true := by
  intro c hc
  simp only [all, List.mem_cons, List.not_mem_nil, or_false] at hc
  rcases hc with rfl | rfl | rfl | rfl | rfl | rfl | rfl
  all_goals exact Table.forall_mem_entries_ofList (by decide +kernel)

/-! ## Messages for calls -/

namespace Http.Network

variable {agent : Option String} {r : Request} {m : Message}

theorem scheme_path_splitUser (u : Url) :
    (splitUser u).1.scheme = u.scheme ∧ (splitUser u).1.path = u.path := by
  rw [splitUser]
  cases decoded? u.username with
  | none => exact ⟨rfl, rfl⟩
  | some name =>
    dsimp only
    generalize (if u.password = "" then none else decoded? u.password) = password
    split <;> exact ⟨rfl, rfl⟩

theorem scheme_path_withParams (u : Url) (params : List (String × String)) :
    (u.withParams params).scheme = u.scheme ∧ (u.withParams params).path = u.path := by
  unfold Url.withParams
  split <;> exact ⟨rfl, rfl⟩

/-- What is done to an address after it was read leaves its scheme and its path alone. -/
theorem exists_read?_of_message (h : message agent r = .ok m) :
    ∃ u, Url.read? r.url = some u ∧ m.url.path = u.path ∧
      (u.scheme = "http" ∨ u.scheme = "https") := by
  rw [message] at h
  cases hread : Url.read? r.url with
  | none =>
    rw [hread] at h
    cases h
  | some u =>
    simp only [hread] at h
    split at h
    · cases h
    · split at h
      · cases h
      · split at h
        · cases h
        · rename_i hweb
          -- What passes all checks has had its user taken out and its parameters put in.
          obtain ⟨hscheme, hpath⟩ := scheme_path_splitUser u
          obtain ⟨hscheme', hpath'⟩ := scheme_path_withParams (splitUser u).1 r.params
          cases h
          refine ⟨u, rfl, hpath'.trans hpath, ?_⟩
          rw [← hscheme, ← hscheme']
          simp only [isWebAddress, Bool.not_eq_true', Bool.not_eq_false, Bool.and_eq_true,
            Bool.or_eq_true, decide_eq_true_eq] at hweb
          exact hweb.1.1

/-- No message goes to an address with dots in its path. -/
theorem exists_segments_of_message (h : message agent r = .ok m) :
    ∃ segments, m.url.path = .segments segments ∧ ∀ s ∈ segments, s ≠ "." ∧ s ≠ ".." := by
  obtain ⟨u, hread, hpath, hweb⟩ := exists_read?_of_message h
  obtain ⟨segments, hsegments⟩ := Url.exists_segments_of_read? hread hweb
  refine ⟨_, hpath.trans hsegments, fun s hs ↦ ?_⟩
  have hkept : Url.isDotted s = false := Url.isDotted_of_mem_resolve (List.forall_mem_nil _) s hs
  refine ⟨?_, ?_⟩
  · rintro rfl
    cases hkept
  · rintro rfl
    cases hkept

end Http.Network

/-! ## Paths that are sent as they were built -/

theorem Catalog.toList_domain_ne_nil : ∀ p ∈ sites, p.2.domain.toList ≠ [] := by
  decide +kernel

namespace Call.Addressed

variable {c : Connector} {args : Args} {call : Call} {site : Site} {op : Operation}
  (h : call.Addressed c args site op)
include h

theorem exists_of_isDotted {t : Template} (ht : t ∈ site.segments op)
    (hdotted : Url.isDotted (String.ofList (Template.fill args t)) = true) :
    ∃ arg dots, Template.place? t = some arg ∧ args.text? arg = some dots ∧
      (dots = "." ∨ dots = "..") := by
  have hsign : .fixed '%' ∉ t := fun hsign ↦ Template.percent_notMem_of_isPathLike
    (Site.isPathLike_tail h.isRegular) (mem_of_mem_splitOnP ht hsign)
  exact Template.exists_of_isDotted_fill (Site.isSimple_of_mem_segments h.isRegular ht) hsign
    hdotted

/-- The segments that are resolved are the bare dots. -/
theorem isDotted_iff {s : String} (hs : s ∈ call.pathSegments) :
    Url.isDotted s = true ↔ s = "." ∨ s = ".." := by
  constructor
  · rw [h.pathSegments_eq] at hs
    obtain ⟨t, ht, rfl⟩ := List.mem_map.1 hs
    intro hdotted
    obtain ⟨arg, dots, hplace, htext, hdots⟩ := h.exists_of_isDotted ht hdotted
    rw [Template.fill_of_dots hplace hdots htext]
    exact hdots
  · rintro (rfl | rfl)
    · decide
    · decide

theorem exists_dots_iff :
    (∃ s ∈ call.pathSegments, s = "." ∨ s = "..") ↔
      ∃ arg ∈ site.fillers op, args.text? arg = some "." ∨ args.text? arg = some ".." := by
  rw [h.pathSegments_eq]
  exact Template.exists_dots_iff (fun t ht ↦ .inr (Site.isSimple_of_mem_segments h.isRegular ht))
    fun t ht hsign ↦ Template.percent_notMem_of_isPathLike (Site.isPathLike_tail h.isRegular)
      (mem_of_mem_splitOnP ht hsign)

/-- The address is read with the path that was built, but for its dots. -/
theorem read?_url : Url.read? call.url = (Url.Host.read? (site.host args).toList).map fun host ↦
    { scheme := "https"
      host := some host
      path := .segments (Url.resolve false [] call.pathSegments) } := by
  have hhost : ∀ ch ∈ (site.host args).toList, Url.isInert ch = true := fun ch hch ↦ by
    rcases h.isPlainChar_or_eq_of_mem_host hch with hplain | rfl
    · rw [Url.isInert, hplain, Bool.true_or]
    · rfl
  have hne : (site.host args).toList ≠ [] := by
    have hdomain := Catalog.toList_domain_ne_nil _ h.site_mem
    unfold Site.host
    split
    · exact hdomain
    · rw [String.toList_append]
      exact List.append_ne_nil_of_right_ne_nil _ hdomain
  rw [h.pathSegments_eq_splitOn]
  exact Url.read?_plain h.toList_url_eq hne hhost fun ch hch ↦
    Template.isPathChar_of_mem_fill (Site.isPathLike_tail h.isRegular) hch

end Call.Addressed

/-- **A path is sent as it was built unless an argument is dots.** Wherever a call goes, a segment
of its operation's path is a dot or two exactly if the argument that fills it is, and no message has
such a segment. At the address of the service itself this is said of the whole path: these segments
are the ones that are resolved, and with one of them a message goes to another path than the one
that was built and shown. -/
theorem path_sent_as_built_iff {c : Connector} (hc : c ∈ Catalog.all) {base : Option String}
    {args : Args} {call : Call} (h : c.prepare base args = .ok call) :
    (∃ op, c.operations.get? call.operation = some op ∧
      call.url = c.baseUrl base args ++ Piece.renderAll args op.path ∧
      ((∃ s ∈ op.pathSegments args, s = "." ∨ s = "..") ↔
        ∃ arg ∈ op.fillers, args.text? arg = some "." ∨ args.text? arg = some "..")) ∧
    (∀ (agent : Option String) (headers : List (String × String)) (timeout : Nat)
      (m : Http.Message), Http.Network.message agent (call.request headers timeout) = .ok m →
      ∃ segments, m.url.path = .segments segments ∧ ∀ s ∈ segments, s ≠ "." ∧ s ≠ "..") ∧
    (base = none → c.base.isNamed args = false → ∃ site op, call.Addressed c args site op ∧
      ((∃ s ∈ call.pathSegments, s = "." ∨ s = "..") ↔
        ∃ arg ∈ site.fillers op, args.text? arg = some "." ∨ args.text? arg = some "..") ∧
      ∀ (agent : Option String) (headers : List (String × String)) (timeout : Nat)
        (m : Http.Message), Http.Network.message agent (call.request headers timeout) = .ok m →
        m.url.path = .segments (Url.resolve false [] call.pathSegments) ∧
        (m.url.path = .segments call.pathSegments ↔
          ∀ s ∈ call.pathSegments, s ≠ "." ∧ s ≠ "..")) := by
  refine ⟨?_, fun agent headers timeout m hm ↦ Http.Network.exists_segments_of_message hm, ?_⟩
  · obtain ⟨name, op, haccept, rfl⟩ := Connector.prepare_eq_ok_iff.1 h
    have hop : c.operations.get? name = some op := (Connector.accept_eq_ok_iff.1 haccept).2.1
    exact ⟨op, hop, rfl, Operation.exists_dots_iff
      (Catalog.isRegular_of_mem_operations c hc _ (Table.get?_eq_some_iff.1 hop)) args⟩
  · rintro rfl hown
    obtain ⟨site, op, haddress, -⟩ := Catalog.exists_addressed hc hown h
    refine ⟨site, op, haddress, haddress.exists_dots_iff, fun agent headers timeout m hm ↦ ?_⟩
    have hpath : m.url.path = .segments (Url.resolve false [] call.pathSegments) := by
      obtain ⟨u, hread, hpath, -⟩ := Http.Network.exists_read?_of_message hm
      obtain ⟨host, -, rfl⟩ := Option.map_eq_some_iff.1 (haddress.read?_url.symm.trans hread)
      exact hpath
    refine ⟨hpath, ?_⟩
    rw [hpath, Url.Path.segments.injEq, Url.resolve_eq_self_iff]
    refine forall₂_congr fun s hs ↦ ?_
    rw [← not_or, ← haddress.isDotted_iff hs, Bool.not_eq_true]

/-- Arguments for the issues of a project whose path has dots in it. -/
def dottedProject : Args :=
  ⟨.ofList [("operation", .str "list_issues"), ("project_id", .str "group/../app"),
    ("private_token", .str "t")]⟩

theorem dotted_project_is_sent_as_built :
    Catalog.GitLab.connector ∈ Catalog.all ∧
      Catalog.GitLab.connector.base.isNamed dottedProject = false ∧
      ∃ call m, Catalog.GitLab.connector.prepare none dottedProject = .ok call ∧
        Http.Network.message none (call.request [] 30) = .ok m ∧
        call.pathSegments = ["api", "v4", "projects", "group%2F..%2Fapp", "issues"] ∧
        m.url.path = .segments call.pathSegments := by
  have hc : Catalog.GitLab.connector ∈ Catalog.all := by simp [Catalog.all]
  have hvalues : (Catalog.GitLab.connector.prepare none dottedProject).toOption.map (fun call ↦
      (call.pathSegments, (Http.Network.message none (call.request [] 30)).toOption.map (·.method)))
      = some (["api", "v4", "projects", "group%2F..%2Fapp", "issues"], some .get) := by
    decide +kernel
  obtain ⟨call, hcall, hvalues⟩ := exists_eq_ok_of_toOption hvalues
  obtain ⟨hsegments, hmessage⟩ := Prod.mk.inj hvalues
  obtain ⟨m, hm, -⟩ := exists_eq_ok_of_toOption hmessage
  obtain ⟨site, op, -, -, hsent⟩ := (path_sent_as_built_iff hc hcall).2.2 rfl rfl
  refine ⟨hc, rfl, call, m, hcall, hm, hsegments, (hsent none [] 30 m hm).2.2 ?_⟩
  rw [hsegments]
  decide

/-- A contact named by two dots is accepted, and what is asked for lies outside of the contacts. -/
theorem contact_lookup_by_dots_leaves_contacts :
    ∃ call m, Catalog.HubSpot.connector.prepare none (contactLookup (.str "..")) = .ok call ∧
      Http.Network.message none (call.request [] 30) = .ok m ∧
      call.pathSegments = ["crm", "v3", "objects", "contacts", ".."] ∧
      m.url.path = .segments ["crm", "v3", "objects", ""] := by
  have hvalues : (Catalog.HubSpot.connector.prepare none (contactLookup (.str ".."))).toOption.map
      (fun call ↦ (call.pathSegments,
        (Http.Network.message none (call.request [] 30)).toOption.map (·.url.path)))
      = some (["crm", "v3", "objects", "contacts", ".."],
        some (.segments ["crm", "v3", "objects", ""])) := by
    decide +kernel
  obtain ⟨call, hcall, hvalues⟩ := exists_eq_ok_of_toOption hvalues
  obtain ⟨hsegments, hmessage⟩ := Prod.mk.inj hvalues
  obtain ⟨m, hm, hpath⟩ := exists_eq_ok_of_toOption hmessage
  exact ⟨call, m, hcall, hm, hsegments, hpath⟩

end ServiceCall

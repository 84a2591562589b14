import Mathlib.Data.List.TakeWhile
import Mathlib.Data.Option.Basic
import ServiceCall.Proofs.Escapes
import ServiceCall.Proofs.Splitting
import ServiceCall.Url.Reader

/-!
# Reading plain addresses

Reading an address is lenient in many ways: white space, backslashes, users, ports, a query. None of
this concerns an address that consists of a host, a slash and a path and is escaped throughout. Such
a plain address is read as it is written (`Url.read?_plain`), but for its dots, which are resolved
(`Url.resolve`).

## Where leniency ends

Each stage of reading looks for characters of its own, and all it needs to know of a plain address
is that they are missing there. So the stages share one fact about single characters,
`Url.missing_of_isPathChar`, and each is stated for the part of the address that is left to it.

Of other addresses one thing is needed as well: no leniency lets dots into the path of a web server
(`Url.exists_segments_of_read?`).
-/

namespace ServiceCall.Url

open Encoding.Percent (isPlainChar)

/-- Characters of escaped texts. -/
def isInert (c : Char) : Bool := isPlainChar c || c = '%'

/-- Characters of plain paths. -/
def isPathChar (c : Char) : Bool := isInert c || c = '/' || c = ':'

theorem toNat_lt_of_isPathChar {c : Char} (h : isPathChar c = true) : c.toNat < 0x80 := by
  simp only [isPathChar, isInert, Bool.or_eq_true, decide_eq_true_eq] at h
  rcases h with ((hplain | rfl) | rfl) | rfl
  · exact Encoding.Percent.toNat_lt_of_isPlainChar hplain
  all_goals decide

theorem isPathChar_of_isInert {c : Char} (h : isInert c = true) : isPathChar c = true := by
  rw [isPathChar, h]
  rfl

/-- No stage finds what it looks for, but for slashes. -/
theorem missing_of_isPathChar {c : Char} (h : isPathChar c = true) :
    isOuterSpace c = false ∧ isDropped c = false ∧ isPathEnd c = false ∧ inPath c = false ∧
      isSlash true c = (c == '/') ∧ (isInert c = true → isAuthorityEnd true c = false) :=
  Encoding.Percent.forall_ascii (P := fun c ↦ isPathChar c = true →
    isOuterSpace c = false ∧ isDropped c = false ∧ isPathEnd c = false ∧ inPath c = false ∧
      isSlash true c = (c == '/') ∧ (isInert c = true → isAuthorityEnd true c = false))
    (by decide +kernel) (toNat_lt_of_isPathChar h) h

/-! ## White space -/

theorem isOuterSpace_of_isPathChar {c : Char} (h : isPathChar c = true) : isOuterSpace c = false :=
  (missing_of_isPathChar h).1

theorem isDropped_of_isPathChar {c : Char} (h : isPathChar c = true) : isDropped c = false :=
  (missing_of_isPathChar h).2.1

theorem dropWhile_isOuterSpace {cs : List Char} (h : ∀ c ∈ cs, isPathChar c = true) :
    cs.dropWhile isOuterSpace = cs := by
  refine List.dropWhile_eq_self_iff.2 fun hl ↦ ?_
  rw [isOuterSpace_of_isPathChar (h _ (List.getElem_mem hl))]
  exact Bool.false_ne_true

theorem significant_eq {s : String} (h : ∀ c ∈ s.toList, isPathChar c = true) :
    significant s = s.toList := by
  rw [significant, dropWhile_isOuterSpace h,
    dropWhile_isOuterSpace fun c hc ↦ h c (List.mem_reverse.1 hc), List.reverse_reverse]
  refine List.filter_eq_self.2 fun c hc ↦ ?_
  rw [isDropped_of_isPathChar (h c hc)]
  rfl

/-! ## Scheme -/

theorem scheme?_https (cs : List Char) :
    scheme? ("https://".toList ++ cs) = some ("https", '/' :: '/' :: cs) := by
  have hletters (ds : List Char) : "https://".toList ++ ds
      = ['h', 't', 't', 'p', 's'] ++ ':' :: '/' :: '/' :: ds := by simp
  rw [scheme?, hletters, List.takeWhile_append_of_pos (List.all_eq_true.1 (by decide)),
    List.takeWhile_cons_of_neg (by decide), List.append_nil, List.drop_left]
  simp

/-! ## Host -/

theorem guard_eq_some {p : Prop} [Decidable p] (h : p) : (guard p : Option Unit) = some () :=
  if_pos h

section Host

variable {host rest : List Char} (hhost : ∀ c ∈ host, isInert c = true)

theorem isAuthorityEnd_of_isInert {c : Char} (h : isInert c = true) :
    isAuthorityEnd true c = false :=
  (missing_of_isPathChar (isPathChar_of_isInert h)).2.2.2.2.2 h

/-- Characters with a meaning in front of a path. -/
theorem ne_of_isInert {c : Char} (h : isInert c = true) : c ≠ ':' ∧ c ≠ '@' ∧ c ≠ '[' := by
  refine ⟨?_, ?_, ?_⟩
  all_goals
    rintro rfl
    cases h

include hhost

/-- The slashes behind a scheme end with the host. -/
theorem dropWhile_isSlash (hne : host ≠ []) :
    (host ++ '/' :: rest).dropWhile (isSlash true) = host ++ '/' :: rest := by
  obtain ⟨c, cs, rfl⟩ := List.exists_cons_of_ne_nil hne
  have hc := isAuthorityEnd_of_isInert (hhost c List.mem_cons_self)
  rw [isAuthorityEnd, Bool.or_eq_false_iff] at hc
  rw [List.cons_append, List.dropWhile_cons_of_neg]
  rw [hc.1]
  exact Bool.false_ne_true

theorem splitUser?_of_isInert :
    splitUser? true (host ++ '/' :: rest) = some ([], host ++ '/' :: rest) := by
  have hauthority : (host ++ '/' :: rest).takeWhile (fun c ↦ !isAuthorityEnd true c) = host := by
    rw [List.takeWhile_append_of_pos, List.takeWhile_cons_of_neg (by decide), List.append_nil]
    intro c hc
    rw [isAuthorityEnd_of_isInert (hhost c hc)]
    rfl
  have hsign : host.reverse.takeWhile (fun c ↦ decide (c ≠ '@')) = host.reverse :=
    List.takeWhile_eq_self_iff.2 fun c hc ↦
      decide_eq_true (ne_of_isInert (hhost c (List.mem_reverse.1 hc))).2.1
  rw [splitUser?, hauthority, hsign, List.reverse_reverse]
  exact if_pos rfl

theorem splitHost_of_isInert :
    splitHost true false (host ++ '/' :: rest) = (host, '/' :: rest) := by
  induction host with
  | nil => rfl
  | cons c host ih =>
    have hc := hhost c List.mem_cons_self
    obtain ⟨hcolon, -, hbracket⟩ := ne_of_isInert hc
    rw [List.cons_append, splitHost]
    simp [isAuthorityEnd_of_isInert hc, hcolon, hbracket,
      ih fun d hd ↦ hhost d (List.mem_cons_of_mem c hd)]

theorem withHost?_of_isInert (hne : host ≠ []) :
    withHost? { scheme := "https" } (host ++ '/' :: rest) = (Host.read? host).map fun h ↦
      ({ scheme := "https", host := some h }, '/' :: rest) := by
  have hspecial : isSpecial "https" = true := by decide
  have hfilled : (!true || !host.isEmpty) = true := by
    cases host with
    | nil => exact absurd rfl hne
    | cons c cs => rfl
  unfold withHost?
  dsimp only
  rw [hspecial, splitHost_of_isInert hhost, guard_eq_some hfilled]
  cases Host.read? host with
  | none => rfl
  | some h =>
    rw [Option.bind_eq_bind, Option.bind_some, if_pos rfl, Option.bind_eq_bind, Option.bind_some,
      guard_eq_some (by simp)]
    rfl

theorem withAuthority?_of_isInert (hne : host ≠ []) :
    withAuthority? { scheme := "https" } (host ++ '/' :: rest) = (Host.read? host).map fun h ↦
      withSegments { scheme := "https", host := some h } rest := by
  have hspecial : isSpecial "https" = true := by decide
  have huser : withUser { scheme := "https" } [] = { scheme := "https" } := by decide
  simp only [withAuthority?, hspecial, splitUser?_of_isInert hhost, Option.bind_eq_bind,
    Option.bind_some, huser, withHost?_of_isInert hhost hne]
  cases Host.read? host with
  | none => rfl
  | some h => rfl

end Host

/-! ## Path -/

theorem isPathEnd_of_isPathChar {c : Char} (h : isPathChar c = true) : isPathEnd c = false :=
  (missing_of_isPathChar h).2.2.1

theorem inPath_of_isPathChar {c : Char} (h : isPathChar c = true) : inPath c = false :=
  (missing_of_isPathChar h).2.2.2.1

theorem isSlash_of_isPathChar {c : Char} (h : isPathChar c = true) : isSlash true c = (c == '/') :=
  (missing_of_isPathChar h).2.2.2.2.1

theorem encode_of_isPathChar {cs : List Char} (h : ∀ c ∈ cs, isPathChar c = true) :
    encode inPath cs = String.ofList cs := by
  rw [encode]
  congr 1
  induction cs with
  | nil => rfl
  | cons c cs ih =>
    rw [List.flatMap_cons, inPath_of_isPathChar (h c List.mem_cons_self),
      ih fun d hd ↦ h d (List.mem_cons_of_mem c hd)]
    rfl

theorem withSegments_of_isPathChar {u : Url} (hspecial : isSpecial u.scheme = true)
    (hfile : u.scheme ≠ "file") {rest : List Char} (hrest : ∀ c ∈ rest, isPathChar c = true) :
    withSegments u rest
      = { u with path := .segments (resolve false [] ((rest.splitOn '/').map String.ofList)) } := by
  have hpath : rest.takeWhile (fun c ↦ !isPathEnd c) = rest :=
    List.takeWhile_eq_self_iff.2 fun c hc ↦ by rw [isPathEnd_of_isPathChar (hrest c hc)]; rfl
  have hsplit : rest.splitOnP (isSlash true) = rest.splitOn '/' :=
    splitOnP_congr fun c hc ↦ isSlash_of_isPathChar (hrest c hc)
  have hencode : (rest.splitOn '/').map (encode inPath) = (rest.splitOn '/').map String.ofList :=
    List.map_congr_left fun part hpart ↦ encode_of_isPathChar fun c hc ↦
      hrest c (mem_of_mem_splitOnP hpart hc)
  rw [withSegments, hpath, hspecial, hsplit, hencode, decide_eq_false hfile, List.drop_length,
    withResolved, if_neg hfile]
  rfl

/-- **A plain address is read as it is written,** but for the dots in its path. -/
theorem read?_plain {s : String} {host rest : List Char}
    (hs : s.toList = "https://".toList ++ host ++ '/' :: rest) (hne : host ≠ [])
    (hhost : ∀ c ∈ host, isInert c = true) (hrest : ∀ c ∈ rest, isPathChar c = true) :
    read? s = (Host.read? host).map fun h ↦
      { scheme := "https"
        host := some h
        path := .segments (resolve false [] ((rest.splitOn '/').map String.ofList)) } := by
  have hspecial : isSpecial "https" = true := by decide
  -- No character is dropped before the stages begin.
  have hchars : ∀ c ∈ s.toList, isPathChar c = true := by
    rw [hs]
    simp only [List.mem_append, List.mem_cons]
    rintro c ((hc | hc) | rfl | hc)
    · exact List.all_eq_true.1 (by decide) c hc
    · exact isPathChar_of_isInert (hhost c hc)
    · decide
    · exact hrest c hc
  have hslashes : ('/' :: '/' :: (host ++ '/' :: rest)).dropWhile (isSlash true)
      = host ++ '/' :: rest := by
    rw [List.dropWhile_cons_of_pos rfl, List.dropWhile_cons_of_pos rfl]
    exact dropWhile_isSlash hhost hne
  have hfile : "https" ≠ "file" := by decide
  simp only [read?, significant_eq hchars, hs, List.append_assoc, scheme?_https,
    Option.bind_eq_bind, Option.bind_some, hfile, if_false, hspecial, if_true, hslashes,
    withAuthority?_of_isInert hhost hne]
  exact Option.map_congr fun h _ ↦ withSegments_of_isPathChar hspecial hfile hrest

/-! ## Schemes and paths

However an address is read, it has the scheme that it begins with, and the path of a web server has
gone through the resolving of dots. -/

theorem scheme_path_withTail (u : Url) (cs : List Char) :
    (withTail u cs).scheme = u.scheme ∧ (withTail u cs).path = u.path := by
  unfold withTail
  split
  · dsimp only
    split <;> exact ⟨rfl, rfl⟩
  · exact ⟨rfl, rfl⟩
  · exact ⟨rfl, rfl⟩

theorem scheme_withResolved (u : Url) (segments : List String) :
    (withResolved u segments).scheme = u.scheme := by
  unfold withResolved
  split <;> rfl

theorem scheme_withSegments (u : Url) (cs : List Char) :
    (withSegments u cs).scheme = u.scheme := by
  rw [withSegments, (scheme_path_withTail _ _).1, scheme_withResolved]

theorem scheme_withPath (u : Url) (cs : List Char) : (withPath u cs).scheme = u.scheme := by
  unfold withPath
  dsimp only
  split
  · split
    · exact scheme_withSegments _ _
    · split
      · exact scheme_withSegments _ _
      · exact (scheme_path_withTail _ _).1
  · split
    · exact scheme_withSegments _ _
    · rfl

theorem scheme_withHost? {u v : Url} {cs rest : List Char} (h : withHost? u cs = some (v, rest)) :
    v.scheme = u.scheme := by
  unfold withHost? at h
  dsimp only at h
  simp only [Option.bind_eq_bind, Option.bind_eq_some_iff] at h
  obtain ⟨_, _, h⟩ := h
  split at h
  all_goals
    simp only [Option.bind_eq_some_iff] at h
    obtain ⟨_, _, _, _, h⟩ := h
    cases h
    rfl

theorem scheme_withPort? {u v : Url} {cs rest : List Char} (h : withPort? u cs = some (v, rest)) :
    v.scheme = u.scheme := by
  unfold withPort? at h
  split at h
  · simp only [Option.bind_eq_bind, Option.bind_eq_some_iff] at h
    obtain ⟨-, -, -, -, h⟩ := h
    cases h
    rfl
  · cases h
    rfl

/-- What follows the authority is read as a path. -/
theorem exists_withPath_of_withAuthority? {u v : Url} {cs : List Char}
    (h : withAuthority? u cs = some v) :
    ∃ w rest, w.scheme = u.scheme ∧ v = withPath w rest := by
  simp only [withAuthority?, Option.bind_eq_bind, Option.bind_eq_some_iff] at h
  obtain ⟨_, _, _, hhost, ⟨w, rest⟩, hport, h⟩ := h
  cases h
  have hscheme : w.scheme = u.scheme := by
    rw [scheme_withPort? hport, scheme_withHost? hhost, withUser]
  exact ⟨w, rest, hscheme, rfl⟩

theorem scheme_withFile? {u v : Url} {cs : List Char} (h : withFile? u cs = some v) :
    v.scheme = u.scheme := by
  unfold withFile? at h
  dsimp only at h
  split at h
  · split at h
    · split at h
      · cases h
        exact scheme_withSegments _ _
      · split at h
        all_goals
          simp only [Option.bind_eq_bind, Option.bind_eq_some_iff] at h
          obtain ⟨_, _, h⟩ := h
          split at h
          · cases h
            exact scheme_withSegments _ _
          · cases h
            exact scheme_withPath _ _
    · cases h
      exact scheme_withPath _ _
  · cases h
    exact scheme_withPath _ _

theorem exists_segments_withSegments {u : Url} (hfile : u.scheme ≠ "file") (cs : List Char) :
    ∃ segments, (withSegments u cs).path = .segments (resolve false [] segments) := by
  rw [withSegments, (scheme_path_withTail _ _).2, withResolved, if_neg hfile,
    decide_eq_false hfile]
  exact ⟨_, rfl⟩

theorem exists_segments_withPath {u : Url} (hspecial : isSpecial u.scheme = true)
    (hfile : u.scheme ≠ "file") (cs : List Char) :
    ∃ segments, (withPath u cs).path = .segments (resolve false [] segments) := by
  unfold withPath
  dsimp only
  rw [hspecial]
  split
  · split
    · exact exists_segments_withSegments hfile _
    · rw [Bool.true_or, if_pos rfl]
      exact exists_segments_withSegments hfile _
  · rw [if_pos rfl]
    exact exists_segments_withSegments hfile _

/-- **The dots in an address of a web server are resolved,** however leniently it is read. -/
theorem exists_segments_of_read? {s : String} {u : Url} (h : read? s = some u)
    (hweb : u.scheme = "http" ∨ u.scheme = "https") :
    ∃ segments, u.path = .segments (resolve false [] segments) := by
  have hspecial : isSpecial u.scheme = true ∧ u.scheme ≠ "file" := by
    rcases hweb with hweb | hweb <;> rw [hweb] <;> decide
  simp only [read?, Option.bind_eq_bind, Option.bind_eq_some_iff] at h
  obtain ⟨⟨scheme, rest⟩, -, h⟩ := h
  dsimp only at h
  split at h
  · rename_i hfile
    exact absurd ((scheme_withFile? h).trans hfile) hspecial.2
  · split at h
    · obtain ⟨w, rest', hscheme, rfl⟩ := exists_withPath_of_withAuthority? h
      rw [scheme_withPath] at hspecial
      exact exists_segments_withPath hspecial.1 hspecial.2 rest'
    · rename_i hnot
      have hscheme : u.scheme = scheme := by
        split at h
        · obtain ⟨w, rest', hscheme, rfl⟩ := exists_withPath_of_withAuthority? h
          exact (scheme_withPath w rest').trans hscheme
        · cases h
          exact scheme_withPath _ _
        · cases h
          exact (scheme_path_withTail _ _).1
      rw [hscheme] at hspecial
      exact absurd hspecial.1 hnot

end ServiceCall.Url

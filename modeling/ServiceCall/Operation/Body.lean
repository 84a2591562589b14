import ServiceCall.Args

/-!
# Request bodies

A body is an object built step by step from the arguments. Most steps copy an argument when it is
present and do nothing otherwise, so that a body holds what the caller supplied and no more.

Steps are data rather than functions: which arguments a body depends on can be read off them
(`Part.reads`), and a law about all bodies is one induction over the steps.
-/

namespace ServiceCall

abbrev Payload := Table Json

/-- One step in building an object; `key` is where the result goes. -/
inductive Part where
  /-- An argument unchanged, when it is present. -/
  | copy (arg key : String)
  /-- An argument unchanged, or the default. -/
  | copyOr (arg key : String) (default : Json)
  /-- An argument unchanged, when it is a list. -/
  | copyList (arg key : String)
  /-- The text of an argument, or the default. -/
  | text (arg key default : String)
  /-- A string argument even if it is blank, or the empty string. -/
  | verbatim (arg key : String)
  | flag (arg key : String)
  | const (key : String) (value : Json)
  /-- An object built by further steps. -/
  | object (key : String) (parts : List Part)
  /-- A list that holds one object built by further steps. -/
  | single (key : String) (parts : List Part)
  /-- Further steps, when the argument is present. -/
  | ifPresent (arg : String) (parts : List Part)
  /-- Further steps, when the argument has a text. -/
  | ifText (arg : String) (parts : List Part)
  /-- The entries of an object argument that are neither null nor blank. -/
  | presentEntries (arg : String)
  /-- All entries of an object argument. -/
  | entries (arg : String)
  /-- The rows of a list argument, each with the identifier that it holds under the key named by
  another argument. -/
  | rows (arg idArg key : String)

namespace Part

/-! ## Rows -/

/-- The identifier of a row: a string as it is, any other value as its JSON text. -/
def rowId? (idKey : Option String) (row : Json) : Option String :=
  (idKey.bind row.field?).map fun
    | .str s => s
    | v => v.compact

def rowEntry (idKey : Option String) (row : Json) : Json :=
  .object (("json", row) :: ((rowId? idKey row).map fun id ↦ ("insertId", .str id)).toList)

def rowEntries (args : Args) (arg idArg : String) : Json :=
  .arr ((((args.present? arg).bind Json.items?).getD []).map (rowEntry (args.string? idArg)))

/-! ## Building -/

def addAll (payload : Payload) (fields : List (String × Json)) : Payload :=
  fields.foldl (fun t e ↦ t.insert e.1 e.2) payload

def addOption (payload : Payload) (key : String) : Option Json → Payload
  | none => payload
  | some v => payload.insert key v

mutual

def apply (args : Args) (payload : Payload) : Part → Payload
  | copy arg key => addOption payload key (args.present? arg)
  | copyOr arg key default => payload.insert key ((args.present? arg).getD default)
  | copyList arg key =>
    addOption payload key ((args.present? arg).filter fun v ↦ v.items?.isSome)
  | text arg key default => payload.insert key (.str (args.textOr arg default))
  | verbatim arg key => payload.insert key (.str (args.verbatim arg))
  | flag arg key => payload.insert key (.bool (args.flag arg))
  | const key value => payload.insert key value
  | object key parts => payload.insert key (.ofTable (applyAll args .empty parts))
  | single key parts => payload.insert key (.arr [.ofTable (applyAll args .empty parts)])
  | ifPresent arg parts => if args.isPresent arg then applyAll args payload parts else payload
  | ifText arg parts => if (args.text? arg).isSome then applyAll args payload parts else payload
  | presentEntries arg =>
    addAll payload ((((args.present? arg).bind Json.fields?).getD []).filter (·.2.isPresent))
  | entries arg => addAll payload (((args.present? arg).bind Json.fields?).getD [])
  | rows arg idArg key => payload.insert key (rowEntries args arg idArg)

def applyAll (args : Args) (payload : Payload) : List Part → Payload
  | [] => payload
  | p :: parts => applyAll args (apply args payload p) parts

end

/-- The object that the steps build. -/
def build (parts : List Part) (args : Args) : Payload := applyAll args .empty parts

mutual

/-- The arguments that a step reads. -/
def reads : Part → List String
  | copy arg _ | copyOr arg _ _ | copyList arg _ | text arg _ _ | verbatim arg _ | flag arg _
  | presentEntries arg | entries arg => [arg]
  | const _ _ => []
  | object _ parts | single _ parts => readsAll parts
  | ifPresent arg parts | ifText arg parts => arg :: readsAll parts
  | rows arg idArg _ => [arg, idArg]

def readsAll : List Part → List String
  | [] => []
  | p :: parts => reads p ++ readsAll parts

end

mutual

/-- The arguments of which a step sees even a blank text. -/
def verbatims : Part → List String
  | verbatim arg _ => [arg]
  | object _ parts | single _ parts | ifPresent _ parts | ifText _ parts => verbatimsAll parts
  | copy .. | copyOr .. | copyList .. | text .. | flag .. | const .. | presentEntries _
  | entries _ | rows .. => []

def verbatimsAll : List Part → List String
  | [] => []
  | p :: parts => verbatims p ++ verbatimsAll parts

end

/-- Copies under their own names. -/
def copies (args : List String) : List Part := args.map fun a ↦ copy a a

theorem applyAll_append (args : Args) (payload : Payload) (ps qs : List Part) :
    applyAll args payload (ps ++ qs) = applyAll args (applyAll args payload ps) qs := by
  induction ps generalizing payload with
  | nil => rw [List.nil_append, applyAll]
  | cons p ps ih => rw [List.cons_append, applyAll, applyAll, ih]

/-! ## What a body depends on -/

mutual

theorem apply_congr {a b : Args} (p : Part) (h : ∀ k ∈ reads p, a.present? k = b.present? k)
    (hv : ∀ k ∈ verbatims p, a.verbatim k = b.verbatim k) (payload : Payload) :
    apply a payload p = apply b payload p := by
  cases p with
  | const key value => rfl
  | object key parts =>
    simp only [apply, applyAll_congr parts (by simpa [reads] using h)
      (by simpa [verbatims] using hv)]
  | single key parts =>
    simp only [apply, applyAll_congr parts (by simpa [reads] using h)
      (by simpa [verbatims] using hv)]
  | ifPresent arg parts =>
    have ha : a.isPresent arg = b.isPresent arg := Args.isPresent_congr (h arg (by simp [reads]))
    rw [apply, apply, ha, applyAll_congr parts (fun k hk ↦ h k (by simp [reads, hk]))
      (by simpa [verbatims] using hv)]
  | ifText arg parts =>
    have ha : a.text? arg = b.text? arg := Args.text?_congr (h arg (by simp [reads]))
    rw [apply, apply, ha, applyAll_congr parts (fun k hk ↦ h k (by simp [reads, hk]))
      (by simpa [verbatims] using hv)]
  | rows arg idArg key =>
    have ha : a.present? arg = b.present? arg := h _ (by simp [reads])
    have hi : a.string? idArg = b.string? idArg := Args.string?_congr (h _ (by simp [reads]))
    simp only [apply, rowEntries, ha, hi]
  | text arg key default =>
    rw [apply, apply, Args.textOr_congr (h arg (by simp [reads]))]
  | flag arg key => rw [apply, apply, Args.flag_congr (h arg (by simp [reads]))]
  | verbatim arg key => rw [apply, apply, hv arg (by simp [verbatims])]
  | copy arg | copyOr arg | copyList arg | presentEntries arg | entries arg =>
    have ha : a.present? arg = b.present? arg := h _ (by simp [reads])
    simp only [apply, ha]

/-- A body depends on the arguments it reads and on nothing else, and on whether a text is blank or
left out only where it says so. -/
theorem applyAll_congr {a b : Args} (parts : List Part)
    (h : ∀ k ∈ readsAll parts, a.present? k = b.present? k)
    (hv : ∀ k ∈ verbatimsAll parts, a.verbatim k = b.verbatim k) (payload : Payload) :
    applyAll a payload parts = applyAll b payload parts := by
  match parts with
  | [] => rfl
  | p :: ps =>
    rw [applyAll, applyAll,
      apply_congr p (fun k hk ↦ h k (by simp [readsAll, hk]))
        fun k hk ↦ hv k (by simp [verbatimsAll, hk]),
      applyAll_congr ps (fun k hk ↦ h k (by simp [readsAll, hk]))
        fun k hk ↦ hv k (by simp [verbatimsAll, hk])]

end

mutual

theorem mem_reads_of_mem_verbatims (p : Part) {k : String} (h : k ∈ verbatims p) :
    k ∈ reads p := by
  cases p with
  | verbatim arg key => exact h
  | object _ parts | single _ parts => exact mem_readsAll_of_mem_verbatimsAll parts h
  | ifPresent _ parts | ifText _ parts =>
    exact List.mem_cons_of_mem _ (mem_readsAll_of_mem_verbatimsAll parts h)
  | copy | copyOr | copyList | text | flag | const | presentEntries | entries | rows => cases h

theorem mem_readsAll_of_mem_verbatimsAll (parts : List Part) {k : String}
    (h : k ∈ verbatimsAll parts) : k ∈ readsAll parts := by
  match parts with
  | [] => cases h
  | p :: ps =>
    rw [verbatimsAll, List.mem_append] at h
    rw [readsAll, List.mem_append]
    exact h.imp (mem_reads_of_mem_verbatims p) (mem_readsAll_of_mem_verbatimsAll ps)

end

end Part

end ServiceCall

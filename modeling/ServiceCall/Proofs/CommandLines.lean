import ServiceCall.CommandLine

/-!
# Arguments on the command line

The arguments of a call may stand on the command line or in the input. On the command line they are
the value of an option, and it makes no difference where among the other parts of the call that
option stands (`CommandLine.read?_append_iff`): with it the line reads as the same call, with the
arguments given instead of missing.

## Reading without state

What a part of a command line means does not depend on what was given before; only whether it is
accepted does. So a level is read in two passes, first into steps (`CommandLine.steps`), which the
parts alone determine, and then by taking the steps one after the other. Facts about what is given
are proved for one step and carried along the list.

## The option in front of the rest

Behind the option the rest is read with one value more than without it. The invariant
`CommandLine.WithArgs` says that this is all. It breaks only at a second option of that name, and
there the line that has it twice is refused.
-/

namespace ServiceCall.CommandLine

/-! ## Steps -/

/-- What a part of a level asks for. -/
inductive Step where
  | set (name value : String)
  | turnOn (name : String)
  | addWord (word : String)
  | stop (why : Stop)

def Step.take (level : Level) : Step → Given → Except Stop Given
  | set name value, g => g.set level name value
  | turnOn name, g => g.turnOn level name
  | addWord word, g => g.addWord level word
  | stop why, _ => .error why

/-- The steps that parts behind the command ask for. -/
def steps (level : Level) : List String → List Step
  | [] => []
  | s :: rest =>
    match Part.ofText s with
    | .divider => rest.map .addWord
    | .word => .addWord s :: steps level rest
    | .short c => [.stop (if c = 'h' then .help else .refused)]
    | .long name (some value) => .set name value :: steps level rest
    | .long name none =>
      if name = "help" then [.stop .help]
      else if name ∈ level.switches then .turnOn name :: steps level rest
      else
        match rest with
        | value :: rest =>
          if Part.ofText value = .word then .set name value :: steps level rest
          else [.stop .refused]
        | [] => [.stop .refused]

def takeAll (level : Level) (g : Given) (steps : List Step) : Except Stop Given :=
  steps.foldlM (fun g step ↦ step.take level g) g

theorem takeAll_cons (level : Level) (g : Given) (step : Step) (rest : List Step) :
    takeAll level g (step :: rest) = step.take level g >>= fun g ↦ takeAll level g rest :=
  List.foldlM_cons

theorem takeAll_map_addWord (level : Level) (g : Given) (words : List String) :
    takeAll level g (words.map .addWord) = g.addWords level words := by
  rw [takeAll, List.foldlM_map]
  rfl

theorem bind_readLevel {level : Level} {rest : List String} {more : List Step}
    (h : ∀ g, readLevel level g rest = (takeAll level g more).map fun g ↦ (g, [])) (step : Step)
    (g : Given) :
    (step.take level g >>= fun g ↦ readLevel level g rest)
      = (takeAll level g (step :: more)).map fun g ↦ (g, []) := by
  rw [takeAll_cons]
  cases step.take level g with
  | error why => rfl
  | ok g => exact h g

/-- Nothing is left of a level behind the command. -/
theorem readLevel_eq_takeAll {level : Level} (hinner : level.outer = false) (g : Given)
    (parts : List String) :
    readLevel level g parts = (takeAll level g (steps level parts)).map fun g ↦ (g, []) := by
  have hnot (p : Prop) : ¬ (p ∧ level.outer = true) := fun h ↦ by
    rw [hinner] at h
    exact Bool.false_ne_true h.2
  induction parts using steps.induct level generalizing g with
  | case1 => rw [readLevel, steps]; rfl
  | case2 s rest hs =>
    rw [readLevel, steps, hs]
    simp only [hinner, takeAll_map_addWord]
    rfl
  | case3 s rest hs ih =>
    rw [readLevel, steps, hs]
    simp only [hinner]
    exact bind_readLevel ih (.addWord s) g
  | case4 s rest c hs =>
    rw [readLevel, steps, hs]
    simp only [if_neg (hnot (c = 'V'))]
    split <;> rfl
  | case5 s rest name value hs ih =>
    rw [readLevel, steps, hs]
    exact bind_readLevel ih (.set name value) g
  | case6 s rest hs =>
    rw [readLevel, steps, hs]
    rfl
  | case7 s rest name hs hhelp hswitch ih =>
    rw [readLevel, steps, hs]
    simp only [if_neg hhelp, if_neg (hnot (name = "version")), if_pos hswitch]
    exact bind_readLevel ih (.turnOn name) g
  | case8 s name hs hhelp hswitch value rest hvalue ih =>
    rw [readLevel, steps, hs]
    simp only [if_neg hhelp, if_neg (hnot (name = "version")), if_neg hswitch, if_pos hvalue]
    exact bind_readLevel ih (.set name value) g
  | case9 s name hs hhelp hswitch value rest hvalue =>
    rw [readLevel, steps, hs]
    simp only [if_neg hhelp, if_neg (hnot (name = "version")), if_neg hswitch, if_neg hvalue]
    rfl
  | case10 s name hs hhelp hswitch =>
    rw [readLevel, steps, hs]
    simp only [if_neg hhelp, if_neg (hnot (name = "version")), if_neg hswitch]
    rfl

/-! ## What a step does -/

namespace Given

variable {level : Level} {g k : Given} {name value word : String}

theorem set_eq_ok_iff : g.set level name value = .ok k ↔
    name ∈ level.valued ∧ g.values.lookup name = none ∧ ¬ (name = "config" ∧ value = "") ∧
      k = { g with values := (name, value) :: g.values } := by
  rw [set]
  by_cases hvalued : name ∈ level.valued
  · by_cases hlookup : g.values.lookup name = none
    · by_cases hempty : name = "config" ∧ value = ""
      · simp [hempty]
      · simp [hvalued, hlookup, hempty, eq_comm]
    · have hsome : (g.values.lookup name).isSome = true := Option.isSome_iff_ne_none.2 hlookup
      simp [hvalued, hlookup, hsome]
  · simp [hvalued]

theorem turnOn_eq_ok_iff : g.turnOn level name = .ok k ↔
    name ∈ level.switches ∧ name ∉ g.switches ∧ k = { g with switches := name :: g.switches } := by
  rw [turnOn]
  by_cases hrefused : name ∉ level.switches ∨ name ∈ g.switches
  · rw [if_pos hrefused]
    simp only [reduceCtorEq, false_iff]
    rintro ⟨hknown, hnew, -⟩
    exact hrefused.elim (· hknown) hnew
  · rw [if_neg hrefused, not_or, Decidable.not_not] at *
    simp [hrefused, eq_comm]

theorem addWord_eq_ok_iff : g.addWord level word = .ok k ↔
    g.words.length < level.words ∧ k = { g with words := g.words ++ [word] } := by
  rw [addWord]
  by_cases hlt : g.words.length < level.words
  · simp [hlt, eq_comm]
  · simp [hlt]

end Given

/-- What is given stays. -/
theorem Step.lookup_eq_none {level : Level} {step : Step} {g k : Given} {name : String}
    (h : step.take level g = .ok k) (hnone : k.values.lookup name = none) :
    g.values.lookup name = none := by
  cases step with
  | set other value =>
    obtain ⟨-, -, -, rfl⟩ := Given.set_eq_ok_iff.1 h
    rw [Table.lookup_cons_ite] at hnone
    split at hnone
    · cases hnone
    · exact hnone
  | turnOn switch =>
    obtain ⟨-, -, rfl⟩ := Given.turnOn_eq_ok_iff.1 h
    exact hnone
  | addWord word =>
    obtain ⟨-, rfl⟩ := Given.addWord_eq_ok_iff.1 h
    exact hnone
  | stop why => cases h

theorem takeAll_cons_eq_ok_iff {level : Level} {g k : Given} {step : Step} {rest : List Step} :
    takeAll level g (step :: rest) = .ok k ↔
      ∃ next, step.take level g = .ok next ∧ takeAll level next rest = .ok k := by
  rw [takeAll_cons]
  cases step.take level g with
  | error why => simp [bind, Except.bind]
  | ok next => simp [bind, Except.bind]

theorem lookup_eq_none_of_takeAll {level : Level} {steps : List Step} {g k : Given} {name : String}
    (h : takeAll level g steps = .ok k) (hnone : k.values.lookup name = none) :
    g.values.lookup name = none := by
  induction steps generalizing g with
  | nil =>
    cases h
    exact hnone
  | cons step rest ih =>
    obtain ⟨next, hnext, hrest⟩ := takeAll_cons_eq_ok_iff.1 h
    exact step.lookup_eq_none hnext (ih hrest)

/-! ## One value more -/

/-- What is given here is given there, and arguments beside it. -/
structure WithArgs (text : String) (g g' : Given) : Prop where
  words_eq : g'.words = g.words
  switches_eq : g'.switches = g.switches
  lookup_eq : ∀ name, name ≠ "args" → g'.values.lookup name = g.values.lookup name
  lookup_without : g.values.lookup "args" = none
  lookup_with : g'.values.lookup "args" = some text

/-- Of two readings one succeeds without arguments exactly if the other succeeds, and then there is
no other difference between them. -/
structure Agree (text : String) (without given : Except Stop Given) : Prop where
  of_without : ∀ k, without = .ok k → k.values.lookup "args" = none →
    ∃ k', given = .ok k' ∧ WithArgs text k k'
  of_given : ∀ k', given = .ok k' → ∃ k, without = .ok k ∧ WithArgs text k k'

variable {text : String} {level : Level} {g g' : Given}

theorem WithArgs.set (h : WithArgs text g g') {name : String} (hne : name ≠ "args")
    (value : String) :
    WithArgs text { g with values := (name, value) :: g.values }
      { g' with values := (name, value) :: g'.values } where
  words_eq := h.words_eq
  switches_eq := h.switches_eq
  lookup_eq other hother := by
    rw [Table.lookup_cons_ite, Table.lookup_cons_ite, h.lookup_eq other hother]
  lookup_without := by rw [Table.lookup_cons_ite, if_neg hne.symm, h.lookup_without]
  lookup_with := by rw [Table.lookup_cons_ite, if_neg hne.symm, h.lookup_with]

theorem Step.take_agree (h : WithArgs text g g') (step : Step) :
    Agree text (step.take level g) (step.take level g') := by
  cases step with
  | set name value =>
    by_cases hname : name = "args"
    · -- A second time: without the first one the arguments are given here, with it the line is
      -- refused.
      subst hname
      refine ⟨fun k hk hnone ↦ ?_, fun k' hk' ↦ ?_⟩
      · obtain ⟨-, -, -, rfl⟩ := Given.set_eq_ok_iff.1 hk
        rw [Table.lookup_cons_ite, if_pos rfl] at hnone
        cases hnone
      · have hagain := (Given.set_eq_ok_iff.1 hk').2.1
        rw [h.lookup_with] at hagain
        cases hagain
    · refine ⟨fun k hk _ ↦ ?_, fun k' hk' ↦ ?_⟩
      · obtain ⟨hvalued, hnew, hempty, rfl⟩ := Given.set_eq_ok_iff.1 hk
        rw [← h.lookup_eq name hname] at hnew
        exact ⟨_, Given.set_eq_ok_iff.2 ⟨hvalued, hnew, hempty, rfl⟩, h.set hname value⟩
      · obtain ⟨hvalued, hnew, hempty, rfl⟩ := Given.set_eq_ok_iff.1 hk'
        rw [h.lookup_eq name hname] at hnew
        exact ⟨_, Given.set_eq_ok_iff.2 ⟨hvalued, hnew, hempty, rfl⟩, h.set hname value⟩
  | turnOn name =>
    refine ⟨fun k hk _ ↦ ?_, fun k' hk' ↦ ?_⟩
    · obtain ⟨hknown, hnew, rfl⟩ := Given.turnOn_eq_ok_iff.1 hk
      rw [← h.switches_eq] at hnew
      exact ⟨_, Given.turnOn_eq_ok_iff.2 ⟨hknown, hnew, rfl⟩,
        { h with switches_eq := congrArg (name :: ·) h.switches_eq }⟩
    · obtain ⟨hknown, hnew, rfl⟩ := Given.turnOn_eq_ok_iff.1 hk'
      rw [h.switches_eq] at hnew
      exact ⟨_, Given.turnOn_eq_ok_iff.2 ⟨hknown, hnew, rfl⟩,
        { h with switches_eq := congrArg (name :: ·) h.switches_eq }⟩
  | addWord word =>
    refine ⟨fun k hk _ ↦ ?_, fun k' hk' ↦ ?_⟩
    · obtain ⟨hlt, rfl⟩ := Given.addWord_eq_ok_iff.1 hk
      rw [← h.words_eq] at hlt
      exact ⟨_, Given.addWord_eq_ok_iff.2 ⟨hlt, rfl⟩,
        { h with words_eq := congrArg (· ++ [word]) h.words_eq }⟩
    · obtain ⟨hlt, rfl⟩ := Given.addWord_eq_ok_iff.1 hk'
      rw [h.words_eq] at hlt
      exact ⟨_, Given.addWord_eq_ok_iff.2 ⟨hlt, rfl⟩,
        { h with words_eq := congrArg (· ++ [word]) h.words_eq }⟩
  | stop why => exact ⟨fun k hk ↦ (by cases hk), fun k' hk' ↦ (by cases hk')⟩

theorem takeAll_agree (h : WithArgs text g g') (steps : List Step) :
    Agree text (takeAll level g steps) (takeAll level g' steps) := by
  induction steps generalizing g g' with
  | nil =>
    refine ⟨fun k hk _ ↦ ?_, fun k' hk' ↦ ?_⟩
    · cases hk
      exact ⟨g', rfl, h⟩
    · cases hk'
      exact ⟨g, rfl, h⟩
  | cons step rest ih =>
    refine ⟨fun k hk hnone ↦ ?_, fun k' hk' ↦ ?_⟩
    · obtain ⟨next, hnext, hrest⟩ := takeAll_cons_eq_ok_iff.1 hk
      obtain ⟨next', hnext', hwith⟩ := (step.take_agree h).of_without next hnext
        (lookup_eq_none_of_takeAll hrest hnone)
      obtain ⟨k', hk', hlast⟩ := (ih hwith).of_without k hrest hnone
      exact ⟨k', takeAll_cons_eq_ok_iff.2 ⟨next', hnext', hk'⟩, hlast⟩
    · obtain ⟨next', hnext', hrest⟩ := takeAll_cons_eq_ok_iff.1 hk'
      obtain ⟨next, hnext, hwith⟩ := (step.take_agree h).of_given next' hnext'
      obtain ⟨k, hk, hlast⟩ := (ih hwith).of_given k' hrest
      exact ⟨k, takeAll_cons_eq_ok_iff.2 ⟨next, hnext, hk⟩, hlast⟩

/-! ## The option -/

/-- The parts that give these arguments: the option and its value, which then must not look like an
option itself, or both in one. -/
inductive Passes (text : String) : List String → Prop
  | apart (h : text.toList.head? ≠ some '-') : Passes text ["--args", text]
  | joined : Passes text ["--args=" ++ text]

theorem Part.ofText_eq_word (h : text.toList.head? ≠ some '-') : ofText text = .word := by
  unfold ofText
  split
  · rename_i hdashes
    rw [hdashes] at h
    exact absurd rfl h
  · rename_i hdashes
    rw [hdashes] at h
    exact absurd rfl h
  · rename_i hdash
    rw [hdash] at h
    exact absurd rfl h
  · rfl

theorem Part.ofText_joined (text : String) :
    ofText ("--args=" ++ text) = .long "args" (some text) := by
  have hlist : ("--args=" ++ text).toList
      = '-' :: '-' :: 'a' :: 'r' :: 'g' :: 's' :: '=' :: text.toList := String.toList_append
  rw [ofText, hlist]
  simp

theorem Passes.steps_append {parts : List String} (h : Passes text parts) (after : List String) :
    steps .call (parts ++ after) = .set "args" text :: steps .call after := by
  cases h with
  | apart h =>
    have hargs : Part.ofText "--args" = .long "args" none := by decide
    have hswitch : "args" ∉ Level.call.switches := by decide
    rw [List.cons_append, List.singleton_append, steps, hargs]
    simp only [if_neg hswitch, if_pos (Part.ofText_eq_word h)]
    rfl
  | joined => rw [List.singleton_append, steps, Part.ofText_joined]

/-! ## Places for an option -/

/-- Whatever follows them, these parts are read as a whole: no option among them is left without its
value, and no word ends the level. -/
def ReadsWhole (level : Level) (parts : List String) (g : Given) : Prop :=
  ∀ rest, readLevel level {} (parts ++ rest) = readLevel level g rest

/-- Behind these parts an option of a call may stand. -/
def AtOption (before : List String) : Prop :=
  ∃ front inner outside inside, before = front ++ "call" :: inner ∧
    ReadsWhole .front front outside ∧ ReadsWhole .call inner inside

/-- The call for which this is given, if one connector is named. -/
def Given.call? (g : Given) (settings : Option String) : Option CommandLine :=
  match g.words with
  | [connector] => some (.run ((g.values.lookup "config").or settings)
      (.call connector (g.values.lookup "args") (g.values.lookup "context")
        (g.switches.contains "dry-run")))
  | _ => none

theorem readCommand_call (settings : Option String) (rest : List String) :
    readCommand settings ("call" :: rest)
      = (readLevel .call {} rest).bind fun r ↦
          (r.1.call? settings).elim (.error .refused) .ok := by
  rw [readCommand, if_neg (by decide)]
  change Except.bind _ _ = _
  congr 1
  funext ⟨g, left⟩
  rw [Given.call?]
  rcases g with ⟨values, switches, - | ⟨connector, - | ⟨other, words⟩⟩⟩ <;> rfl

/-- What stands before the option is read once and for all. -/
theorem AtOption.read?_append {before : List String} (h : AtOption before) :
    ∃ settings inside, ∀ rest named command,
      read? (before ++ rest) = some (.run named command) ↔
        ∃ g, takeAll .call inside (steps .call rest) = .ok g ∧
          g.call? settings = some (.run named command) := by
  obtain ⟨front, inner, outside, inside, rfl, hfront, hinner⟩ := h
  refine ⟨outside.values.lookup "config", inside, fun rest named command ↦ ?_⟩
  have hword : Part.ofText "call" = .word := by decide
  have houter : readLevel .front {} (front ++ "call" :: (inner ++ rest))
      = .ok (outside, "call" :: (inner ++ rest)) := by
    rw [hfront, readLevel, hword]
    rfl
  rw [List.append_assoc, List.cons_append, read?, houter]
  simp only [bind, Except.bind]
  rw [readCommand_call, hinner, readLevel_eq_takeAll rfl]
  cases takeAll .call inside (steps .call rest) with
  | error why => cases why <;> simp [Except.map, Except.bind]
  | ok g => cases hcall : g.call? (outside.values.lookup "config") <;>
      simp [Except.map, Except.bind, hcall]

/-- A call with arguments is the same call without them, but for the arguments. -/
theorem WithArgs.call?_eq_some_iff {k k' : Given} (h : WithArgs text k k')
    {settings named context : Option String} {connector : String} {dryRun : Bool} :
    k'.call? settings = some (.run named (.call connector (some text) context dryRun)) ↔
      k.call? settings = some (.run named (.call connector none context dryRun)) := by
  rw [Given.call?, Given.call?, h.words_eq, h.switches_eq, h.lookup_with, h.lookup_without,
    h.lookup_eq "config" (by decide), h.lookup_eq "context" (by decide)]
  rcases k.words with - | ⟨word, - | ⟨other, words⟩⟩ <;> simp

theorem Given.lookup_args_of_call? {g : Given} {settings named args context : Option String}
    {connector : String} {dryRun : Bool}
    (h : g.call? settings = some (.run named (.call connector args context dryRun))) :
    g.values.lookup "args" = args := by
  rw [Given.call?] at h
  split at h
  · cases h
    rfl
  · cases h

/-- **Arguments may stand anywhere among the options.** A line in which they stand behind other
options, or before them, is read as a call with these arguments exactly if the line without them is
read as the same call without arguments. -/
theorem read?_append_iff {before parts after : List String} (hbefore : AtOption before)
    (hparts : Passes text parts) {named context : Option String} {connector : String}
    {dryRun : Bool} :
    read? (before ++ (parts ++ after))
        = some (.run named (.call connector (some text) context dryRun)) ↔
      read? (before ++ after) = some (.run named (.call connector none context dryRun)) := by
  obtain ⟨settings, g, hread⟩ := hbefore.read?_append
  rw [hread, hread, hparts.steps_append]
  -- The option is the first of the further steps. It is taken if none of its name was taken before.
  have hset {next : Given} : (Step.set "args" text).take .call g = .ok next ↔
      g.values.lookup "args" = none ∧ next = { g with values := ("args", text) :: g.values } := by
    rw [Step.take, Given.set_eq_ok_iff]
    simp [Level.call]
  have hwith (hnone : g.values.lookup "args" = none) :
      WithArgs text g { g with values := ("args", text) :: g.values } := by
    refine ⟨rfl, rfl, fun name hname ↦ ?_, hnone, ?_⟩
    · rw [Table.lookup_cons_ite, if_neg hname]
    · rw [Table.lookup_cons_ite, if_pos rfl]
  constructor
  · rintro ⟨k', hk', hcall⟩
    obtain ⟨next, hnext, hrest⟩ := takeAll_cons_eq_ok_iff.1 hk'
    obtain ⟨hnone, rfl⟩ := hset.1 hnext
    obtain ⟨k, hk, hlast⟩ := (takeAll_agree (hwith hnone) _).of_given k' hrest
    exact ⟨k, hk, hlast.call?_eq_some_iff.1 hcall⟩
  · rintro ⟨k, hk, hcall⟩
    have hlookup := Given.lookup_args_of_call? hcall
    have hnone := lookup_eq_none_of_takeAll hk hlookup
    obtain ⟨k', hk', hlast⟩ := (takeAll_agree (hwith hnone) _).of_without k hk hlookup
    exact ⟨k', takeAll_cons_eq_ok_iff.2 ⟨_, hset.2 ⟨hnone, rfl⟩, hk'⟩,
      hlast.call?_eq_some_iff.2 hcall⟩

end ServiceCall.CommandLine

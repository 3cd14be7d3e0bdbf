import Turtle.Proofs.Session.History

/-!
# Moments of a session

What is said of a session whatever was done in it is said of its moments: the states in which it
stands between two turns of its history, also between two statements of a script, and the state at
the end. A moment knows the turns behind it.

* `Session.Moment.run`: the turns behind a moment are a run that leads to it;
* `Session.IsTurn` are the turns that a history can have, and `Session.does_of_mem_history` says
  that they do what their commands ask for.
-/

namespace Turtle

/-- The turn does what its command asks for, if that is not to load a command file. -/
def Turn.Does {R H : Type} [Scalar R] [Host H] (turn : Turn R H) : Prop :=
  ∀ c, turn.command = some c → c ≠ .session .loadCommands → ∀ load,
    turn.before.execute load c = (turn.outcome, turn.after)

namespace Session

variable {R H : Type} [Scalar R] [Host H]

/-- The session stands in a state when just these turns of its history are done. -/
inductive Moment (fresh : Session R H) (ops : List (Operation H)) :
    List (Turn R H) → Session R H → Prop
  | before {turn : Turn R H} {done rest : List (Turn R H)}
      (h : fresh.history ops = done ++ turn :: rest) : Moment fresh ops done turn.before
  | last : Moment fresh ops (fresh.history ops) (fresh.performAll ops)

/-- A run that is cut in two leads to some session and on from there. -/
theorem Run.exists_of_append {s u : Session R H} {first second : List (Turn R H)}
    (run : Run s (first ++ second) u) : ∃ t, Run s first t ∧ Run t second u := by
  induction first generalizing s with
  | nil => exact ⟨s, .done (.refl s), run⟩
  | cons turn first ih =>
    cases run with
    | step h hturn rest =>
      obtain ⟨t, hfirst, hsecond⟩ := ih rest
      exact ⟨t, .step h hturn hfirst, hsecond⟩

theorem Moment.run {fresh s : Session R H} {ops : List (Operation H)} {turns : List (Turn R H)}
    (h : fresh.Moment ops turns s) : Run fresh turns s := by
  cases h with
  | last => exact fresh.run_history ops
  | before h =>
    have run := fresh.run_history ops
    rw [h] at run
    obtain ⟨t, hdone, hrest⟩ := run.exists_of_append
    cases hrest with
    | step halike _ _ => exact hdone.to_alike halike

/-- The turns behind a moment are turns of the history. -/
theorem Moment.mem_history {fresh s : Session R H} {ops : List (Operation H)}
    {turns : List (Turn R H)} (h : fresh.Moment ops turns s) {turn : Turn R H}
    (hmem : turn ∈ turns) : turn ∈ fresh.history ops := by
  cases h with
  | last => exact hmem
  | before h =>
    rw [h]
    exact List.mem_append_left _ hmem

/-! ## What a turn is -/

/-- What a turn of a history can be. -/
inductive IsTurn : Turn R H → Prop
  /-- A statement on a line of a script. -/
  | inScript (s : Session R H) (statement : Statement) (n : Nat) :
      IsTurn ⟨s, s.commandOf statement (.line n), (s.obeyInScript statement (.line n)).1,
        (s.obeyInScript statement (.line n)).2⟩
  /-- A statement that loads no script. -/
  | alone {s : Session R H} {statement : Statement} {origin : Origin}
      (h : s.scriptOf? statement origin = none) :
      IsTurn ⟨s, s.commandOf statement origin, (s.obey statement origin).1,
        (s.obey statement origin).2⟩
  /-- A statement that loads a script, behind the turns of that script. -/
  | loaded {s asked : Session R H} {statement : Statement} {origin : Origin} {text : String}
      (h : s.scriptOf? statement origin = some (asked, text)) :
      IsTurn ⟨(asked.runScript text).2, s.commandOf statement origin,
        (s.obey statement origin).1, (s.obey statement origin).2⟩
  | undo (s : Session R H) : IsTurn ⟨s, some (.session .undo), s.undo.1, s.undo.2⟩
  | redo (s : Session R H) : IsTurn ⟨s, some (.session .redo), s.redo.1, s.redo.2⟩
  | clear (s : Session R H) : IsTurn ⟨s, some (.session .clear), s.clear.1, s.clear.2⟩

theorem isTurn_of_mem_turnsInScript {s : Session R H}
    {statements : List (ScriptLine × Statement)} {turn : Turn R H}
    (h : turn ∈ s.turnsInScript statements) : IsTurn turn := by
  induction statements generalizing s with
  | nil => exact absurd h List.not_mem_nil
  | cons x rest ih =>
    rcases List.mem_cons.1 h with rfl | h
    exacts [.inScript s x.2 x.1.number, ih h]

theorem isTurn_of_mem_turnsOf {s : Session R H} {statement : Statement} {origin : Origin}
    {turn : Turn R H} (h : turn ∈ s.turnsOf statement origin) : IsTurn turn := by
  rw [turnsOf] at h
  cases hscript : s.scriptOf? statement origin with
  | none =>
    rw [hscript] at h
    rw [List.mem_singleton.1 h]
    exact .alone hscript
  | some x =>
    rw [hscript] at h
    rcases List.mem_append.1 h with h | h
    · exact isTurn_of_mem_turnsInScript h
    · rw [List.mem_singleton.1 h]
      exact .loaded hscript

theorem isTurn_of_mem_turns {s : Session R H} {op : Operation H} {turn : Turn R H}
    (h : turn ∈ s.turns op) : IsTurn turn := by
  have inLine (statements : List Statement) (s : Session R H)
      (h : turn ∈ s.turnsOfLine statements) : IsTurn turn := by
    induction statements generalizing s with
    | nil => exact absurd h List.not_mem_nil
    | cons statement rest ih =>
      rcases List.mem_append.1 h with h | h
      exacts [isTurn_of_mem_turnsOf h, ih _ h]
  cases op with
  | line text => exact inLine _ s h
  | statement statement origin => exact isTurn_of_mem_turnsOf h
  | script text => exact isTurn_of_mem_turnsInScript h
  | undo => exact List.mem_singleton.1 h ▸ .undo s
  | redo => exact List.mem_singleton.1 h ▸ .redo s
  | clear => exact List.mem_singleton.1 h ▸ .clear s
  | meanwhile world => exact absurd h List.not_mem_nil

/-- Every turn of a history is one of these. -/
theorem isTurn_of_mem_history {s : Session R H} {ops : List (Operation H)} {turn : Turn R H}
    (h : turn ∈ s.history ops) : IsTurn turn := by
  induction ops generalizing s with
  | nil => exact absurd h List.not_mem_nil
  | cons op ops ih =>
    rcases List.mem_append.1 h with h | h
    exacts [isTurn_of_mem_turns h, ih h]

omit [Scalar R] in
/-- Only a command that loads has a script. -/
theorem commandOf_of_scriptOf? {s asked : Session R H} {statement : Statement} {origin : Origin}
    {text : String} (h : s.scriptOf? statement origin = some (asked, text)) :
    s.commandOf statement origin = some (.session .loadCommands) := by
  by_contra hne
  rw [scriptOf?, if_neg hne] at h
  cases h

/-! ## What a turn does -/

/-- Only a request to load a command file asks how that is done. -/
theorem execute_eq_of_ne_load (s : Session R H) {c : Command} (h : c ≠ .session .loadCommands)
    (load load' : Session R H → Outcome × Session R H) : s.execute load c = s.execute load' c := by
  cases c with
  | primitive p => rfl
  | shape shape => rfl
  | session request =>
    cases request with
    | loadCommands => exact absurd rfl h
    | _ => rfl

theorem does_obeyWith (s : Session R H) (load : Session R H → Outcome × Session R H)
    (statement : Statement) (origin : Origin) :
    Turn.Does ⟨s, s.commandOf statement origin, (s.obeyWith load statement origin).1,
      (s.obeyWith load statement origin).2⟩ := by
  intro c hc hload load'
  rw [obeyWith_of_commandOf load hc]
  exact s.execute_eq_of_ne_load hload load' load

/-- Every turn of a history does what its command asks for. -/
theorem does_of_mem_history {s : Session R H} {ops : List (Operation H)} {turn : Turn R H}
    (h : turn ∈ s.history ops) : turn.Does := by
  cases isTurn_of_mem_history h with
  | inScript s statement n => exact s.does_obeyWith _ statement _
  | alone _ => exact does_obeyWith _ loadCommands _ _
  | loaded hscript =>
    intro c hc hload
    exact absurd (Option.some.inj (hc.symm.trans (commandOf_of_scriptOf? hscript))) hload
  | undo | redo | clear =>
    rintro _ ⟨⟩ - load
    rfl

end Session

end Turtle

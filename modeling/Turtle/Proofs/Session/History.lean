import Turtle.Proofs.Session.Change

/-!
# The history of a session

What was done in a session, one command after the other. A session is asked for lines, statements
and scripts, or directly to undo, redo or clear; meanwhile the world may become any other. Each of
these operations is a list of *turns*: a turn is one statement, or one direct call, with the
session before and behind it. A command file that is loaded gives the turns of its statements, and
then that of the statement that loaded it, which finds everything done.

* `Session.history` are the turns of several operations, `Session.performAll` what they lead to;
* `Session.run_history`: every turn makes a change in the sense of `Session.Change`, and between
  two turns nothing happens to the drawing (`Run`);
* `Run.preserves`: what every change preserves holds before and behind every turn.
-/

namespace Turtle

/-- What is asked of a session, or happens around it. -/
inductive Operation (H : Type) where
  /-- The user types a line. -/
  | line (text : String)
  | statement (statement : Statement) (origin : Origin)
  | script (text : String)
  | undo
  | redo
  | clear
  /-- The world becomes another one: files come and go. -/
  | meanwhile (world : World H)

/-- One statement, or one direct call: the session before it, the command it was, unless it was
    refused, its outcome and the session behind it. -/
structure Turn (R H : Type) where
  before : Session R H
  command : Option Command
  outcome : Outcome
  after : Session R H

/-- The statements of a script, each with the line it stands on. -/
def Script.statements (lines : List ScriptLine) : List (ScriptLine × Statement) :=
  lines.flatMap fun line => line.statements.map (line, ·)

namespace Session

variable {R H : Type} [Scalar R] [Host H]

/-- The session after an operation. -/
def perform (s : Session R H) : Operation H → Session R H
  | .line text => (s.runLine text).2
  | .statement statement origin => (s.obey statement origin).2
  | .script text => (s.runScript text).2
  | .undo => s.undo.2
  | .redo => s.redo.2
  | .clear => s.clear.2
  | .meanwhile world => { s with world := world }

/-- The session after several operations. -/
def performAll (s : Session R H) (ops : List (Operation H)) : Session R H :=
  ops.foldl perform s

/-! ## Turns -/

/-- The turns of statements on lines of a script. -/
def turnsInScript (s : Session R H) : List (ScriptLine × Statement) → List (Turn R H)
  | [] => []
  | (line, statement) :: rest =>
    let origin := Origin.line line.number
    let result := s.obeyInScript statement origin
    ⟨s, s.commandOf statement origin, result.1, result.2⟩ :: result.2.turnsInScript rest

/-- The turns of a script. -/
def turnsOfScript (s : Session R H) (text : String) : List (Turn R H) :=
  turnsInScript { s with loading := true } (Script.statements (Script.read text))

/-- The script that a statement loads, if it does, and the session that has asked for it. -/
def scriptOf? (s : Session R H) (statement : Statement) (origin : Origin) :
    Option (Session R H × String) :=
  if s.commandOf statement origin = some (.session .loadCommands) then
    match s.pick .loadCommands with
    | (none, _) => none
    | (some path, asked) => (asked.world.disk.readText path).toOption.map (asked, ·)
  else none

/-- The turns of a statement outside scripts. -/
def turnsOf (s : Session R H) (statement : Statement) (origin : Origin) : List (Turn R H) :=
  let result := s.obey statement origin
  match s.scriptOf? statement origin with
  | none => [⟨s, s.commandOf statement origin, result.1, result.2⟩]
  | some (asked, text) =>
    asked.turnsOfScript text ++
      [⟨(asked.runScript text).2, s.commandOf statement origin, result.1, result.2⟩]

/-- The turns of statements that the user types. -/
def turnsOfLine (s : Session R H) : List Statement → List (Turn R H)
  | [] => []
  | statement :: rest =>
    s.turnsOf statement .user ++ (s.obey statement .user).2.turnsOfLine rest

/-- The turns of an operation. -/
def turns (s : Session R H) : Operation H → List (Turn R H)
  | .line text => s.turnsOfLine (Statement.readAll text)
  | .statement statement origin => s.turnsOf statement origin
  | .script text => s.turnsOfScript text
  | .undo => [⟨s, some (.session .undo), s.undo.1, s.undo.2⟩]
  | .redo => [⟨s, some (.session .redo), s.redo.1, s.redo.2⟩]
  | .clear => [⟨s, some (.session .clear), s.clear.1, s.clear.2⟩]
  | .meanwhile _ => []

/-- The turns of several operations. -/
def history (s : Session R H) : List (Operation H) → List (Turn R H)
  | [] => []
  | op :: ops => s.turns op ++ (s.perform op).history ops

/-! ## Runs -/

/-- Nothing but the world, and whether a script is being run, may differ. -/
def Alike (s t : Session R H) : Prop :=
  ∃ world loading, t = { s with world := world, loading := loading }

/-- Turns that follow one another from a session to another. Each makes a change, and begins with
    the drawing that the one before it has left. -/
inductive Run : Session R H → List (Turn R H) → Session R H → Prop
  | done {s t : Session R H} (h : s.Alike t) : Run s [] t
  | step {s t : Session R H} {turn : Turn R H} {turns : List (Turn R H)}
      (h : s.Alike turn.before) (hturn : turn.before.Change turn.command turn.outcome turn.after)
      (rest : Run turn.after turns t) : Run s (turn :: turns) t

section Run

omit [Scalar R] [Host H] in
theorem Alike.refl (s : Session R H) : s.Alike s := ⟨_, _, rfl⟩

omit [Scalar R] [Host H] in
theorem Alike.trans {s t u : Session R H} (h : s.Alike t) (h' : t.Alike u) : s.Alike u := by
  obtain ⟨w, l, rfl⟩ := h
  obtain ⟨w', l', rfl⟩ := h'
  exact ⟨w', l', rfl⟩

theorem Run.of_alike {s t u : Session R H} {turns : List (Turn R H)} (h : s.Alike t)
    (run : Run t turns u) : Run s turns u := by
  cases run with
  | done h' => exact .done (h.trans h')
  | step h' hturn rest => exact .step (h.trans h') hturn rest

theorem Run.append {s t u : Session R H} {first second : List (Turn R H)} (run : Run s first t)
    (run' : Run t second u) : Run s (first ++ second) u := by
  induction run with
  | done h => exact run'.of_alike h
  | step h hturn _ ih => exact .step h hturn (ih run')

theorem Run.to_alike {s t u : Session R H} {turns : List (Turn R H)} (run : Run s turns t)
    (h : t.Alike u) : Run s turns u := by
  rw [← List.append_nil turns]
  exact run.append (.done h)

/-- A single turn is a run. -/
theorem Change.run {s t : Session R H} {c : Option Command} {o : Outcome} (h : s.Change c o t) :
    Run s [⟨s, c, o, t⟩] t :=
  .step (.refl s) h (.done (.refl t))

/-- Every turn of a run makes a change. -/
theorem Run.change_of_mem {s t : Session R H} {turns : List (Turn R H)} (run : Run s turns t)
    {turn : Turn R H} (h : turn ∈ turns) :
    turn.before.Change turn.command turn.outcome turn.after := by
  induction run with
  | done _ => exact absurd h List.not_mem_nil
  | step _ hturn _ ih =>
    rcases List.mem_cons.1 h with rfl | h
    exacts [hturn, ih h]

/-- What every change preserves, and what does not depend on the world, holds at the end of a run
    and before and behind each of its turns. -/
theorem Run.preserves (Inv : Session R H → Prop)
    (alike : ∀ {s t : Session R H}, s.Alike t → Inv s → Inv t)
    (change : ∀ {s t : Session R H} {c : Option Command} {o : Outcome}, s.Change c o t →
      Inv s → Inv t)
    {s t : Session R H} {turns : List (Turn R H)} (run : Run s turns t) (hs : Inv s) :
    Inv t ∧ ∀ turn ∈ turns, Inv turn.before ∧ Inv turn.after := by
  induction run with
  | done h => exact ⟨alike h hs, fun _ h => absurd h List.not_mem_nil⟩
  | step h hturn _ ih =>
    have hbefore := alike h hs
    have hafter := change hturn hbefore
    obtain ⟨hend, hrest⟩ := ih hafter
    refine ⟨hend, fun turn hmem => ?_⟩
    rcases List.mem_cons.1 hmem with rfl | hmem
    exacts [⟨hbefore, hafter⟩, hrest turn hmem]

end Run

/-! ## Scripts -/

theorem Change.loading_eq {s t : Session R H} {c : Option Command} {o : Outcome}
    (h : s.Change c o t) : t.loading = s.loading := by
  cases h <;> rfl

omit [Scalar R] [Host H] in
/-- While a script is being run, no statement loads another one. -/
theorem commandOf_ne_load {s : Session R H} (h : s.loading = true) (statement : Statement)
    (origin : Origin) : s.commandOf statement origin ≠ some (.session .loadCommands) := by
  intro hc
  -- Such a command would have to be permitted, and it is the one that is not.
  obtain ⟨c, hpermit, hwritten⟩ := commandOf_eq_some_iff.1 hc
  obtain ⟨valid, -, hpermit⟩ := bind_eq_ok_iff.1 hpermit
  obtain rfl := eq_of_permit hpermit
  rw [eq_of_asWritten_session hwritten, permit, if_pos h] at hpermit
  cases hpermit

/-- Every statement of a script makes a change. -/
theorem obeyInScript_change {s : Session R H} (h : s.loading = true) (statement : Statement)
    (origin : Origin) :
    s.Change (s.commandOf statement origin) (s.obeyInScript statement origin).1
      (s.obeyInScript statement origin).2 :=
  s.obeyWith_change _ statement origin (commandOf_ne_load h statement origin)

/-- The session after a statement on a line of a script. -/
def stepInScript (s : Session R H) (x : ScriptLine × Statement) : Session R H :=
  (s.obeyInScript x.2 (.line x.1.number)).2

theorem snd_scriptStep (line : ScriptLine) (state : List LineError × Session R H)
    (statement : Statement) :
    (scriptStep line state statement).2 = state.2.stepInScript (line, statement) := by
  rw [scriptStep, stepInScript]
  split
  · next h => rw [h]
  · next h => rw [h]

theorem loading_stepInScript {s : Session R H} (h : s.loading = true)
    (x : ScriptLine × Statement) : (s.stepInScript x).loading = true :=
  (obeyInScript_change h _ _).loading_eq.trans h

theorem snd_foldl_scriptLine (lines : List ScriptLine) (state : List LineError × Session R H) :
    (lines.foldl scriptLine state).2 = (Script.statements lines).foldl stepInScript state.2 := by
  have inLine (line : ScriptLine) (statements : List Statement)
      (state : List LineError × Session R H) :
      (statements.foldl (scriptStep line) state).2 =
        (statements.map (line, ·)).foldl stepInScript state.2 := by
    induction statements generalizing state with
    | nil => rfl
    | cons statement statements ih =>
      rw [List.foldl_cons, ih, snd_scriptStep]
      rfl
  induction lines generalizing state with
  | nil => rfl
  | cons line lines ih =>
    rw [List.foldl_cons, ih, scriptLine, inLine, Script.statements, Script.statements,
      List.flatMap_cons, List.foldl_append]

/-- A script leaves what its statements leave, and is then no longer being run. -/
theorem snd_runScript (s : Session R H) (text : String) :
    (s.runScript text).2 =
      { (Script.statements (Script.read text)).foldl stepInScript { s with loading := true } with
        loading := s.loading } := by
  rw [runScript, ← snd_foldl_scriptLine _ ([], _)]

theorem run_turnsInScript {s : Session R H} (h : s.loading = true)
    (statements : List (ScriptLine × Statement)) :
    Run s (s.turnsInScript statements) (statements.foldl stepInScript s) := by
  induction statements generalizing s with
  | nil => exact .done (.refl s)
  | cons x rest ih =>
    -- The script is still being run behind the statement, so the same holds of the next one.
    have hturn := obeyInScript_change h x.2 (.line x.1.number)
    exact .step (.refl s) hturn (ih (loading_stepInScript h x))

theorem run_turnsOfScript (s : Session R H) (text : String) :
    Run s (s.turnsOfScript text) (s.runScript text).2 := by
  have run : Run { s with loading := true } (s.turnsOfScript text) _ := run_turnsInScript rfl _
  rw [snd_runScript]
  exact (run.of_alike ⟨_, _, rfl⟩).to_alike ⟨_, _, rfl⟩

/-! ## Operations -/

/-- A statement that loads a command file finds everything done when the script has been run. -/
theorem change_of_scriptOf? {s asked : Session R H} {statement : Statement} {origin : Origin}
    {text : String} (h : s.scriptOf? statement origin = some (asked, text)) :
    s.Alike asked ∧ (asked.runScript text).2.Change (s.commandOf statement origin)
      (s.obey statement origin).1 (s.obey statement origin).2 := by
  rw [scriptOf?] at h
  split at h
  · next hc =>
    rw [hc, obey_of_commandOf_session hc, request]
    obtain ⟨path, w, hpick⟩ := s.exists_pick .loadCommands
    rw [hpick] at h
    rw [loadCommands, loadCommandsWith, hpick]
    cases path with
    | none => cases h
    | some path =>
      dsimp only at h ⊢
      cases hread : w.disk.readText path with
      | error e =>
        rw [hread] at h
        cases h
      | ok text =>
        rw [hread] at h
        cases h
        refine ⟨⟨w, s.loading, rfl⟩, ?_⟩
        dsimp only
        -- What the script does is of no concern here, and must not be unfolded.
        generalize runScript (R := R) (H := H) _ text = result
        exact .kept (by trivial)
  · cases h

/-- A statement that loads nothing makes a change, also one that was to load a command file. -/
theorem change_of_scriptOf?_eq_none {s : Session R H} {statement : Statement} {origin : Origin}
    (h : s.scriptOf? statement origin = none) :
    s.Change (s.commandOf statement origin) (s.obey statement origin).1
      (s.obey statement origin).2 := by
  by_cases hc : s.commandOf statement origin = some (.session .loadCommands)
  · rw [scriptOf?, if_pos hc] at h
    rw [hc, obey_of_commandOf_session hc, request]
    obtain ⟨path, w, hpick⟩ := s.exists_pick .loadCommands
    rw [hpick] at h
    rw [loadCommands, loadCommandsWith, hpick]
    cases path with
    | none => exact .kept (by trivial)
    | some path =>
      dsimp only at h ⊢
      cases hread : w.disk.readText path with
      | error e => exact .kept (by trivial)
      | ok text =>
        rw [hread] at h
        cases h
  · exact s.obeyWith_change loadCommands statement origin hc

theorem run_turnsOf (s : Session R H) (statement : Statement) (origin : Origin) :
    Run s (s.turnsOf statement origin) (s.obey statement origin).2 := by
  rw [turnsOf]
  cases h : s.scriptOf? statement origin with
  | none => exact (change_of_scriptOf?_eq_none h).run
  -- First come the turns of the script, and then that of the statement that has loaded it.
  | some x =>
    obtain ⟨halike, hchange⟩ := change_of_scriptOf? h
    exact ((run_turnsOfScript x.1 x.2).of_alike halike).append hchange.run

theorem snd_runLine (s : Session R H) (line : String) :
    (s.runLine line).2 =
      (Statement.readAll line).foldl (fun s statement => (s.obey statement .user).2) s := by
  have all (statements : List Statement) (state : List Outcome × Session R H) :
      (statements.foldl lineStep state).2 =
        statements.foldl (fun s statement => (s.obey statement .user).2) state.2 := by
    induction statements generalizing state with
    | nil => rfl
    | cons statement statements ih => exact ih _
  exact all _ _

theorem run_turnsOfLine (s : Session R H) (statements : List Statement) :
    Run s (s.turnsOfLine statements)
      (statements.foldl (fun s statement => (s.obey statement .user).2) s) := by
  induction statements generalizing s with
  | nil => exact .done (.refl s)
  | cons statement statements ih => exact (s.run_turnsOf statement .user).append (ih _)

theorem run_turns (s : Session R H) (op : Operation H) : Run s (s.turns op) (s.perform op) := by
  cases op with
  | line text =>
    rw [perform, snd_runLine]
    exact s.run_turnsOfLine _
  | statement statement origin => exact s.run_turnsOf statement origin
  | script text => exact s.run_turnsOfScript text
  | undo => exact s.undo_change.run
  | redo => exact s.redo_change.run
  | clear => exact s.clear_change.run
  | meanwhile world => exact .done ⟨_, _, rfl⟩

/-- The history of several operations is a run. -/
theorem run_history (s : Session R H) (ops : List (Operation H)) :
    Run s (s.history ops) (s.performAll ops) := by
  induction ops generalizing s with
  | nil => exact .done (.refl s)
  | cons op ops ih => exact (s.run_turns op).append (ih _)

end Session

end Turtle

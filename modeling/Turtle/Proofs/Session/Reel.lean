import Turtle.Binary64.Scalar
import Turtle.Console
import Turtle.Proofs.Session.History

/-!
# The timeline as a line with a cursor

Seen from outside, a timeline is a reel: one line of primitives and a place in it. What lies before
the place is the log, and what lies behind it can be redone. Between two statements that is all
there is to a timeline, and every statement moves on the reel in a simple way.

* `Reel.Step` says how a command may move the reel, and what its outcome has to be;
* `Session.Change.step`: every change of a session is such a step, and ends what it has begun to
  play again;
* `Session.timeline_follows_reel`: the timeline of a session moves on its reel, turn by turn, and
  so undoing and redoing lose nothing.
-/

namespace Turtle

/-- A line of primitives and a place in it. -/
structure Reel where
  /-- What was drawn, and behind it what was taken back. -/
  line : List Primitive := []
  /-- The number of the primitives that have not been taken back. -/
  cursor : Nat := 0

namespace Reel

/-- Cuts the line off at the cursor and adds a primitive there. -/
def add (r : Reel) (p : Primitive) : Reel :=
  ⟨r.line.take r.cursor ++ [p], r.cursor + 1⟩

/-- How a command may move the reel, with its outcome and the pen before it. A request to clear is
    `granted` or not, and without a command nothing moves. -/
def Step (pen : Pen) (granted : Bool) (r : Reel) : Option Command → Outcome → Reel → Prop
  | some (.session .undo), o, r' =>
    if r.cursor = 0 then o = .noOp ∧ r' = r
    else o = .undone ∧ r' = { r with cursor := r.cursor - 1 }
  | some (.session .redo), o, r' =>
    if r.cursor = r.line.length then o = .noOp ∧ r' = r
    else o = .redone ∧ r' = { r with cursor := r.cursor + 1 }
  | some (.session .clear), o, r' =>
    if granted then o = .cleared ∧ r' = {} else o = .cancelled ∧ r' = r
  | some (.session _), o, r' => (∀ n, o ≠ .drawn n) ∧ r' = r
  | none, o, r' => (∃ e, o = .rejected e) ∧ r' = r
  | some c, o, r' =>
    ∃ ps, c.primitives? pen = some ps ∧ o = .drawn ps.length ∧ r' = ps.foldl add r

end Reel

namespace Timeline

/-- The timeline as it is seen from outside. -/
def reel (t : Timeline) : Reel := ⟨t.line, t.size⟩

theorem take_line (t : Timeline) : t.line.take t.size = t.entries := by
  rw [line, size_eq_length_entries, List.take_left]

theorem drop_line (t : Timeline) : t.line.drop t.size = t.future := by
  rw [line, size_eq_length_entries, List.drop_left]

/-- Outside of playing again the reel is all there is to a timeline. -/
theorem eq_of_reel_eq {t u : Timeline} (h : t.reel = u.reel) (hr : t.replaying = u.replaying) :
    t = u := by
  obtain ⟨hline, hsize⟩ := Reel.mk.inj h
  -- The log is the line up to the cursor, and what can be redone is the line behind it.
  have hpast : t.past = u.past := by
    rw [← List.reverse_inj]
    calc t.entries = t.line.take t.size := t.take_line.symm
      _ = u.line.take u.size := by rw [hline, hsize]
      _ = u.entries := u.take_line
  have hfuture : t.future = u.future := by
    calc t.future = t.line.drop t.size := t.drop_line.symm
      _ = u.line.drop u.size := by rw [hline, hsize]
      _ = u.future := u.drop_line
  cases t
  cases u
  simp_all only

theorem cursor_eq_zero_iff {t : Timeline} : t.reel.cursor = 0 ↔ t.past = [] :=
  List.length_eq_zero_iff

theorem length_line (t : Timeline) : t.line.length = t.size + t.future.length := by
  rw [line, size_eq_length_entries, List.length_append]

theorem cursor_eq_length_iff {t : Timeline} :
    t.reel.cursor = t.reel.line.length ↔ t.future = [] := by
  show t.size = t.line.length ↔ _
  rw [length_line, ← List.length_eq_zero_iff]
  omega

theorem cursor_le_length (t : Timeline) : t.reel.cursor ≤ t.reel.line.length := by
  show t.size ≤ t.line.length
  rw [length_line]
  exact Nat.le_add_right _ _

/-- Outside of playing again a pushed primitive goes where the line is cut off. -/
theorem reel_push {t : Timeline} (h : t.replaying = false) (p : Primitive) :
    (t.push p).reel = t.reel.add p := by
  show Reel.mk _ _ = Reel.mk (t.line.take t.size ++ [p]) _
  rw [line, entries_push, future_push_of_not_replaying h, List.append_nil, take_line]
  rfl

theorem reel_foldl_push {t : Timeline} (h : t.replaying = false) (ps : List Primitive) :
    (ps.foldl push t).reel = ps.foldl Reel.add t.reel ∧ (ps.foldl push t).replaying = false := by
  induction ps generalizing t with
  | nil => exact ⟨rfl, h⟩
  | cons p ps ih =>
    rw [List.foldl_cons, List.foldl_cons, ← reel_push h]
    exact ih h

/-- Taking an entry back leaves the line as it was, for the entry goes to the other side of the
    cursor. -/
theorem reel_back {t : Timeline} {p : Primitive} {past : List Primitive} (h : t.past = p :: past) :
    reel ⟨past, p :: t.future, false⟩ = { t.reel with cursor := t.reel.cursor - 1 } := by
  have hline : t.line = past.reverse ++ p :: t.future := by
    rw [line, entries, h, List.reverse_cons, List.append_assoc]
    rfl
  have hsize : t.size = past.length + 1 := congrArg List.length h
  show Reel.mk _ _ = Reel.mk t.line (t.size - 1)
  rw [hline, hsize]
  rfl

/-- And so does doing it again. -/
theorem reel_forth {t : Timeline} {p : Primitive} {future : List Primitive}
    (h : t.future = p :: future) :
    reel ⟨p :: t.past, future, false⟩ = { t.reel with cursor := t.reel.cursor + 1 } := by
  have hline : t.line = (p :: t.past).reverse ++ future := by
    rw [line, entries, h, List.reverse_cons, List.append_assoc]
    rfl
  show Reel.mk _ _ = Reel.mk t.line (t.size + 1)
  rw [hline]
  rfl

end Timeline

namespace Session

variable {R H : Type} [Host H]

/-- A request to clear would be granted: there is nothing to save, or the user says yes. -/
def grantsClear (s : Session R H) : Bool :=
  !s.dirty || (s.world.confirm clearQuestion).1

variable [Scalar R]

/-- Every change moves the reel as its command may, and nothing is being played again behind it if
    nothing was before it. -/
theorem Change.step {s t : Session R H} {c : Option Command} {o : Outcome} (h : s.Change c o t)
    (hs : s.timeline.replaying = false) :
    Reel.Step s.pen s.grantsClear s.timeline.reel c o t.timeline.reel ∧
      t.timeline.replaying = false := by
  cases h with
  | refused => exact ⟨⟨⟨_, rfl⟩, rfl⟩, hs⟩
  | @drawn c ps hc hps w =>
    obtain ⟨hreel, hreplaying⟩ := Timeline.reel_foldl_push hs ps
    refine ⟨?_, hreplaying⟩
    -- What draws is a primitive or a shape, and the line grows by what it draws.
    cases c with
    | primitive p => exact ⟨ps, hps, rfl, hreel⟩
    | shape shape => exact ⟨ps, hps, rfl, hreel⟩
    | session request => cases hps
  | @undone p past h w =>
    refine ⟨?_, rfl⟩
    have hne : s.timeline.reel.cursor ≠ 0 := by
      rw [Ne, Timeline.cursor_eq_zero_iff, h]
      exact List.cons_ne_nil p past
    rw [Reel.Step, if_neg hne]
    exact ⟨rfl, Timeline.reel_back h⟩
  | nothingUndone h =>
    refine ⟨?_, hs⟩
    rw [Reel.Step, if_pos (Timeline.cursor_eq_zero_iff.2 h)]
    exact ⟨rfl, rfl⟩
  | @redone p future h w =>
    refine ⟨?_, rfl⟩
    have hne : s.timeline.reel.cursor ≠ s.timeline.reel.line.length := by
      rw [Ne, Timeline.cursor_eq_length_iff, h]
      exact List.cons_ne_nil p future
    rw [Reel.Step, if_neg hne]
    exact ⟨rfl, Timeline.reel_forth h⟩
  | nothingRedone h =>
    refine ⟨?_, hs⟩
    rw [Reel.Step, if_pos (Timeline.cursor_eq_length_iff.2 h)]
    exact ⟨rfl, rfl⟩
  | cleared h =>
    refine ⟨?_, rfl⟩
    have hgranted : s.grantsClear = true := by
      rcases h with h | h <;> simp [grantsClear, h]
    rw [Reel.Step, if_pos hgranted]
    exact ⟨rfl, rfl⟩
  | declined h hno =>
    refine ⟨?_, hs⟩
    have hrefused : s.grantsClear = false := by simp [grantsClear, h, hno]
    rw [Reel.Step, hrefused]
    exact ⟨rfl, rfl⟩
  | saved | imported =>
    refine ⟨⟨?_, rfl⟩, hs⟩
    rintro n ⟨⟩
  | @kept c o h w =>
    refine ⟨?_, hs⟩
    cases c <;> cases o <;> first
      | exact h.elim
      | refine ⟨?_, rfl⟩; rintro n ⟨⟩

/-! ## Turns -/

end Session

/-- The reel moves from one place to another along turns: each finds it where the one before has
    left it, moves it as its command may, and leaves nothing that is being played again. -/
def Reel.Traces {R H : Type} [Host H] (r : Reel) : List (Turn R H) → Reel → Prop
  | [], r' => r' = r
  | turn :: turns, r' =>
    turn.before.timeline.reel = r ∧
    turn.before.timeline.replaying = false ∧
    r.Step turn.before.pen turn.before.grantsClear turn.command turn.outcome
      turn.after.timeline.reel ∧
    turn.after.timeline.replaying = false ∧
    Traces turn.after.timeline.reel turns r'

namespace Reel

variable {R H : Type} [Host H] {r r' : Reel} {turns : List (Turn R H)}

/-- Turns that are cut in two move the reel to some place and on from there. -/
theorem Traces.exists_append {more : List (Turn R H)} (h : r.Traces (turns ++ more) r') :
    ∃ middle, r.Traces turns middle ∧ Traces middle more r' := by
  induction turns generalizing r with
  | nil => exact ⟨r, rfl, h⟩
  | cons turn turns ih =>
    obtain ⟨hbefore, hidle, hstep, hidle', rest⟩ := h
    obtain ⟨middle, hfirst, hsecond⟩ := ih rest
    exact ⟨middle, ⟨hbefore, hidle, hstep, hidle', hfirst⟩, hsecond⟩

/-- Undoing and redoing never change the line, in whatever order. -/
theorem Traces.line_eq (h : r.Traces turns r') (hcommands : ∀ turn ∈ turns,
    turn.command = some (.session .undo) ∨ turn.command = some (.session .redo)) :
    r'.line = r.line := by
  induction turns generalizing r with
  | nil => rw [show r' = r from h]
  | cons turn turns ih =>
    obtain ⟨-, -, hstep, -, rest⟩ := h
    rw [ih rest fun turn' hmem => hcommands turn' (List.mem_cons_of_mem _ hmem)]
    rcases hcommands turn List.mem_cons_self with hc | hc
    all_goals
      rw [hc, Step] at hstep
      split at hstep
      · rw [hstep.2]
      · rw [hstep.2]

/-- So many undos move the cursor back by as many places, as long as there are such. -/
theorem Traces.eq_of_undos {k : Nat} (h : r.Traces turns r')
    (hcommands : turns.map Turn.command = List.replicate k (some (.session .undo)))
    (hk : k ≤ r.cursor) : r' = { r with cursor := r.cursor - k } := by
  induction turns generalizing r k with
  | nil =>
    obtain rfl : 0 = k := by simpa using congrArg List.length hcommands
    exact h
  | cons turn turns ih =>
    obtain ⟨-, -, hstep, -, rest⟩ := h
    cases k with
    | zero => cases hcommands
    | succ k =>
      rw [List.map_cons, List.replicate_succ, List.cons.injEq] at hcommands
      obtain ⟨hc, hcommands⟩ := hcommands
      rw [hc, Step, if_neg (by omega)] at hstep
      obtain ⟨-, hafter⟩ := hstep
      rw [hafter] at rest
      rw [ih rest hcommands (Nat.le_sub_of_add_le hk), Nat.sub_sub, Nat.add_comm 1 k]

/-- So many redos move it forth again. -/
theorem Traces.eq_of_redos {k : Nat} (h : r.Traces turns r')
    (hcommands : turns.map Turn.command = List.replicate k (some (.session .redo)))
    (hk : r.cursor + k ≤ r.line.length) : r' = { r with cursor := r.cursor + k } := by
  induction turns generalizing r k with
  | nil =>
    obtain rfl : 0 = k := by simpa using congrArg List.length hcommands
    exact h
  | cons turn turns ih =>
    obtain ⟨-, -, hstep, -, rest⟩ := h
    cases k with
    | zero => cases hcommands
    | succ k =>
      rw [List.map_cons, List.replicate_succ, List.cons.injEq] at hcommands
      obtain ⟨hc, hcommands⟩ := hcommands
      rw [hc, Step, if_neg (by omega)] at hstep
      obtain ⟨-, hafter⟩ := hstep
      rw [hafter] at rest
      rw [ih rest hcommands (by dsimp only; omega), Nat.add_assoc, Nat.add_comm 1 k]

/-- As many redos as there were undos bring the reel back. -/
theorem Traces.eq_of_undos_redos {k : Nat} (h : r.Traces turns r')
    (hcommands : turns.map Turn.command =
      List.replicate k (some (.session .undo)) ++ List.replicate k (some (.session .redo)))
    (hk : k ≤ r.cursor) (hcursor : r.cursor ≤ r.line.length) : r' = r := by
  -- The turns are cut in two where the undos end.
  obtain ⟨undos, redos, rfl, hundos, hredos⟩ := List.map_eq_append_iff.1 hcommands
  obtain ⟨middle, hback, hforth⟩ := h.exists_append
  have hmiddle := hback.eq_of_undos hundos hk
  have hreturn : middle.cursor + k = r.cursor := by
    rw [hmiddle]
    exact Nat.sub_add_cancel hk
  have hend := hforth.eq_of_redos hredos (by rw [hreturn, hmiddle]; exact hcursor)
  rw [hend, hreturn, hmiddle]

/-- Only a command that draws has drawn something, and it has drawn what it has added. -/
theorem Step.outcome_eq_drawn_iff {pen : Pen} {granted : Bool} {c : Option Command} {o : Outcome}
    (h : r.Step pen granted c o r') (n : Nat) :
    o = .drawn n ↔ ∃ command ps, c = some command ∧ command.primitives? pen = some ps ∧
      ps.length = n ∧ r' = ps.foldl add r := by
  have ofDrawn {command : Command} (h : ∃ ps, command.primitives? pen = some ps ∧
      o = .drawn ps.length ∧ r' = ps.foldl add r) :
      o = .drawn n ↔ ∃ command' ps, some command = some command' ∧
        command'.primitives? pen = some ps ∧ ps.length = n ∧ r' = ps.foldl add r := by
    obtain ⟨ps, hps, rfl, hr'⟩ := h
    constructor
    · intro h
      exact ⟨command, ps, rfl, hps, Outcome.drawn.inj h, hr'⟩
    · rintro ⟨command', ps', hcommand, hps', rfl, -⟩
      rw [← Option.some.inj hcommand, hps, Option.some.injEq] at hps'
      rw [hps']
  cases c with
  | none =>
    obtain ⟨⟨e, rfl⟩, -⟩ := h
    constructor
    · intro h
      cases h
    · rintro ⟨command, ps, hc, -⟩
      cases hc
  | some command =>
    cases command with
    | primitive p => exact ofDrawn h
    | shape shape => exact ofDrawn h
    | session request =>
      have hne : o ≠ .drawn n := by
        rintro rfl
        cases request <;> simp only [Step] at h
        all_goals first
          | exact h.1 n rfl
          | split at h <;> cases h.1
      refine ⟨fun h => absurd h hne, ?_⟩
      rintro ⟨command', ps, hcommand, hps, -⟩
      rw [← Option.some.inj hcommand] at hps
      cases hps

end Reel

namespace Session

variable {R H : Type} [Scalar R] [Host H]

/-- Along a run the timeline moves on its reel. -/
theorem Run.traces {s t : Session R H} {turns : List (Turn R H)} (run : Run s turns t)
    (hs : s.timeline.replaying = false) :
    s.timeline.reel.Traces turns t.timeline.reel ∧ t.timeline.replaying = false := by
  induction run with
  | done h =>
    obtain ⟨w, l, rfl⟩ := h
    exact ⟨rfl, hs⟩
  | @step s t turn turns h hturn rest ih =>
    obtain ⟨w, l, hbefore⟩ := h
    have htimeline : turn.before.timeline = s.timeline := by rw [hbefore]
    rw [← htimeline] at hs ⊢
    obtain ⟨hstep, hidle⟩ := hturn.step hs
    obtain ⟨hrest, hend⟩ := ih hidle
    exact ⟨⟨rfl, hs, hstep, hidle, hrest⟩, hend⟩

/-- Between two operations nothing is being played again. -/
theorem replaying_performAll (settings : Settings) (w : World H) (ops : List (Operation H)) :
    ((ofSettings settings w : Session R H).performAll ops).timeline.replaying = false :=
  ((run_history _ ops).traces rfl).2

theorem Change.timeline_eq_of_load {s t : Session R H} {o : Outcome}
    (h : s.Change (some (.session .loadCommands)) o t) : t.timeline = s.timeline := by
  cases h with
  | drawn _ hps => cases hps
  | kept _ => rfl

/-- The session after the statements of the command file that a statement loads, done one after
    the other; without such a file, the session itself. -/
def loaded (s : Session R H) (statement : Statement) (origin : Origin) : Session R H :=
  match s.scriptOf? statement origin with
  | none => s
  | some (asked, text) =>
    (Script.statements (Script.read text)).foldl stepInScript { asked with loading := true }

/-- Loading a command file does to the timeline what the statements of the file do to it. -/
theorem timeline_obey_of_load {s : Session R H} {statement : Statement} {origin : Origin}
    (hc : s.commandOf statement origin = some (.session .loadCommands)) :
    (s.obey statement origin).2.timeline = (s.loaded statement origin).timeline := by
  rw [loaded]
  cases h : s.scriptOf? statement origin with
  | none =>
    have hchange := change_of_scriptOf?_eq_none h
    rw [hc] at hchange
    exact hchange.timeline_eq_of_load
  | some x =>
    obtain ⟨-, hchange⟩ := change_of_scriptOf? h
    rw [hc] at hchange
    rw [hchange.timeline_eq_of_load, snd_runScript]

/-- Whatever is done in a session, its timeline moves on a reel: every primitive that a statement
    draws cuts the line off at the cursor, undo and redo move the cursor back and forth over the
    line and do nothing only at its ends, a granted request to clear leaves an empty reel, loading
    a command file does what its statements do, and nothing else moves the reel. So as many redos
    as there were undos bring the timeline back, and no undos and redos ever change the line. -/
theorem timeline_follows_reel (settings : Settings) (w : World H) (ops : List (Operation H)) :
    let fresh : Session R H := ofSettings settings w
    let s := fresh.performAll ops
    Reel.Traces {} (fresh.history ops) s.timeline.reel ∧ s.timeline.replaying = false ∧
    (∀ turn ∈ fresh.history ops, ∀ n, turn.outcome = .drawn n ↔
      ∃ command ps, turn.command = some command ∧
        command.primitives? turn.before.pen = some ps ∧ ps.length = n ∧
        turn.after.timeline.reel = ps.foldl Reel.add turn.before.timeline.reel) ∧
    (∀ statement origin, s.commandOf statement origin = some (.session .loadCommands) →
      (s.obey statement origin).2.timeline = (s.loaded statement origin).timeline) ∧
    (∀ k more, k ≤ s.timeline.size → (s.history more).map Turn.command =
        List.replicate k (some (.session .undo)) ++ List.replicate k (some (.session .redo)) →
      (s.performAll more).timeline = s.timeline) ∧
    ∀ more, (∀ turn ∈ s.history more,
        turn.command = some (.session .undo) ∨ turn.command = some (.session .redo)) →
      (s.performAll more).timeline.line = s.timeline.line := by
  intro fresh s
  have run : Run fresh (fresh.history ops) s := fresh.run_history ops
  obtain ⟨htraces, hidle⟩ := run.traces rfl
  have hmore (more : List (Operation H)) :
      s.timeline.reel.Traces (s.history more) (s.performAll more).timeline.reel ∧
        (s.performAll more).timeline.replaying = false :=
    (s.run_history more).traces hidle
  have hidles := (run.preserves (fun s => s.timeline.replaying = false)
    (fun ⟨_, _, h⟩ hs => h ▸ hs) (fun h hs => (h.step hs).2) rfl).2
  refine ⟨htraces, hidle, ?_, ?_, ?_, ?_⟩
  · intro turn hmem n
    have hstep := ((run.change_of_mem hmem).step (hidles turn hmem).1).1
    exact hstep.outcome_eq_drawn_iff n
  · intro statement origin hc
    exact timeline_obey_of_load hc
  · intro k more hk hcommands
    obtain ⟨hreel, hidle'⟩ := hmore more
    have hend := hreel.eq_of_undos_redos hcommands hk s.timeline.cursor_le_length
    exact Timeline.eq_of_reel_eq hend (hidle'.trans hidle.symm)
  · intro more hcommands
    exact (hmore more).1.line_eq hcommands

/-- A move behind which a command file is loaded. The file takes back the first of its own
    statements and, at its end, the last; what it leaves is taken back and done again. A second
    request to load a file has no answer. -/
theorem timeline_follows_reel_load :
    let file := Text.encode "move 1\nundo\nmove 2\nleft 90\nundo\n"
    let w : World Console :=
      ⟨⟨Text.encode "f\n", "", false⟩, ⟨[([Text.encode "f"], .file file)], [], []⟩, Journal.silent⟩
    let fresh : Session Float Console := ofSettings Settings.standard w
    let load : Statement := ⟨"loadcmd", []⟩
    let s := fresh.performAll [.statement ⟨"move", ["5"]⟩ .user]
    let t := fresh.performAll [.statement ⟨"move", ["5"]⟩ .user, .statement load .user]
    (s.commandOf load .user = some (.session .loadCommands) ∧
      (s.scriptOf? load .user).isSome = true ∧
      (s.obey load .user).2.timeline = (s.loaded load .user).timeline ∧
      (s.loaded load .user).timeline = ⟨[.move 2, .move 5], [.left 90], false⟩) ∧
    (t.commandOf load .user = some (.session .loadCommands) ∧ t.scriptOf? load .user = none ∧
      (t.obey load .user).2.timeline = (t.loaded load .user).timeline) ∧
    (t.timeline.size = 2 ∧ (t.performAll [.undo, .undo, .redo, .redo]).timeline = t.timeline) ∧
    (t.performAll [.undo, .undo, .redo]).timeline.line = t.timeline.line := by
  intro file w fresh load s t
  obtain ⟨-, -, -, hload, -, -⟩ :=
    timeline_follows_reel (R := Float) Settings.standard w [.statement ⟨"move", ["5"]⟩ .user]
  obtain ⟨-, -, -, hload', hback, hmix⟩ :=
    timeline_follows_reel (R := Float) Settings.standard w
      [.statement ⟨"move", ["5"]⟩ .user, .statement load .user]
  have hc : s.commandOf load .user = some (.session .loadCommands) := by decide +kernel
  have hc' : t.commandOf load .user = some (.session .loadCommands) := by decide +kernel
  have hscript : (s.scriptOf? load .user).isSome = true := by decide +kernel
  have hscript' : (t.scriptOf? load .user).isNone = true := by decide +kernel
  have hloaded : (s.loaded load .user).timeline = ⟨[.move 2, .move 5], [.left 90], false⟩ := by
    decide +kernel
  have hsize : t.timeline.size = 2 := by decide +kernel
  have hthere : (t.history [.undo, .undo, .redo, .redo]).map Turn.command =
      List.replicate 2 (some (.session .undo)) ++ List.replicate 2 (some (.session .redo)) := by
    decide +kernel
  have hmixed : (t.history [.undo, .undo, .redo]).map Turn.command =
      [some (.session .undo), some (.session .undo), some (.session .redo)] := by
    decide +kernel
  refine ⟨⟨hc, hscript, hload _ _ hc, hloaded⟩,
    ⟨hc', Option.isNone_iff_eq_none.1 hscript', hload' _ _ hc'⟩,
    ⟨hsize, hback 2 _ (Nat.le_of_eq hsize.symm) hthere⟩, hmix _ fun turn hmem => ?_⟩
  have hcommand : turn.command ∈ (t.history [.undo, .undo, .redo]).map Turn.command :=
    List.mem_map_of_mem hmem
  simp only [hmixed, List.mem_cons, List.not_mem_nil, or_false] at hcommand
  rcases hcommand with hundo | hundo | hredo
  exacts [.inl hundo, .inl hundo, .inr hredo]

end Session

end Turtle

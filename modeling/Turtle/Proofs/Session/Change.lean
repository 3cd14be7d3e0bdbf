import Mathlib.Tactic.Common
import Turtle.Proofs.Canvas.Drawing
import Turtle.Proofs.Command.Range
import Turtle.Session.Statement

/-!
# What a statement changes

Everything that a statement can do to a session, in one list (`Session.Change`): what is refused,
what is drawn, taken back, done again, wiped, saved or brought by an image, and what leaves the
drawing as it is. Of the world a change says nothing: messages, answers, files and the journal do
not reach the drawing but through what an image brings.

* `Session.obeyWith_change`: every statement but one that loads a command file makes one of these
  changes, and so do `undo`, `redo` and `clear` when they are called by themselves;
* `Session.runAll_eq`: what is left of a session when several primitives were drawn.
-/

namespace Turtle

namespace Timeline

/-- Pushing while playing again puts the primitives in front of those that can be redone. -/
theorem foldl_push_of_replaying {t : Timeline} (h : t.replaying = true) (ps : List Primitive) :
    ps.foldl push t = { t with past := ps.reverse ++ t.past } := by
  induction ps generalizing t with
  | nil => rfl
  | cons p ps ih =>
    rw [List.foldl_cons, ih (t := t.push p) h, List.reverse_cons, List.append_assoc]
    simp only [push, h, if_true, List.singleton_append]

/-- Pushing otherwise leaves nothing to redo, unless nothing is pushed. -/
theorem foldl_push_of_not_replaying {t : Timeline} (h : t.replaying = false)
    (ps : List Primitive) :
    ps.foldl push t = { t with
      past := ps.reverse ++ t.past, future := if ps = [] then t.future else [] } := by
  induction ps generalizing t with
  | nil => rfl
  | cons p ps ih =>
    rw [List.foldl_cons, ih (t := t.push p) h, List.reverse_cons, List.append_assoc]
    simp [push, h]

end Timeline

/-- The outcomes of a request to a session that leave its drawing as it is. -/
def SessionCommand.Keeps : SessionCommand → Outcome → Prop
  | about, .informed | help, .informed => True
  | saveCommands, .cancelled | saveCommands, .failed _ => True
  | loadCommands, .cancelled | loadCommands, .failed _ | loadCommands, .fileDone => True
  | saveImage, .cancelled | saveImage, .failed _ | saveImage, .fileDone => True
  | loadImage, .cancelled | loadImage, .failed _ => True
  | _, _ => False

namespace Session

variable {R H : Type} [Scalar R] [Host H]

/-- What a command makes of a session: its outcome, and the session after it. Without a command,
    what the refusal of a statement makes of it. -/
inductive Change (s : Session R H) : Option Command → Outcome → Session R H → Prop
  | refused {e : CommandError} {w : World H} : Change s none (.rejected e) { s with world := w }
  | drawn {c : Command} {ps : List Primitive} (hc : c.InRange)
      (hps : c.primitives? s.pen = some ps) {w : World H} :
      Change s (some c) (.drawn ps.length) { s with
        canvas := s.canvas.applyAll s.pen ps
        pen := ps.foldl Pen.apply s.pen
        timeline := ps.foldl Timeline.push s.timeline
        dirty := true
        world := w }
  | undone {p : Primitive} {past : List Primitive} (h : s.timeline.past = p :: past)
      {w : World H} :
      Change s (some (.session .undo)) .undone { s with
        canvas := s.canvas.clear.reset.applyAll s.defaults past.reverse
        pen := past.reverse.foldl Pen.apply s.defaults
        timeline := ⟨past, p :: s.timeline.future, false⟩
        dirty := true
        world := w }
  | nothingUndone (h : s.timeline.past = []) : Change s (some (.session .undo)) .noOp s
  | redone {p : Primitive} {future : List Primitive} (h : s.timeline.future = p :: future)
      {w : World H} :
      Change s (some (.session .redo)) .redone { s with
        canvas := s.canvas.apply (s.pen.apply p) p
        pen := s.pen.apply p
        timeline := ⟨p :: s.timeline.past, future, false⟩
        dirty := true
        world := w }
  | nothingRedone (h : s.timeline.future = []) : Change s (some (.session .redo)) .noOp s
  | cleared (h : s.dirty = false ∨ (s.world.confirm clearQuestion).1 = true) {w : World H} :
      Change s (some (.session .clear)) .cleared { s with
        canvas := s.canvas.clear.reset
        pen := s.defaults
        timeline := {}
        dirty := false
        world := w }
  | declined (h : s.dirty = true) (hno : (s.world.confirm clearQuestion).1 = false)
      {w : World H} : Change s (some (.session .clear)) .cancelled { s with world := w }
  | saved {w : World H} :
      Change s (some (.session .saveCommands)) .fileDone { s with dirty := false, world := w }
  | imported {image : Scene R} {w : World H} :
      Change s (some (.session .loadImage)) .fileDone { s with
        canvas := { s.canvas with scene := s.canvas.scene.append image }
        dirty := true
        world := w }
  | kept {c : SessionCommand} {o : Outcome} (h : c.Keeps o) {w : World H} :
      Change s (some (.session c)) o { s with world := w }

/-! ## Drawing, undoing and redoing -/

/-- What several primitives leave of a session. -/
theorem runAll_eq (s : Session R H) (ps : List Primitive) :
    ∃ w, s.runAll ps = { s with
      canvas := s.canvas.applyAll s.pen ps
      pen := ps.foldl Pen.apply s.pen
      timeline := ps.foldl Timeline.push s.timeline
      world := w } := by
  induction ps generalizing s with
  | nil => exact ⟨s.world, rfl⟩
  | cons p ps ih =>
    obtain ⟨w, hw⟩ := ih (s.run p)
    exact ⟨w, hw⟩

theorem undo_change (s : Session R H) :
    s.Change (some (.session .undo)) s.undo.1 s.undo.2 := by
  cases h : s.timeline.past with
  | nil =>
    have hundo : s.undo = (.noOp, s) := by rw [undo, Timeline.beginUndo?, h]
    rw [hundo]
    exact .nothingUndone h
  | cons p past =>
    -- The log is empty while it is played again, and pushing keeps what can be redone.
    let begun : Session R H := { s with
      timeline := { past := [], future := p :: s.timeline.future, replaying := true } }
    have hundo : s.undo =
        (.undone, ((begun.record (.undo past.reverse.length)).restart.runAll
          past.reverse).endReplay) := by
      rw [undo, Timeline.beginUndo?, h]
    obtain ⟨w, hw⟩ := runAll_eq (begun.record (.undo past.reverse.length)).restart past.reverse
    have htimeline : past.reverse.foldl Timeline.push begun.timeline =
        ⟨past, p :: s.timeline.future, true⟩ := by
      rw [Timeline.foldl_push_of_replaying rfl, List.reverse_reverse]
      simp only [begun, List.append_nil]
    rw [hundo, hw]
    show s.Change _ _ { s with
      canvas := s.canvas.clear.reset.applyAll s.defaults past.reverse
      pen := past.reverse.foldl Pen.apply s.defaults
      timeline := (past.reverse.foldl Timeline.push begun.timeline).endReplay
      dirty := true
      world := w }
    rw [htimeline]
    exact .undone h

theorem redo_change (s : Session R H) :
    s.Change (some (.session .redo)) s.redo.1 s.redo.2 := by
  cases h : s.timeline.future with
  | nil =>
    have hredo : s.redo = (.noOp, s) := by rw [redo, Timeline.beginRedo?, h]
    rw [hredo]
    exact .nothingRedone h
  | cons p future =>
    -- What is left to redo stays where it is when the primitive is pushed.
    let begun : Session R H := { s with
      timeline := { s.timeline with future := future, replaying := true } }
    have hredo : s.redo = (.redone, ((begun.record (.redo p)).run p).endReplay) := by
      rw [redo, Timeline.beginRedo?, h]
    rw [hredo]
    exact .redone h

theorem clear_change (s : Session R H) :
    s.Change (some (.session .clear)) s.clear.1 s.clear.2 := by
  by_cases hdirty : s.dirty = true
  · rw [clear, if_pos hdirty]
    dsimp only
    cases hyes : (s.world.confirm clearQuestion).1 with
    | false => exact .declined hdirty hyes
    | true => exact .cleared (.inr hyes)
  · rw [clear, if_neg hdirty]
    exact .cleared (.inl (Bool.eq_false_iff.2 hdirty))

/-! ## Files -/

omit [Scalar R] in
/-- Asking for a path reaches the world alone. -/
theorem exists_pick (s : Session R H) (dialog : Dialog) :
    ∃ path w, s.pick dialog = (path, { s with world := w }) := ⟨_, _, rfl⟩

theorem saveCommands_change (s : Session R H) :
    s.Change (some (.session .saveCommands)) s.saveCommands.1 s.saveCommands.2 := by
  obtain ⟨path, w, hpick⟩ := s.exists_pick .saveCommands
  rw [saveCommands, hpick]
  cases path with
  | none => exact .kept (by trivial)
  | some path =>
    dsimp only
    split
    · exact .kept (by trivial)
    · exact .saved

theorem saveImage_change (s : Session R H) :
    s.Change (some (.session .saveImage)) s.saveImage.1 s.saveImage.2 := by
  obtain ⟨path, w, hpick⟩ := s.exists_pick .saveImage
  rw [saveImage, hpick]
  cases path with
  | none => exact .kept (by trivial)
  | some path =>
    dsimp only
    split
    · exact .kept (by trivial)
    · exact .kept (by trivial)

theorem loadImage_change (s : Session R H) :
    s.Change (some (.session .loadImage)) s.loadImage.1 s.loadImage.2 := by
  obtain ⟨path, w, hpick⟩ := s.exists_pick .loadImage
  rw [loadImage, hpick]
  cases path with
  | none => exact .kept (by trivial)
  | some path =>
    dsimp only
    split
    · exact .kept (by trivial)
    · next canvas h =>
      obtain ⟨image, rfl⟩ := Canvas.eq_of_load h
      exact .imported

/-! ## Statements -/

/-- The command that a statement stands for where it stands, unless it is refused. -/
def commandOf (s : Session R H) (statement : Statement) (origin : Origin) : Option Command :=
  match statement.validate >>= s.permit with
  | .error _ => none
  | .ok c => some (asWritten origin c)

omit [Scalar R] [Host H] in
theorem commandOf_eq_some_iff {s : Session R H} {statement : Statement} {origin : Origin}
    {c : Command} : s.commandOf statement origin = some c ↔
      ∃ d, statement.validate >>= s.permit = .ok d ∧ asWritten origin d = c := by
  rw [commandOf]
  cases statement.validate >>= s.permit with
  | error e =>
    constructor
    · intro h
      cases h
    · rintro ⟨d, h, -⟩
      cases h
  | ok d =>
    constructor
    · intro h
      exact ⟨d, rfl, Option.some.inj h⟩
    · rintro ⟨d', h, rfl⟩
      cases h
      rfl

theorem obeyWith_of_commandOf {s : Session R H} (load : Session R H → Outcome × Session R H)
    {statement : Statement} {origin : Origin} {c : Command}
    (h : s.commandOf statement origin = some c) :
    s.obeyWith load statement origin = s.execute load c := by
  obtain ⟨d, hd, rfl⟩ := commandOf_eq_some_iff.1 h
  rw [obeyWith, hd]

theorem obey_of_commandOf_session {s : Session R H} {statement : Statement} {origin : Origin}
    {request : SessionCommand} (h : s.commandOf statement origin = some (.session request)) :
    s.obey statement origin = s.request loadCommands request :=
  obeyWith_of_commandOf loadCommands h

theorem obeyWith_of_commandOf_eq_none {s : Session R H}
    (load : Session R H → Outcome × Session R H) {statement : Statement} {origin : Origin}
    (h : s.commandOf statement origin = none) :
    ∃ e, statement.validate >>= s.permit = .error e ∧
      s.obeyWith load statement origin = s.reject statement.verb origin e := by
  rw [commandOf] at h
  cases hv : statement.validate >>= s.permit with
  | error e => exact ⟨e, rfl, by rw [obeyWith, hv]⟩
  | ok d =>
    rw [hv] at h
    cases h

theorem draw_change (s : Session R H) {c : Command} {ps : List Primitive} (hc : c.InRange)
    (hps : c.primitives? s.pen = some ps) : s.Change (some c) (s.draw ps).1 (s.draw ps).2 := by
  obtain ⟨w, hw⟩ := s.runAll_eq ps
  rw [draw, hw]
  exact .drawn hc hps

/-- A command that does not load a command file makes a change. -/
theorem execute_change (s : Session R H) (load : Session R H → Outcome × Session R H)
    {c : Command} (hc : c.InRange) (hload : c ≠ .session .loadCommands) :
    s.Change (some c) (s.execute load c).1 (s.execute load c).2 := by
  cases c with
  | primitive p => exact s.draw_change hc rfl
  -- A shape in range has an expansion, so that drawing it cannot fail.
  | shape shape =>
    obtain ⟨ps, hps⟩ | ⟨_, h⟩ := Command.exists_primitives? (c := .shape shape) hc s.pen
    · have hexpand : shape.expand? s.pen = some ps := hps
      rw [execute, hexpand]
      exact s.draw_change hc hps
    · cases h
  | session request =>
    cases request with
    | about => exact .kept (by trivial)
    | help => exact .kept (by trivial)
    | clear => exact s.clear_change
    | undo => exact s.undo_change
    | redo => exact s.redo_change
    | saveCommands => exact s.saveCommands_change
    | loadCommands => exact absurd rfl hload
    | saveImage => exact s.saveImage_change
    | loadImage => exact s.loadImage_change

omit [Scalar R] [Host H] in
/-- A permitted command is the command itself. -/
theorem eq_of_permit {s : Session R H} {c d : Command} (h : s.permit c = .ok d) : d = c := by
  rw [permit] at h
  split at h
  · unfold Command.checkInScript at h
    split at h
    · cases h
    · exact (Except.ok.inj h).symm
  · exact (Except.ok.inj h).symm

/-- What a valid command stands for is in range, in a script as well. -/
theorem inRange_asWritten (origin : Origin) {c : Command} (h : c.InRange) :
    (asWritten origin c).InRange := by
  unfold asWritten
  split
  · next p _ hp =>
    unfold Command.canonical? at hp
    split at hp
    all_goals first
      | exact Option.some.inj hp ▸ h
      | cases hp
  · exact h

/-- A request is written as itself. -/
theorem eq_of_asWritten_session {origin : Origin} {c : Command} {request : SessionCommand}
    (h : asWritten origin c = .session request) : c = .session request := by
  unfold asWritten at h
  split at h
  · cases h
  · exact h

omit [Scalar R] [Host H] in
/-- A valid statement stands for its command everywhere, if that does not load a command file. -/
theorem commandOf_of_validate (s : Session R H) {statement : Statement} {c : Command}
    (hvalid : statement.validate = .ok c) (hload : c ≠ .session .loadCommands) (origin : Origin) :
    s.commandOf statement origin = some (asWritten origin c) := by
  have hpermit : s.permit c = .ok c := by
    rw [permit]
    split
    · unfold Command.checkInScript
      split
      · exact absurd rfl hload
      · rfl
    · rfl
  exact commandOf_eq_some_iff.2 ⟨c, bind_eq_ok_iff.2 ⟨c, hvalid, hpermit⟩, rfl⟩

omit [Scalar R] [Host H] in
theorem commandOf_of_validate_session (s : Session R H) {statement : Statement}
    {request : SessionCommand} (hvalid : statement.validate = .ok (.session request))
    (hload : request ≠ .loadCommands) (origin : Origin) :
    s.commandOf statement origin = some (.session request) := by
  rw [s.commandOf_of_validate hvalid fun h => hload (Command.session.inj h)]
  cases origin <;> rfl

omit [Scalar R] [Host H] in
/-- What a statement stands for is in range. -/
theorem inRange_of_commandOf {s : Session R H} {statement : Statement} {origin : Origin}
    {c : Command} (h : s.commandOf statement origin = some c) : c.InRange := by
  obtain ⟨d, hd, rfl⟩ := commandOf_eq_some_iff.1 h
  obtain ⟨valid, hvalid, hpermit⟩ := bind_eq_ok_iff.1 hd
  rw [eq_of_permit hpermit]
  exact inRange_asWritten origin (Statement.inRange_of_validate hvalid)

/-- Every statement makes a change, if it does not load a command file. -/
theorem obeyWith_change (s : Session R H) (load : Session R H → Outcome × Session R H)
    (statement : Statement) (origin : Origin)
    (hload : s.commandOf statement origin ≠ some (.session .loadCommands)) :
    s.Change (s.commandOf statement origin) (s.obeyWith load statement origin).1
      (s.obeyWith load statement origin).2 := by
  cases h : s.commandOf statement origin with
  | none =>
    obtain ⟨e, -, hobey⟩ := obeyWith_of_commandOf_eq_none load h
    rw [hobey]
    exact .refused
  | some c =>
    rw [obeyWith_of_commandOf load h]
    exact s.execute_change load (inRange_of_commandOf h) fun hc => hload (hc ▸ h)

end Session

end Turtle

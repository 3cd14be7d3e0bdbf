import Turtle.Binary64.Scalar
import Turtle.Console
import Turtle.Proofs.Canvas.Course
import Turtle.Proofs.Session.Filed
import Turtle.Proofs.Session.Host
import Turtle.Proofs.Session.Undoing

/-!
# The pen never steers the turtle

Two sessions that begin with different pens, and in which the same lines are typed, go the same way.
They draw in different colors, and maybe one of them draws nothing at all; but the turtles are in
the same place after every statement, and the statements come to the same. Even the logs are the
same, entry by entry, but for what shapes have put into them: the snapshot of a pen says of the pen
what it is.

* `Snapshots` keeps in mind which entries of a timeline are of a snapshot, and `AgreeBut` says that
  two logs are the same but for those;
* `Session.SameCourse` is what two sessions have in common, and `Session.SameCourse.step` that a
  statement keeps it so;
* `Session.pen_never_steers`: it is so after every statement.
-/

namespace Turtle

/-! ## Logs that differ in snapshots -/

/-- Both primitives say something about the pen, and in the same respect. -/
def Primitive.SameSetting : Primitive → Primitive → Prop
  | pen _, pen _ | penWidth _, penWidth _ => True
  | penUp, penUp | penUp, penDown | penDown, penUp | penDown, penDown => True
  | _, _ => False

/-- Two primitives are the same; in a snapshot, they say something in the same respect. -/
def Primitive.AgreesBut (p q : Primitive) (ofSnapshot : Bool) : Prop :=
  if ofSnapshot then p.SameSetting q else q = p

/-- Two logs are the same but for the entries of snapshots, as they are marked. -/
inductive AgreeBut : List Bool → List Primitive → List Primitive → Prop
  | nil : AgreeBut [] [] []
  | cons {mark : Bool} {marks : List Bool} {p q : Primitive} {ps qs : List Primitive}
      (hp : p.AgreesBut q mark) (h : AgreeBut marks ps qs) :
      AgreeBut (mark :: marks) (p :: ps) (q :: qs)

namespace AgreeBut

variable {marks marks' : List Bool} {ps qs ps' qs' : List Primitive}

theorem length_eq (h : AgreeBut marks ps qs) : qs.length = ps.length := by
  induction h with
  | nil => rfl
  | cons _ _ ih => exact congrArg (· + 1) ih

/-- A log agrees with itself. -/
theorem refl (ps : List Primitive) : AgreeBut (ps.map fun _ => false) ps ps := by
  induction ps with
  | nil => exact .nil
  | cons p ps ih => exact .cons rfl ih

theorem append (h : AgreeBut marks ps qs) (h' : AgreeBut marks' ps' qs') :
    AgreeBut (marks ++ marks') (ps ++ ps') (qs ++ qs') := by
  induction h with
  | nil => exact h'
  | cons hp _ ih => exact .cons hp ih

theorem reverse (h : AgreeBut marks ps qs) :
    AgreeBut marks.reverse ps.reverse qs.reverse := by
  induction h with
  | nil => exact .nil
  | cons hp _ ih =>
    rw [List.reverse_cons, List.reverse_cons, List.reverse_cons]
    exact ih.append (.cons hp .nil)

theorem of_cons {p q : Primitive} (h : AgreeBut marks (p :: ps) (q :: qs)) :
    ∃ mark rest, marks = mark :: rest ∧ p.AgreesBut q mark ∧ AgreeBut rest ps qs := by
  cases h with
  | cons hp h => exact ⟨_, _, rfl, hp, h⟩

/-- Snapshots of two pens agree. -/
theorem snapshot (pen pen' : Pen) :
    AgreeBut [true, true, true] pen.snapshot pen'.snapshot := by
  refine .cons trivial (.cons trivial (.cons ?_ .nil))
  show Primitive.SameSetting _ _
  cases pen.down <;> cases pen'.down <;> trivial

end AgreeBut

/-- Primitives that agree lead the turtle the same way. -/
theorem Course.after_of_agreesBut {R : Type} [Scalar R] (c : Course R) {p q : Primitive}
    {mark : Bool} (h : p.AgreesBut q mark) : c.after q = c.after p := by
  cases mark with
  | false => exact congrArg c.after h
  | true =>
    have h : p.SameSetting q := h
    cases p <;> cases q <;> first | rfl | exact h.elim

theorem AgreeBut.foldl_after {R : Type} [Scalar R] {marks : List Bool} {ps qs : List Primitive}
    (h : AgreeBut marks ps qs) (c : Course R) :
    qs.foldl Course.after c = ps.foldl Course.after c := by
  induction h generalizing c with
  | nil => rfl
  | cons hp _ ih => rw [List.foldl_cons, List.foldl_cons, c.after_of_agreesBut hp, ih]

/-! ## Which entries are of a snapshot -/

/-- For each of the primitives that a command draws, whether it is of the snapshot of a shape. -/
def Command.snapshots : Command → List Bool
  | primitive _ => [false]
  | shape figure => figure.body?.elim [] fun body => [true, true, true] ++ body.map fun _ => false
  | session _ => []

/-- With two pens, a command draws the same but for a snapshot. -/
theorem Command.agreeBut_primitives? {c : Command} {pen pen' : Pen} {ps qs : List Primitive}
    (h : c.primitives? pen = some ps) (h' : c.primitives? pen' = some qs) :
    AgreeBut c.snapshots ps qs := by
  cases c with
  | primitive p =>
    cases h
    cases h'
    exact .refl [p]
  | shape figure =>
    obtain ⟨body, hbody, rfl⟩ := Option.map_eq_some_iff.1 h
    obtain ⟨body', hbody', rfl⟩ := Option.map_eq_some_iff.1 h'
    obtain rfl := Option.some.inj (hbody.symm.trans hbody')
    rw [snapshots, hbody]
    exact (AgreeBut.snapshot pen pen').append (.refl body)
  | session request => cases h

/-- For each entry of a timeline, whether it is of a snapshot: of the log the newest first, and of
    what can be redone the next first. -/
structure Snapshots where
  past : List Bool := []
  future : List Bool := []
  deriving DecidableEq

namespace Snapshots

variable {R H : Type}

/-- The marks move with the entries. -/
def after (marks : Snapshots) (turn : Turn R H) : Snapshots :=
  match turn.outcome with
  | .drawn _ => ⟨(turn.command.elim [] Command.snapshots).reverse ++ marks.past, []⟩
  | .undone => ⟨marks.past.tail, marks.past.take 1 ++ marks.future⟩
  | .redone => ⟨marks.future.take 1 ++ marks.past, marks.future.tail⟩
  | .cleared => {}
  | .noOp | .informed | .fileDone | .cancelled | .rejected _ | .failed _ | .faulted => marks

/-- The turns, each with the marks behind it. -/
def along (marks : Snapshots) : List (Turn R H) → List (Snapshots × Turn R H)
  | [] => []
  | turn :: turns => (marks.after turn, turn) :: (marks.after turn).along turns

end Snapshots

/-! ## Statements that ask for no path -/

/-- A statement that saves or loads something. -/
def Statement.asksForPath (statement : Statement) : Bool :=
  match statement.validate with
  | .ok c => c.asksForPath
  | .error _ => false

namespace Session

variable {R H : Type} [Scalar R] [Host H]

/-- A session in which the primitive was done again that comes next. -/
def redone (s : Session R H) (p : Primitive) (future : List Primitive) (w : World H) :
    Session R H :=
  { s with
    canvas := s.canvas.apply (s.pen.apply p) p
    pen := s.pen.apply p
    timeline := ⟨p :: s.timeline.past, future, false⟩
    dirty := true
    world := w }

/-- A redo does the primitive again that comes next, if there is one. -/
theorem Change.eq_of_redo {s t : Session R H} {o : Outcome}
    (h : s.Change (some (.session .redo)) o t) :
    (s.timeline.future = [] ∧ o = .noOp ∧ t = s) ∨
      ∃ p future w, s.timeline.future = p :: future ∧ o = .redone ∧ t = s.redone p future w := by
  cases h with
  | drawn _ hps => cases hps
  | redone h => exact .inr ⟨_, _, _, h, rfl, rfl⟩
  | nothingRedone h => exact .inl ⟨h, rfl, rfl⟩
  | kept hkeeps => exact hkeeps.elim

/-- What two sessions have in common that went the same way with different pens. -/
structure SameCourse (marks : Snapshots) (s t : Session R H) : Prop where
  course : t.canvas.course = s.canvas.course
  dirty : t.dirty = s.dirty
  past : AgreeBut marks.past s.timeline.past t.timeline.past
  future : AgreeBut marks.future s.timeline.future t.timeline.future
  idle : s.timeline.replaying = false
  idle' : t.timeline.replaying = false

namespace SameCourse

variable {marks : Snapshots} {s t : Session R H}

omit [Scalar R] [Host H] in
theorem withWorlds (h : SameCourse marks s t) (w w' : World H) :
    SameCourse marks { s with world := w } { t with world := w' } :=
  ⟨h.course, h.dirty, h.past, h.future, h.idle, h.idle'⟩

omit [Host H] in
/-- What a command draws keeps two sessions together. -/
theorem drawn (h : SameCourse marks s t) {c : Command} {ps qs : List Primitive}
    (hps : c.primitives? s.pen = some ps) (hqs : c.primitives? t.pen = some qs)
    (w w' : World H) :
    SameCourse ⟨c.snapshots.reverse ++ marks.past, []⟩ (s.drawn ps w) (t.drawn qs w') := by
  have hagree := Command.agreeBut_primitives? hps hqs
  have htimeline := Timeline.foldl_push_of_not_replaying h.idle ps
  have htimeline' := Timeline.foldl_push_of_not_replaying h.idle' qs
  rw [if_neg (Command.ne_nil_of_primitives? hps)] at htimeline
  rw [if_neg (Command.ne_nil_of_primitives? hqs)] at htimeline'
  refine ⟨?_, rfl, ?_, ?_, ?_, ?_⟩
  · show (t.canvas.applyAll t.pen qs).course = (s.canvas.applyAll s.pen ps).course
    rw [Canvas.course_applyAll, Canvas.course_applyAll, h.course, hagree.foldl_after]
  · show AgreeBut _ (ps.foldl Timeline.push s.timeline).past
      (qs.foldl Timeline.push t.timeline).past
    rw [htimeline, htimeline']
    exact hagree.reverse.append h.past
  · show AgreeBut _ (ps.foldl Timeline.push s.timeline).future
      (qs.foldl Timeline.push t.timeline).future
    rw [htimeline, htimeline']
    exact .nil
  · exact (congrArg Timeline.replaying htimeline).trans h.idle
  · exact (congrArg Timeline.replaying htimeline').trans h.idle'

/-- An undo keeps two sessions together: what is left of their logs leads the same way from home. -/
theorem undo (h : SameCourse marks s t) {o o' : Outcome} {s' t' : Session R H}
    (hs : s.Change (some (.session .undo)) o s') (ht : t.Change (some (.session .undo)) o' t') :
    o' = o ∧ SameCourse (marks.after ⟨s, some (.session .undo), o, s'⟩) s' t' := by
  have hpasts := h.past
  rcases hs.eq_of_undo with ⟨hpast, rfl, rfl⟩ | ⟨p, past, w, hpast, rfl, rfl⟩ <;>
    rcases ht.eq_of_undo with ⟨hpast', rfl, rfl⟩ | ⟨q, past', w', hpast', rfl, rfl⟩ <;>
    rw [hpast, hpast'] at hpasts
  · exact ⟨rfl, h⟩
  · cases hpasts.length_eq
  · cases hpasts.length_eq
  · obtain ⟨mark, rest, hmarks, hp, hrest⟩ := hpasts.of_cons
    refine ⟨rfl, ?_, rfl, ?_, ?_, rfl, rfl⟩
    · show (Canvas.applyAll _ _ _).course = (Canvas.applyAll _ _ _).course
      rw [Canvas.course_applyAll, Canvas.course_applyAll, Canvas.course_reset,
        Canvas.course_reset, hrest.reverse.foldl_after]
    · show AgreeBut marks.past.tail past past'
      rwa [hmarks]
    · show AgreeBut (marks.past.take 1 ++ marks.future) (p :: s.timeline.future)
        (q :: t.timeline.future)
      rw [hmarks]
      exact .cons hp h.future

/-- A redo keeps two sessions together. -/
theorem redo (h : SameCourse marks s t) {o o' : Outcome} {s' t' : Session R H}
    (hs : s.Change (some (.session .redo)) o s') (ht : t.Change (some (.session .redo)) o' t') :
    o' = o ∧ SameCourse (marks.after ⟨s, some (.session .redo), o, s'⟩) s' t' := by
  have hfutures := h.future
  rcases hs.eq_of_redo with ⟨hfuture, rfl, rfl⟩ | ⟨p, future, w, hfuture, rfl, rfl⟩ <;>
    rcases ht.eq_of_redo with ⟨hfuture', rfl, rfl⟩ | ⟨q, future', w', hfuture', rfl, rfl⟩ <;>
    rw [hfuture, hfuture'] at hfutures
  · exact ⟨rfl, h⟩
  · cases hfutures.length_eq
  · cases hfutures.length_eq
  · obtain ⟨mark, rest, hmarks, hp, hrest⟩ := hfutures.of_cons
    refine ⟨rfl, ?_, rfl, ?_, ?_, rfl, rfl⟩
    · show (Canvas.apply _ _ _).course = (Canvas.apply _ _ _).course
      rw [Canvas.course_apply, Canvas.course_apply, h.course, Course.after_of_agreesBut _ hp]
    · show AgreeBut (marks.future.take 1 ++ marks.past) (p :: s.timeline.past)
        (q :: t.timeline.past)
      rw [hmarks]
      exact .cons hp h.past
    · show AgreeBut marks.future.tail future future'
      rwa [hmarks]

/-- A command that asks for no path keeps two sessions together. -/
theorem of_changes (h : SameCourse marks s t) {c : Command} {o o' : Outcome} {s' t' : Session R H}
    (hc : c.asksForPath = false) (hs : s.Change (some c) o s') (ht : t.Change (some c) o' t')
    (hanswer : c = .session .clear → s.dirty = true → (o = .cleared ↔ o' = .cleared)) :
    o' = o ∧ SameCourse (marks.after ⟨s, some c, o, s'⟩) s' t' := by
  by_cases hrequest : ∃ request, c = .session request
  · obtain ⟨request, rfl⟩ := hrequest
    have told (hr : request = .about ∨ request = .help) :
        o' = o ∧ SameCourse (marks.after ⟨s, some (.session request), o, s'⟩) s' t' := by
      obtain ⟨rfl, w, rfl⟩ := hs.eq_of_tells hr
      obtain ⟨rfl, w', rfl⟩ := ht.eq_of_tells hr
      exact ⟨rfl, h.withWorlds w w'⟩
    cases request with
    | about => exact told (.inl rfl)
    | help => exact told (.inr rfl)
    | undo => exact h.undo hs ht
    | redo => exact h.redo hs ht
    | clear =>
      rcases hs.eq_of_clear with ⟨rfl, w, rfl⟩ | ⟨rfl, hdirty, w, rfl⟩
      · rcases ht.eq_of_clear with ⟨rfl, w', rfl⟩ | ⟨rfl, hdirty, w', rfl⟩
        · exact ⟨rfl, rfl, rfl, .nil, .nil, rfl, rfl⟩
        · cases (hanswer rfl (h.dirty ▸ hdirty)).1 rfl
      · rcases ht.eq_of_clear with ⟨rfl, w', rfl⟩ | ⟨rfl, -, w', rfl⟩
        · cases (hanswer rfl hdirty).2 rfl
        · exact ⟨rfl, h.withWorlds w w'⟩
    | _ => cases hc
  · have hne (request : SessionCommand) : c ≠ .session request :=
      fun hrequest' => hrequest ⟨request, hrequest'⟩
    obtain ⟨ps, w, hps, rfl, rfl⟩ := hs.exists_drawn hne
    obtain ⟨qs, w', hqs, rfl, rfl⟩ := ht.exists_drawn hne
    rw [(Command.agreeBut_primitives? hps hqs).length_eq]
    exact ⟨rfl, h.drawn hps hqs w w'⟩

end SameCourse

omit [Scalar R] [Host H] in
/-- What a statement stands for that asks for no path does not depend on where it is typed. -/
theorem commandOf_of_asksForPath_eq_false (s : Session R H) {statement : Statement}
    (h : statement.asksForPath = false) :
    s.commandOf statement .user = statement.validate.toOption := by
  rw [Statement.asksForPath] at h
  cases hvalid : statement.validate with
  | error e => exact s.commandOf_of_error hvalid .user
  | ok c =>
    rw [hvalid] at h
    refine s.commandOf_of_validate hvalid ?_ .user
    rintro rfl
    cases h

theorem obey_of_error (s : Session R H) {statement : Statement} {e : CommandError}
    (hvalid : statement.validate = .error e) :
    s.obey statement .user = s.reject statement.verb .user e := by
  rw [obey, obeyWith, hvalid]
  rfl

omit [Scalar R] [Host H] in
theorem asksForPath_of_commandOf {s : Session R H} {statement : Statement} {c : Command}
    (h : statement.asksForPath = false) (hc : s.commandOf statement .user = some c) :
    c.asksForPath = false := by
  rw [s.commandOf_of_asksForPath_eq_false h] at hc
  rw [Statement.asksForPath] at h
  cases hvalid : statement.validate with
  | error e =>
    rw [hvalid] at hc
    cases hc
  | ok d =>
    rw [hvalid] at hc h
    cases hc
    exact h

omit [Scalar R] [Host H] in
theorem commandOf_ne_load_of_asksForPath_eq_false (s : Session R H) {statement : Statement}
    (h : statement.asksForPath = false) :
    s.commandOf statement .user ≠ some (.session .loadCommands) := by
  intro hload
  cases asksForPath_of_commandOf h hload

/-- Two turns of which the second goes the same way, with another pen. -/
structure SameWay (marks : Snapshots) (turn turn' : Turn R H) : Prop where
  command : turn'.command = turn.command
  outcome : turn'.outcome = turn.outcome
  course : SameCourse marks turn.after turn'.after

namespace SameCourse

variable {marks : Snapshots} {s t : Session R H}

/-- A statement that asks for no path keeps two sessions together. -/
theorem step (h : SameCourse marks s t) {statement : Statement}
    (hpath : statement.asksForPath = false)
    (hanswer : (s.turnTyped statement).answer? = (t.turnTyped statement).answer?) :
    SameWay (marks.after (s.turnTyped statement)) (s.turnTyped statement)
      (t.turnTyped statement) := by
  have hs := s.obeyWith_change loadCommands statement .user
    (s.commandOf_ne_load_of_asksForPath_eq_false hpath)
  have ht := t.obeyWith_change loadCommands statement .user
    (t.commandOf_ne_load_of_asksForPath_eq_false hpath)
  have hcommand := s.commandOf_of_asksForPath_eq_false hpath
  have hcommand' := t.commandOf_of_asksForPath_eq_false hpath
  rw [Statement.asksForPath] at hpath
  rw [turnTyped, turnTyped] at *
  cases hvalid : statement.validate with
  | error e =>
    rw [s.obey_of_error hvalid, t.obey_of_error hvalid, s.commandOf_of_error hvalid,
      t.commandOf_of_error hvalid]
    exact ⟨rfl, rfl, h.withWorlds _ _⟩
  | ok c =>
    rw [hvalid] at hcommand hcommand' hpath
    rw [hcommand] at hs hanswer ⊢
    rw [hcommand'] at ht hanswer ⊢
    obtain ⟨ho, hcourse⟩ := h.of_changes hpath hs ht fun hclear hdirty =>
      Turn.cleared_iff_of_answer?_eq hanswer (congrArg some hclear) (congrArg some hclear) hdirty
        (h.dirty.trans hdirty)
    exact ⟨rfl, ho, hcourse⟩

/-- Both ask whether to clear, or neither does. -/
theorem length_answer? (h : SameCourse marks s t) (statement : Statement) :
    (s.turnTyped statement).answer?.toList.length =
      (t.turnTyped statement).answer?.toList.length :=
  Turn.length_answer? (commandOf_eq_clear_iff.trans commandOf_eq_clear_iff.symm) h.dirty

/-- So do several statements, if the same answers are given. -/
theorem run (h : SameCourse marks s t) {statements : List Statement}
    (hpaths : ∀ statement ∈ statements, statement.asksForPath = false)
    (hanswers : Turn.answers (s.turnsOfLine statements) =
      Turn.answers (t.turnsOfLine statements)) :
    List.Forall₂ (fun x turn' => SameWay x.1 x.2 turn')
        (marks.along (s.turnsOfLine statements)) (t.turnsOfLine statements) ∧
      SameCourse ((s.turnsOfLine statements).foldl Snapshots.after marks)
        (statements.foldl (fun s statement => (s.obey statement .user).2) s)
        (statements.foldl (fun s statement => (s.obey statement .user).2) t) := by
  induction statements generalizing marks s t with
  | nil => exact ⟨.nil, h⟩
  | cons statement rest ih =>
    have hpath := hpaths statement List.mem_cons_self
    rw [turnsOfLine_cons (s.commandOf_ne_load_of_asksForPath_eq_false hpath),
      turnsOfLine_cons (t.commandOf_ne_load_of_asksForPath_eq_false hpath)] at hanswers ⊢
    obtain ⟨hanswer, hrest⟩ := Turn.answers_cons_inj (h.length_answer? statement) hanswers
    have hnext := h.step hpath hanswer
    obtain ⟨halong, hend⟩ :=
      ih hnext.course (fun x hx => hpaths x (List.mem_cons_of_mem _ hx)) hrest
    exact ⟨.cons hnext halong, hend⟩

end SameCourse

/-! ## Answers from an input -/

section AnswersFrom

variable {U : Type} {input : H → U} (hin : Host.AnswersFrom input) {marks : Snapshots}
  {s t : Session R H}
include hin

/-- With the same input, two sessions are cleared alike, and the same is left of it. -/
theorem clear_of_input_eq (hdirty : t.dirty = s.dirty)
    (hinput : input t.world.host = input s.world.host) :
    t.clear.1 = s.clear.1 ∧ input t.clear.2.world.host = input s.clear.2.world.host := by
  have wiped {s t : Session R H} (h : input t.world.host = input s.world.host) :
      input t.wipe.world.host = input s.wipe.world.host :=
    (World.input_record hin t.world _).trans (h.trans (World.input_record hin s.world _).symm)
  rw [clear, clear, hdirty]
  cases s.dirty with
  | false => exact ⟨rfl, wiped hinput⟩
  | true =>
    obtain ⟨hanswer, hinput⟩ := hin.confirm clearQuestion hinput
    have hyes : (t.world.confirm clearQuestion).1 = (s.world.confirm clearQuestion).1 := hanswer
    rw [if_pos rfl, if_pos rfl]
    dsimp only
    rw [hyes]
    cases (s.world.confirm clearQuestion).1 with
    | false => exact ⟨rfl, hinput⟩
    | true => exact ⟨rfl, wiped hinput⟩

/-- What asks for no path and does not clear takes nothing from the input. -/
theorem input_obey_of_not_asks (s : Session R H) {statement : Statement}
    (hpath : statement.asksForPath = false)
    (hclear : s.commandOf statement .user ≠ some (.session .clear)) :
    input (s.obey statement .user).2.world.host = input s.world.host := by
  have hshow : Host.KeptByShowing fun h => input h = input s.world.host :=
    ⟨fun message _ h => (hin.report message _).trans h,
      fun line _ h => (hin.note line _).trans h⟩
  exact host_obeyWith_of_execute hshow rfl loadCommands fun c hc =>
    host_execute_of_not_asks hshow rfl loadCommands (asksForPath_of_commandOf hpath hc)
      fun h => hclear (h ▸ hc)

/-- With the same input, the same answer is given to a statement, and the same is left of it. -/
theorem SameCourse.answer_of_input_eq (h : SameCourse marks s t)
    (hinput : input t.world.host = input s.world.host) {statement : Statement}
    (hpath : statement.asksForPath = false) :
    (s.turnTyped statement).answer? = (t.turnTyped statement).answer? ∧
      input (t.turnTyped statement).after.world.host =
        input (s.turnTyped statement).after.world.host := by
  by_cases hclear : statement.validate = .ok (.session .clear)
  · have clears (s : Session R H) : s.turnTyped statement =
        ⟨s, some (.session .clear), s.clear.1, s.clear.2⟩ := by
      have hcommand : s.commandOf statement .user = some (.session .clear) :=
        commandOf_eq_clear_iff.2 hclear
      rw [turnTyped, hcommand, obey_of_commandOf_session hcommand]
      rfl
    obtain ⟨ho, hafter⟩ := clear_of_input_eq hin h.dirty hinput
    rw [clears, clears, Turn.answer?, Turn.answer?, ho, h.dirty]
    exact ⟨rfl, hafter⟩
  · have hcommand (s : Session R H) : s.commandOf statement .user ≠ some (.session .clear) :=
      fun h => hclear (commandOf_eq_clear_iff.1 h)
    have hanswer (s : Session R H) : (s.turnTyped statement).answer? = none :=
      if_neg fun h => hcommand s h.1
    have hafter (s : Session R H) :
        input (s.turnTyped statement).after.world.host = input s.world.host :=
      s.input_obey_of_not_asks hin hpath (hcommand s)
    rw [hanswer, hanswer, hafter, hafter]
    exact ⟨rfl, hinput⟩

theorem SameCourse.answers_of_input_eq (h : SameCourse marks s t)
    (hinput : input t.world.host = input s.world.host) {statements : List Statement}
    (hpaths : ∀ statement ∈ statements, statement.asksForPath = false) :
    Turn.answers (s.turnsOfLine statements) = Turn.answers (t.turnsOfLine statements) := by
  induction statements generalizing marks s t with
  | nil => rfl
  | cons statement rest ih =>
    have hpath := hpaths statement List.mem_cons_self
    obtain ⟨hanswer, hafter⟩ := h.answer_of_input_eq hin hinput hpath
    rw [turnsOfLine_cons (s.commandOf_ne_load_of_asksForPath_eq_false hpath),
      turnsOfLine_cons (t.commandOf_ne_load_of_asksForPath_eq_false hpath), Turn.answers_cons,
      Turn.answers_cons, hanswer]
    exact congrArg _ (ih (h.step hpath hanswer).course hafter
      fun x hx => hpaths x (List.mem_cons_of_mem _ hx))

end AnswersFrom

/-- The pen never steers the turtle. Two fresh sessions have different pens, and the same lines are
    typed in them, none of which saves or loads anything. If the same answers are given, there are
    as many turns in both, and turn by turn the commands, the outcomes, the positions and headings
    of the turtle, and the marks of unsaved changes are the same; and the logs and what can be
    redone are the same entry by entry, but for what the entries of snapshots say about the pen.
    Hosts with the same input do give the same answers. -/
theorem pen_never_steers (settings : Settings) (pen pen' : Pen) (w w' : World H)
    (lines : List String)
    (hpaths : ∀ line ∈ lines, ∀ statement ∈ Statement.readAll line,
      statement.asksForPath = false) :
    let s : Session R H := ofSettings { settings with pen := pen } w
    let t : Session R H := ofSettings { settings with pen := pen' } w'
    let ops := lines.map Operation.line
    (Turn.answers (s.history ops) = Turn.answers (t.history ops) →
      List.Forall₂ (fun x turn' => SameWay x.1 x.2 turn')
          (Snapshots.along {} (s.history ops)) (t.history ops) ∧
        SameCourse ((s.history ops).foldl Snapshots.after {}) (s.performAll ops)
          (t.performAll ops)) ∧
      ∀ {U : Type} (input : H → U), Host.AnswersFrom input →
        input w'.host = input w.host →
        Turn.answers (s.history ops) = Turn.answers (t.history ops) := by
  intro s t ops
  have hfresh : SameCourse {} s t := ⟨rfl, rfl, .nil, .nil, rfl, rfl⟩
  have hstatements : ∀ statement ∈ lines.flatMap Statement.readAll,
      statement.asksForPath = false := by
    intro statement hmem
    obtain ⟨line, hline, hstatement⟩ := List.mem_flatMap.1 hmem
    exact hpaths line hline statement hstatement
  obtain ⟨hs, hs'⟩ := s.typed_lines lines
  obtain ⟨ht, ht'⟩ := t.typed_lines lines
  rw [hs, hs', ht, ht']
  exact ⟨hfresh.run hstatements,
    fun input hin hinput => hfresh.answers_of_input_eq hin hinput hstatements⟩

/-- A pen that is up from the beginning draws nothing, where the other one draws a move and the
    sides of a square; a side is undone, and the canvas is not to be cleared. -/
theorem pen_never_steers_square :
    let pen : Pen := ⟨false, ⟨9, 8, 7⟩, 4⟩
    let w : World Console := ⟨⟨Text.encode "n\n", "", false⟩, ⟨[], [], []⟩, Journal.silent⟩
    let ops := ["move 3; square 5; undo; undo", "clear; fly; left 30; circle 2"].map Operation.line
    let s : Session Float Console := (ofSettings { Settings.standard with pen := Pen.standard } w)
    let t : Session Float Console := (ofSettings { Settings.standard with pen := pen } w)
    (t.performAll ops).canvas.course = (s.performAll ops).canvas.course ∧
      (s.performAll ops).canvas.scene.strokes.size = 4 ∧
      (t.performAll ops).canvas.scene.strokes.size = 0 ∧
      (t.performAll ops).timeline.entries ≠ (s.performAll ops).timeline.entries ∧
      (s.history ops).foldl Snapshots.after {} =
        ⟨[false, true, true, true, false] ++ List.replicate 6 false ++ [true, true, true, false],
          []⟩ := by
  intro pen w ops s t
  have hpaths : ∀ line ∈ ["move 3; square 5; undo; undo", "clear; fly; left 30; circle 2"],
      ∀ statement ∈ Statement.readAll line, statement.asksForPath = false := by
    decide +kernel
  obtain ⟨hsame, hanswers⟩ :=
    pen_never_steers (R := Float) Settings.standard Pen.standard pen w w _ hpaths
  obtain ⟨-, hcourse⟩ := hsame (hanswers Console.input Console.answersFrom_input rfl)
  exact ⟨hcourse.course, by decide +kernel, by decide +kernel, by decide +kernel,
    by decide +kernel⟩

end Session

end Turtle

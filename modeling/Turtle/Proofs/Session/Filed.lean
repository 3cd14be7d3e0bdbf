import Turtle.Binary64.Scalar
import Turtle.Console
import Turtle.Proofs.Script.Typed
import Turtle.Proofs.Session.Omission
import Turtle.Proofs.Session.Replay

/-!
# Typed and filed

The statements of a script can be typed as well, line by line, and draw the same. Only a circle is
done in another way: on a line of a script it is the primitive, but typed it is a shape, which
begins with a snapshot of the pen. The snapshot says of the pen what it is, and draws nothing, so
that it is found in the log alone.

* `Pen.withSnapshots` puts the snapshots into a log;
* `Session.Follows` says of two sessions that they differ in these snapshots at most, and
  `Session.Follows.step` that a statement keeps it so, filed in one and typed in the other;
* `Session.typed_and_filed_draw_alike`: a text leaves two such sessions.
-/

namespace Turtle

/-! ## Snapshots in a log -/

namespace Pen

/-- What is drawn in front of a primitive if its text is typed. -/
def inFront (pen : Pen) : Primitive → List Primitive
  | .circle _ => pen.snapshot
  | _ => []

/-- A log with a snapshot of the pen in front of every circle. -/
def withSnapshots (pen : Pen) : List Primitive → List Primitive
  | [] => []
  | p :: ps => pen.inFront p ++ p :: (pen.apply p).withSnapshots ps

theorem foldl_apply_inFront (pen : Pen) (p : Primitive) :
    (pen.inFront p).foldl apply pen = pen := by
  unfold inFront
  split
  · exact foldl_apply_snapshot pen pen
  · rfl

/-- The pen does not change by its own snapshots. -/
theorem foldl_apply_withSnapshots (pen : Pen) (ps : List Primitive) :
    (pen.withSnapshots ps).foldl apply pen = ps.foldl apply pen := by
  induction ps generalizing pen with
  | nil => rfl
  | cons p ps ih =>
    rw [withSnapshots, List.foldl_append, foldl_apply_inFront, List.foldl_cons, ih,
      List.foldl_cons]

theorem withSnapshots_append (pen : Pen) (ps qs : List Primitive) :
    pen.withSnapshots (ps ++ qs) =
      pen.withSnapshots ps ++ (ps.foldl apply pen).withSnapshots qs := by
  induction ps generalizing pen with
  | nil => rfl
  | cons p ps ih =>
    rw [List.cons_append, withSnapshots, ih, withSnapshots, List.append_assoc, List.cons_append,
      List.foldl_cons]

theorem withSnapshots_eq_nil_iff {pen : Pen} {ps : List Primitive} :
    pen.withSnapshots ps = [] ↔ ps = [] := by
  cases ps <;> simp [withSnapshots]

/-- Without circles there are no snapshots. -/
theorem withSnapshots_eq_self {pen : Pen} {ps : List Primitive}
    (h : ∀ r, .circle r ∉ ps) : pen.withSnapshots ps = ps := by
  induction ps generalizing pen with
  | nil => rfl
  | cons p ps ih =>
    have hp : pen.inFront p = [] := by
      unfold inFront
      split
      · next r => exact absurd List.mem_cons_self (h r)
      · rfl
    rw [withSnapshots, hp, List.nil_append, ih fun r hr => h r (List.mem_cons_of_mem _ hr)]

end Pen

namespace Canvas

variable {R : Type} [Scalar R]

/-- Nothing is drawn by a snapshot. -/
theorem applyAll_snapshot (c : Canvas R) (pen other : Pen) :
    c.applyAll other pen.snapshot = c := by
  rcases pen with ⟨_ | _, color, width⟩ <;> rfl

/-- The same is drawn with snapshots of the pen as without. -/
theorem applyAll_withSnapshots (c : Canvas R) (pen : Pen) (ps : List Primitive) :
    c.applyAll pen (pen.withSnapshots ps) = c.applyAll pen ps := by
  induction ps generalizing c pen with
  | nil => rfl
  | cons p ps ih =>
    have hfront : c.applyAll pen (pen.inFront p) = c := by
      unfold Pen.inFront
      split
      · exact c.applyAll_snapshot pen pen
      · rfl
    rw [Pen.withSnapshots, applyAll_append, hfront, Pen.foldl_apply_inFront, applyAll, ih,
      applyAll]

end Canvas

namespace Timeline

/-- What can be redone depends on whether anything is pushed, but not on what. -/
theorem future_foldl_push (t : Timeline) (ps : List Primitive) :
    (ps.foldl push t).future = if t.replaying = true ∨ ps = [] then t.future else [] := by
  cases h : t.replaying with
  | true => simp [foldl_push_of_replaying h]
  | false => simp [foldl_push_of_not_replaying h]

theorem replaying_foldl_push (t : Timeline) (ps : List Primitive) :
    (ps.foldl push t).replaying = t.replaying := by
  induction ps generalizing t with
  | nil => rfl
  | cons p ps ih => exact ih (t.push p)

end Timeline

/-! ## Commands that can be typed and filed -/

/-- A command that draws, tells something, or clears. -/
def Command.isPortable : Command → Bool
  | primitive _ | shape _ | session .about | session .help | session .clear => true
  | session _ => false

/-- A statement that draws, tells something, or clears, or that is refused. -/
def Statement.isPortable (statement : Statement) : Bool :=
  match statement.validate with
  | .ok c => c.isPortable
  | .error _ => true

namespace Verb

variable {args : List String} {r : Int32}

theorem ofDistance_ne_circle {verb : String} {make : Int32 → Command}
    (hmake : ∀ n, make n ≠ .primitive (.circle r)) :
    ofDistance verb make args ≠ .ok (.primitive (.circle r)) := by
  intro h
  obtain ⟨n, -, h⟩ := map_eq_ok_iff.1 h
  exact hmake n h

theorem ofDegrees_ne_circle {verb : String} {make : Int32 → Primitive}
    (hmake : ∀ n, make n ≠ .circle r) :
    ofDegrees verb make args ≠ .ok (.primitive (.circle r)) := by
  intro h
  obtain ⟨n, -, h⟩ := map_eq_ok_iff.1 h
  exact hmake n (Command.primitive.inj h)

theorem buildPen_ne_circle : buildPen args ≠ .ok (.primitive (.circle r)) := by
  intro h
  obtain ⟨_, -, h⟩ := bind_eq_ok_iff.1 h
  obtain ⟨_, -, h⟩ := bind_eq_ok_iff.1 h
  obtain ⟨_, -, h⟩ := bind_eq_ok_iff.1 h
  cases h

theorem buildPenWidth_ne_circle : buildPenWidth args ≠ .ok (.primitive (.circle r)) := by
  intro h
  obtain ⟨_, -, h⟩ := bind_eq_ok_iff.1 h
  obtain ⟨_, -, h⟩ := bind_eq_ok_iff.1 h
  cases h

theorem buildTriangle_ne_circle : buildTriangle args ≠ .ok (.primitive (.circle r)) := by
  intro h
  rw [buildTriangle] at h
  split at h
  · obtain ⟨_, -, h⟩ := bind_eq_ok_iff.1 h
    cases h
  · obtain ⟨_, -, h⟩ := bind_eq_ok_iff.1 h
    obtain ⟨_, -, h⟩ := bind_eq_ok_iff.1 h
    obtain ⟨_, -, h⟩ := bind_eq_ok_iff.1 h
    cases h
  · cases h

theorem buildPolygon_ne_circle : buildPolygon args ≠ .ok (.primitive (.circle r)) := by
  intro h
  obtain ⟨_, -, h⟩ := bind_eq_ok_iff.1 h
  obtain ⟨_, -, h⟩ := bind_eq_ok_iff.1 h
  obtain ⟨_, -, h⟩ := bind_eq_ok_iff.1 h
  obtain ⟨_, -, h⟩ := bind_eq_ok_iff.1 h
  cases h

/-- No verb stands for a circle alone. -/
theorem build_ne_circle {verb : Verb} (hverb : verb ∈ table) :
    verb.build args ≠ .ok (.primitive (.circle r)) := by
  intro h
  simp only [table, List.mem_cons, List.not_mem_nil, or_false] at hverb
  rcases hverb with rfl | rfl | rfl | rfl | rfl | rfl | rfl | rfl | rfl | rfl | rfl | rfl | rfl |
    rfl | rfl | rfl | rfl | rfl | rfl | rfl | rfl | rfl | rfl | rfl | rfl | rfl
  -- Looking no further than at the names of the builders, so that no other one is unfolded.
  all_goals try dsimp only at h
  all_goals first
    | with_reducible exact absurd h (ofDistance_ne_circle fun _ h => by cases h)
    | with_reducible exact absurd h (ofDegrees_ne_circle fun _ h => by cases h)
    | with_reducible exact absurd h buildPen_ne_circle
    | with_reducible exact absurd h buildPenWidth_ne_circle
    | with_reducible exact absurd h buildTriangle_ne_circle
    | with_reducible exact absurd h buildPolygon_ne_circle
    | cases Except.ok.inj h

end Verb

/-- A circle that is typed is a shape. -/
theorem Statement.validate_ne_circle (statement : Statement) (r : Int32) :
    statement.validate ≠ .ok (.primitive (.circle r)) := by
  intro h
  rw [validate] at h
  split at h
  · cases h
  · next verb hverb =>
    split at h
    · cases h
    · exact Verb.build_ne_circle (List.mem_of_find?_eq_some hverb) h

theorem not_mem_sidesOf_circle (turn : Int32) (closing : Bool) (lengths : List Int32) (r : Int32) :
    .circle r ∉ sidesOf turn closing lengths := by
  intro h
  rcases eq_of_mem_sidesOf h with h | ⟨_, -, h⟩ <;> cases h

/-- What a shape draws when it is typed is what it draws in a script, with snapshots. -/
theorem Shape.expand?_eq_withSnapshots {shape : Shape} {n : Nat} {pen : Pen} {ps : List Primitive}
    (h : (Session.asWritten (.line n) (.shape shape)).primitives? pen = some ps) :
    shape.expand? pen = some (pen.withSnapshots ps) := by
  have hsnapshot (r : Int32) : .circle r ∉ pen.snapshot := by
    rcases pen with ⟨_ | _, color, width⟩ <;> simp [Pen.snapshot]
  have same {body : List Primitive} (hbody : shape.body? = some body)
      (h : shape.expand? pen = some ps) (hcircle : ∀ r, .circle r ∉ body) :
      shape.expand? pen = some (pen.withSnapshots ps) := by
    have hps : pen.snapshot ++ body = ps := by
      simpa [expand?, hbody] using h
    rw [h, ← hps, Pen.withSnapshots_eq_self]
    intro r hmem
    rcases List.mem_append.1 hmem with hmem | hmem
    exacts [hsnapshot r hmem, hcircle r hmem]
  cases shape with
  | circle r =>
    cases h
    rfl
  | square length => exact same rfl h fun r => not_mem_sidesOf_circle _ _ _ r
  | triangle size => exact same rfl h fun r => not_mem_sidesOf_circle _ _ _ r
  | triangleSides a b c => exact same rfl h fun r => not_mem_sidesOf_circle _ _ _ r
  | polygon sides length =>
    obtain ⟨body, hbody, -⟩ := Option.map_eq_some_iff.1 h
    refine same hbody h fun r => ?_
    obtain ⟨turn, -, rfl⟩ := Option.map_eq_some_iff.1 hbody
    exact not_mem_sidesOf_circle _ _ _ r

/-- What a command draws when it is typed is what it draws in a script, with snapshots. -/
theorem Command.primitives?_eq_withSnapshots {c : Command} (hc : ∀ r, c ≠ primitive (.circle r))
    {n : Nat} {pen : Pen} {ps : List Primitive}
    (h : (Session.asWritten (.line n) c).primitives? pen = some ps) :
    c.primitives? pen = some (pen.withSnapshots ps) := by
  cases c with
  | primitive p =>
    cases h
    rw [Pen.withSnapshots_eq_self]
    · rfl
    · intro r hmem
      exact hc r (List.mem_singleton.1 hmem ▸ rfl)
  | shape shape => exact Shape.expand?_eq_withSnapshots h
  | session request => cases h

namespace Turn

variable {R H : Type}

/-- The answer to the question whether unsaved work is to be thrown away, if it was asked. -/
def answer? (turn : Turn R H) : Option Bool :=
  if turn.command = some (.session .clear) ∧ turn.before.dirty = true then
    some (decide (turn.outcome = .cleared))
  else none

/-- All these answers, in order. -/
def answers (turns : List (Turn R H)) : List Bool :=
  turns.filterMap answer?

theorem answers_cons (turn : Turn R H) (turns : List (Turn R H)) :
    answers (turn :: turns) = turn.answer?.toList ++ answers turns := by
  rw [answers, List.filterMap_cons]
  cases turn.answer? <;> rfl

/-- Two turns that clear alike, with the same mark of unsaved changes, both ask or neither does. -/
theorem length_answer? {turn turn' : Turn R H}
    (hclear : turn'.command = some (.session .clear) ↔ turn.command = some (.session .clear))
    (hdirty : turn'.before.dirty = turn.before.dirty) :
    turn.answer?.toList.length = turn'.answer?.toList.length := by
  simp only [answer?, hclear, hdirty]
  split <;> rfl

/-- If both ask or neither does, the same answers are given to them, and to the others. -/
theorem answers_cons_inj {turn turn' : Turn R H} {turns turns' : List (Turn R H)}
    (hlength : turn.answer?.toList.length = turn'.answer?.toList.length)
    (h : answers (turn :: turns) = answers (turn' :: turns')) :
    turn.answer? = turn'.answer? ∧ answers turns = answers turns' := by
  rw [answers_cons, answers_cons] at h
  obtain ⟨hanswer, hrest⟩ := List.append_inj h hlength
  exact ⟨by simpa using congrArg List.head? hanswer, hrest⟩

/-- With the same answer both turns clear, or neither does. -/
theorem cleared_iff_of_answer?_eq {turn turn' : Turn R H} (h : turn.answer? = turn'.answer?)
    (hclear : turn.command = some (.session .clear))
    (hclear' : turn'.command = some (.session .clear)) (hdirty : turn.before.dirty = true)
    (hdirty' : turn'.before.dirty = true) :
    turn.outcome = .cleared ↔ turn'.outcome = .cleared := by
  rwa [answer?, answer?, if_pos ⟨hclear, hdirty⟩, if_pos ⟨hclear', hdirty'⟩, Option.some.injEq,
    decide_eq_decide] at h

end Turn

/-- A log that goes on, as far as it goes back: what was in it at some time, and the pen then. -/
structure LogStart where
  kept : List Primitive
  pen : Pen
  deriving DecidableEq

namespace LogStart

variable {R H : Type}

/-- The log of a session, which is to go on. -/
def ofSession (s : Session R H) : LogStart := ⟨s.timeline.entries, s.pen⟩

/-- A log that is cleared begins anew, with the pen of the beginning. -/
def after (start : LogStart) (turn : Turn R H) : LogStart :=
  if turn.outcome = .cleared then ⟨[], turn.before.defaults⟩ else start

theorem after_of_ne {start : LogStart} {turn : Turn R H} (h : turn.outcome ≠ .cleared) :
    start.after turn = start := if_neg h

end LogStart

namespace Session

variable {R H : Type} [Scalar R] [Host H]

/-! ## Two sessions -/

/-- The second session has what the first one has, and snapshots in its log: in front of every
    circle that came since the start. -/
structure Follows (start : LogStart) (s t : Session R H) : Prop where
  canvas : t.canvas = s.canvas
  pen : t.pen = s.pen
  defaults : t.defaults = s.defaults
  dirty : t.dirty = s.dirty
  future : t.timeline.future = s.timeline.future
  replaying : t.timeline.replaying = s.timeline.replaying
  log : ∃ ps, s.timeline.entries = start.kept ++ ps ∧
    t.timeline.entries = start.kept ++ start.pen.withSnapshots ps ∧
    ps.foldl Pen.apply start.pen = s.pen

omit [Scalar R] [Host H] in
theorem Follows.refl (s : Session R H) : Follows (.ofSession s) s s :=
  ⟨rfl, rfl, rfl, rfl, rfl, rfl, [], by simp [LogStart.ofSession, Pen.withSnapshots]⟩

/-- A session in which primitives were drawn. -/
def drawn (s : Session R H) (ps : List Primitive) (w : World H) : Session R H :=
  { s with
    canvas := s.canvas.applyAll s.pen ps
    pen := ps.foldl Pen.apply s.pen
    timeline := ps.foldl Timeline.push s.timeline
    dirty := true
    world := w }

/-- A session that was cleared. -/
def wiped (s : Session R H) (w : World H) : Session R H :=
  { s with
    canvas := s.canvas.clear.reset
    pen := s.defaults
    timeline := {}
    dirty := false
    world := w }

/-- A command that is no request draws primitives. -/
theorem Change.exists_drawn {s t : Session R H} {c : Command} {o : Outcome}
    (h : s.Change (some c) o t) (hc : ∀ request, c ≠ .session request) :
    ∃ ps w, c.primitives? s.pen = some ps ∧ o = .drawn ps.length ∧ t = s.drawn ps w := by
  cases h with
  | drawn _ hps => exact ⟨_, _, hps, rfl, rfl⟩
  | _ => exact absurd rfl (hc _)

/-- What is refused leaves everything as it was. -/
theorem Change.eq_of_none {s t : Session R H} {o : Outcome} (h : s.Change none o t) :
    o ≠ .cleared ∧ ∃ w, t = { s with world := w } := by
  cases h
  exact ⟨nofun, _, rfl⟩

/-- What tells something leaves everything else as it was. -/
theorem Change.eq_of_tells {s t : Session R H} {request : SessionCommand} {o : Outcome}
    (h : s.Change (some (.session request)) o t) (hr : request = .about ∨ request = .help) :
    o = .informed ∧ ∃ w, t = { s with world := w } := by
  rcases hr with rfl | rfl
  all_goals
    cases h with
    | drawn _ hps => cases hps
    | kept hkeeps =>
      refine ⟨?_, _, rfl⟩
      cases o <;> first | rfl | exact hkeeps.elim

/-- What clears either wipes, or leaves everything as it was. -/
theorem Change.eq_of_clear {s t : Session R H} {o : Outcome}
    (h : s.Change (some (.session .clear)) o t) :
    (o = .cleared ∧ ∃ w, t = s.wiped w) ∨
      o = .cancelled ∧ s.dirty = true ∧ ∃ w, t = { s with world := w } := by
  cases h with
  | drawn _ hps => cases hps
  | cleared _ => exact .inl ⟨rfl, _, rfl⟩
  | declined hdirty _ => exact .inr ⟨rfl, hdirty, _, rfl⟩
  | kept hkeeps => exact hkeeps.elim

namespace Follows

variable {start : LogStart} {s t : Session R H}

omit [Scalar R] [Host H] in
/-- Nothing is said of the worlds. -/
theorem withWorlds (h : Follows start s t) (w w' : World H) :
    Follows start { s with world := w } { t with world := w' } :=
  ⟨h.canvas, h.pen, h.defaults, h.dirty, h.future, h.replaying, h.log⟩

omit [Scalar R] [Host H] in
/-- Nor of whether a script is being run. -/
theorem withLoading (h : Follows start s t) (loading : Bool) :
    Follows start { s with loading := loading } t :=
  ⟨h.canvas, h.pen, h.defaults, h.dirty, h.future, h.replaying, h.log⟩

omit [Host H] in
/-- Primitives are drawn in the first session, and with snapshots in the second. -/
theorem drawn (h : Follows start s t) (ps : List Primitive) (w w' : World H) :
    Follows start (s.drawn ps w) (t.drawn (s.pen.withSnapshots ps) w') := by
  obtain ⟨qs, hs, ht, hpen⟩ := h.log
  refine ⟨?_, ?_, h.defaults, rfl, ?_, ?_, qs ++ ps, ?_, ?_, ?_⟩
  · show t.canvas.applyAll t.pen _ = s.canvas.applyAll s.pen ps
    rw [h.canvas, h.pen, Canvas.applyAll_withSnapshots]
  · show List.foldl Pen.apply t.pen _ = ps.foldl Pen.apply s.pen
    rw [h.pen, Pen.foldl_apply_withSnapshots]
  · show (List.foldl Timeline.push t.timeline _).future =
      (ps.foldl Timeline.push s.timeline).future
    simp only [Timeline.future_foldl_push, h.future, h.replaying, Pen.withSnapshots_eq_nil_iff]
  · show (List.foldl Timeline.push t.timeline _).replaying =
      (ps.foldl Timeline.push s.timeline).replaying
    rw [Timeline.replaying_foldl_push, Timeline.replaying_foldl_push, h.replaying]
  · exact (entries_foldl_push _ _).trans (by rw [hs, List.append_assoc])
  · refine (entries_foldl_push _ _).trans ?_
    rw [ht, Pen.withSnapshots_append, hpen, List.append_assoc]
  · rw [List.foldl_append, hpen]
    rfl

omit [Host H] in
/-- Both sessions are cleared. -/
theorem wiped (h : Follows start s t) (w w' : World H) :
    Follows ⟨[], s.defaults⟩ (s.wiped w) (t.wiped w') := by
  refine ⟨?_, h.defaults, h.defaults, rfl, rfl, rfl, [], rfl, rfl, rfl⟩
  show t.canvas.clear.reset = s.canvas.clear.reset
  rw [h.canvas]

end Follows

omit [Scalar R] [Host H] in
/-- A portable statement is permitted everywhere. -/
theorem commandOf_of_isPortable (s : Session R H) {statement : Statement} {c : Command}
    (hvalid : statement.validate = .ok c) (hc : c.isPortable = true) (origin : Origin) :
    s.commandOf statement origin = some (asWritten origin c) := by
  refine s.commandOf_of_validate hvalid ?_ origin
  rintro rfl
  cases hc

omit [Scalar R] [Host H] in
/-- A statement that is not valid stands for nothing anywhere. -/
theorem commandOf_of_error (s : Session R H) {statement : Statement} {e : CommandError}
    (hvalid : statement.validate = .error e) (origin : Origin) :
    s.commandOf statement origin = none := by
  rw [commandOf, hvalid]
  rfl

omit [Scalar R] [Host H] in
/-- No portable statement loads a command file. -/
theorem commandOf_ne_load_of_isPortable (s : Session R H) {statement : Statement}
    (h : statement.isPortable = true) (origin : Origin) :
    s.commandOf statement origin ≠ some (.session .loadCommands) := by
  rw [Statement.isPortable] at h
  cases hvalid : statement.validate with
  | error e =>
    rw [s.commandOf_of_error hvalid]
    exact nofun
  | ok c =>
    rw [hvalid] at h
    rw [s.commandOf_of_isPortable hvalid h]
    intro hload
    obtain rfl := eq_of_asWritten_session (Option.some.inj hload)
    cases h

omit [Scalar R] [Host H] in
/-- A statement is to clear just when it says so, wherever it stands. -/
theorem commandOf_eq_clear_iff {s : Session R H} {statement : Statement} {origin : Origin} :
    s.commandOf statement origin = some (.session .clear) ↔
      statement.validate = .ok (.session .clear) := by
  constructor
  · intro h
    obtain ⟨d, hd, hwritten⟩ := commandOf_eq_some_iff.1 h
    obtain ⟨c, hvalid, hpermit⟩ := bind_eq_ok_iff.1 hd
    rw [hvalid, ← eq_of_permit hpermit, eq_of_asWritten_session hwritten]
  · intro hvalid
    exact s.commandOf_of_validate_session hvalid (by decide) origin

/-- The turn of a statement on a line of a script. -/
def turnInScript (s : Session R H) (x : ScriptLine × Statement) : Turn R H :=
  let result := s.obeyInScript x.2 (.line x.1.number)
  ⟨s, s.commandOf x.2 (.line x.1.number), result.1, result.2⟩

/-- The turn of a statement that is typed. -/
def turnTyped (s : Session R H) (statement : Statement) : Turn R H :=
  let result := s.obey statement .user
  ⟨s, s.commandOf statement .user, result.1, result.2⟩

/-- A statement that does not load a command file has one turn. -/
theorem turnsOfLine_cons {s : Session R H} {statement : Statement}
    (h : s.commandOf statement .user ≠ some (.session .loadCommands)) (rest : List Statement) :
    s.turnsOfLine (statement :: rest) =
      s.turnTyped statement :: (s.obey statement .user).2.turnsOfLine rest := by
  rw [turnsOfLine, turnsOf, show s.scriptOf? statement .user = none from if_neg h]
  rfl

namespace Follows

variable {start : LogStart} {s t : Session R H}

/-- A portable command, filed and typed, keeps two sessions together. -/
theorem of_changes (h : Follows start s t) {n : Nat} {c : Command} {o o' : Outcome}
    {s' t' : Session R H} (hc : c.isPortable = true) (hcircle : ∀ r, c ≠ .primitive (.circle r))
    (hs : s.Change (some (asWritten (.line n) c)) o s') (ht : t.Change (some c) o' t')
    (hanswer : c = .session .clear → s.dirty = true → (o = .cleared ↔ o' = .cleared)) :
    Follows (start.after ⟨s, some (asWritten (.line n) c), o, s'⟩) s' t' := by
  by_cases hrequest : ∃ request, c = .session request
  · obtain ⟨request, rfl⟩ := hrequest
    have told (hr : request = .about ∨ request = .help) :
        Follows (start.after ⟨s, some (asWritten (.line n) (.session request)), o, s'⟩) s' t' := by
      obtain ⟨rfl, w, rfl⟩ := hs.eq_of_tells hr
      obtain ⟨-, w', rfl⟩ := ht.eq_of_tells hr
      have hinformed : Outcome.informed ≠ .cleared := nofun
      rw [LogStart.after_of_ne hinformed]
      exact h.withWorlds w w'
    cases request with
    | about => exact told (.inl rfl)
    | help => exact told (.inr rfl)
    -- Unless the answers are the same, one session may be cleared and the other may not.
    | clear =>
      rcases hs.eq_of_clear with ⟨rfl, w, rfl⟩ | ⟨rfl, hdirty, w, rfl⟩
      · rcases ht.eq_of_clear with ⟨rfl, w', rfl⟩ | ⟨rfl, hdirty, w', rfl⟩
        · exact h.wiped w w'
        · cases (hanswer rfl (h.dirty ▸ hdirty)).1 rfl
      · rcases ht.eq_of_clear with ⟨rfl, w', rfl⟩ | ⟨rfl, -, w', rfl⟩
        · cases (hanswer rfl hdirty).2 rfl
        · exact h.withWorlds w w'
    | _ => cases hc
  · have hne (request : SessionCommand) : c ≠ .session request :=
      fun hrequest' => hrequest ⟨request, hrequest'⟩
    obtain ⟨ps, w, hps, rfl, rfl⟩ :=
      hs.exists_drawn fun request hwritten => hne request (eq_of_asWritten_session hwritten)
    obtain ⟨qs, w', hqs, rfl, rfl⟩ := ht.exists_drawn hne
    have htyped : c.primitives? s.pen = some (s.pen.withSnapshots ps) :=
      Command.primitives?_eq_withSnapshots hcircle hps
    rw [h.pen, htyped] at hqs
    have hdrawn : Outcome.drawn ps.length ≠ .cleared := nofun
    rw [← Option.some.inj hqs, LogStart.after_of_ne hdrawn]
    exact h.drawn ps w w'

/-- A portable statement, filed and typed, keeps two sessions together. -/
theorem step (h : Follows start s t) {x : ScriptLine × Statement} (hloading : s.loading = true)
    (hportable : x.2.isPortable = true)
    (hanswer : (s.turnInScript x).answer? = (t.turnTyped x.2).answer?) :
    Follows (start.after (s.turnInScript x)) (s.turnInScript x).after (t.turnTyped x.2).after := by
  have hfiled := obeyInScript_change hloading x.2 (.line x.1.number)
  have htyped := t.obeyWith_change loadCommands x.2 .user
    (t.commandOf_ne_load_of_isPortable hportable .user)
  rw [Statement.isPortable] at hportable
  rw [turnInScript, turnTyped] at *
  cases hvalid : x.2.validate with
  | error e =>
    rw [s.commandOf_of_error hvalid] at hfiled
    rw [t.commandOf_of_error hvalid] at htyped
    obtain ⟨ho, w, hs⟩ := hfiled.eq_of_none
    obtain ⟨-, w', ht⟩ := htyped.eq_of_none
    rw [LogStart.after_of_ne ho]
    show Follows start (s.obeyInScript _ _).2 (t.obeyWith loadCommands _ _).2
    rw [hs, ht]
    exact h.withWorlds w w'
  | ok c =>
    rw [hvalid] at hportable
    have hs := s.commandOf_of_isPortable hvalid hportable (.line x.1.number)
    have ht := t.commandOf_of_isPortable hvalid hportable .user
    rw [hs] at hfiled hanswer ⊢
    rw [ht] at htyped hanswer
    refine h.of_changes hportable (fun r hr => x.2.validate_ne_circle r (hr ▸ hvalid)) hfiled
      htyped fun hclear hdirty => ?_
    subst hclear
    exact Turn.cleared_iff_of_answer?_eq hanswer rfl rfl hdirty (h.dirty.trans hdirty)

/-- A statement asks for an answer both when it is filed and when it is typed, or not at all. -/
theorem length_answer? (h : Follows start s t) (x : ScriptLine × Statement) :
    (s.turnInScript x).answer?.toList.length = (t.turnTyped x.2).answer?.toList.length :=
  Turn.length_answer? (commandOf_eq_clear_iff.trans commandOf_eq_clear_iff.symm) h.dirty

/-- So do several, if the same answers are given. -/
theorem run (h : Follows start s t) (hloading : s.loading = true)
    {statements : List (ScriptLine × Statement)}
    (hportable : ∀ x ∈ statements, x.2.isPortable = true)
    (hanswers : Turn.answers (s.turnsInScript statements) =
      Turn.answers (t.turnsOfLine (statements.map Prod.snd))) :
    Follows ((s.turnsInScript statements).foldl LogStart.after start)
      (statements.foldl stepInScript s)
      ((statements.map Prod.snd).foldl (fun s statement => (s.obey statement .user).2) t) := by
  induction statements generalizing start s t with
  | nil => exact h
  | cons x rest ih =>
    have hx := hportable x List.mem_cons_self
    have hfiled : s.turnsInScript (x :: rest) =
        s.turnInScript x :: (s.stepInScript x).turnsInScript rest := rfl
    rw [hfiled, List.map_cons,
      turnsOfLine_cons (t.commandOf_ne_load_of_isPortable hx .user)] at hanswers
    -- Both ask, or neither does, so that the answers to the others are left.
    obtain ⟨hanswer, hrest⟩ := Turn.answers_cons_inj (h.length_answer? x) hanswers
    have hnext := h.step hloading hx hanswer
    exact ih hnext (loading_stepInScript hloading x)
      (fun y hy => hportable y (List.mem_cons_of_mem _ hy)) hrest

end Follows

/-! ## Lines that are typed -/

theorem turnsOfLine_append (s : Session R H) (first second : List Statement) :
    s.turnsOfLine (first ++ second) = s.turnsOfLine first ++
      (first.foldl (fun s statement => (s.obey statement .user).2) s).turnsOfLine second := by
  induction first generalizing s with
  | nil => rfl
  | cons statement first ih =>
    rw [List.cons_append, turnsOfLine, ih, turnsOfLine, List.append_assoc]
    rfl

/-- Lines are typed as the statements on them. -/
theorem typed_lines (s : Session R H) (lines : List String) :
    let statements := lines.flatMap Statement.readAll
    s.performAll (lines.map .line) =
        statements.foldl (fun s statement => (s.obey statement .user).2) s ∧
      s.history (lines.map .line) = s.turnsOfLine statements := by
  induction lines generalizing s with
  | nil => exact ⟨rfl, rfl⟩
  | cons line lines ih =>
    obtain ⟨hperform, hhistory⟩ := ih (s.perform (.line line))
    have hline : s.perform (.line line) = (Statement.readAll line).foldl
        (fun s statement => (s.obey statement .user).2) s := s.snd_runLine line
    rw [hline] at hperform hhistory
    constructor
    · rw [List.flatMap_cons, List.foldl_append, ← hperform, List.map_cons, ← hline]
      rfl
    · rw [List.flatMap_cons, turnsOfLine_append, ← hhistory, List.map_cons, history, hline]
      rfl

/-- Typed and filed commands draw the same. A text whose statements draw, tell something or clear
    is run as a script, and its lines but for comments are typed in the same session, with the same
    answers. Then both have the same canvas, the same pen, the same mark of unsaved changes, and
    the same to redo; and the log of the typed session is that of the other one, with a snapshot
    of the pen in front of every circle that came since the text began or was cleared last. -/
theorem typed_and_filed_draw_alike (s : Session R H) (text : String)
    (hportable : ∀ statement ∈ Script.allStatements text, statement.isPortable = true)
    (hanswers : Turn.answers (s.history [.script text]) =
      Turn.answers (s.history ((Script.typedLines text).map .line))) :
    let filed := s.performAll [.script text]
    let typed := s.performAll ((Script.typedLines text).map .line)
    let start := (s.history [.script text]).foldl LogStart.after (.ofSession s)
    typed.canvas = filed.canvas ∧ typed.pen = filed.pen ∧ typed.dirty = filed.dirty ∧
      typed.timeline.future = filed.timeline.future ∧
      ∃ ps, filed.timeline.entries = start.kept ++ ps ∧
        typed.timeline.entries = start.kept ++ start.pen.withSnapshots ps := by
  intro filed typed start
  obtain ⟨hperform, hhistory⟩ := s.typed_lines (Script.typedLines text)
  have hstatements : (Script.typedLines text).flatMap Statement.readAll =
      (Script.statements (Script.read text)).map Prod.snd := by
    rw [Script.flatMap_readAll_typedLines, allStatements_eq]
  let filing : Session R H := { s with loading := true }
  have hfiled : s.history [.script text] =
      filing.turnsInScript (Script.statements (Script.read text)) := List.append_nil _
  rw [hfiled, hhistory, hstatements] at hanswers
  have hstart : start = (filing.turnsInScript (Script.statements (Script.read text))).foldl
      LogStart.after (.ofSession s) := by
    rw [← hfiled]
  have hfollows : Follows start filed typed := by
    have hend : filed = { (Script.statements (Script.read text)).foldl stepInScript filing with
        loading := s.loading } := s.snd_runScript text
    have hend' : typed = _ := hperform
    rw [hend, hend', hstart, hstatements]
    refine (((Follows.refl s).withLoading true).run rfl (fun x hx => ?_) hanswers).withLoading _
    refine hportable x.2 ?_
    rw [allStatements_eq]
    exact List.mem_map_of_mem hx
  obtain ⟨ps, hps, hps', -⟩ := hfollows.log
  exact ⟨hfollows.canvas, hfollows.pen, hfollows.dirty, hfollows.future, ps, hps, hps'⟩

/-- A circle stands behind a comment, and is cleared; a square and a circle are left. -/
theorem typed_and_filed_draw_alike_circle :
    let text := " # c\nmove 5; circle 3\n\nred; clear\n  square 4\npenup; Circle 2; fly\nabout"
    let w : World Console := ⟨⟨Text.encode "y\n", "", false⟩, ⟨[], [], []⟩, Journal.silent⟩
    let s : Session Float Console := (ofSettings Settings.standard w).performAll [.line "circle 9"]
    let filed := s.performAll [.script text]
    let typed := s.performAll ((Script.typedLines text).map .line)
    typed.canvas = filed.canvas ∧ typed.pen = filed.pen ∧ typed.dirty = filed.dirty ∧
      filed.timeline.size = 13 ∧ typed.timeline.size = 16 ∧
      ∃ ps, filed.timeline.entries = ps ∧
        typed.timeline.entries = Pen.standard.withSnapshots ps := by
  intro text w s filed typed
  have hportable : ∀ statement ∈ Script.allStatements text, statement.isPortable = true := by
    decide +kernel
  have hanswers : Turn.answers (s.history [.script text]) =
      Turn.answers (s.history ((Script.typedLines text).map .line)) := by
    decide +kernel
  have hstart : (s.history [.script text]).foldl LogStart.after (.ofSession s) =
      ⟨[], Pen.standard⟩ := by
    decide +kernel
  obtain ⟨hcanvas, hpen, hdirty, -, ps, hfiled, htyped⟩ :=
    s.typed_and_filed_draw_alike text hportable hanswers
  rw [hstart] at hfiled htyped
  have hsize : filed.timeline.size = 13 := by decide +kernel
  have hsize' : typed.timeline.size = 16 := by decide +kernel
  exact ⟨hcanvas, hpen, hdirty, hsize, hsize', ps, hfiled, htyped⟩

end Session

end Turtle

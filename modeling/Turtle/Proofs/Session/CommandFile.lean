import Turtle.Proofs.Script.Written
import Turtle.Proofs.Session.Range
import Turtle.Proofs.Session.Reel
import Turtle.Proofs.Session.Refusal
import Turtle.Proofs.Session.Replay

/-!
# Command files

The log of a session, written to a file, is a script. Run in any session, it is refused nothing,
and does there what the log did: every primitive once more, in order. In a new session it brings
the drawing back, but for what images have brought.

* `Session.runScript_commandFile`: what running the text of a log does to a session;
* `Session.reloaded_eq`: in a new session it brings back what the log replays;
* `MarkedScene.drawn_eq_all_of_sinceRedrawn`: that is all there is on the canvas, if no image came
  onto it since it was drawn anew.
-/

namespace Turtle

/-- The turns since the canvas was last drawn anew, the newest first. -/
def Turn.sinceRedrawn {R H : Type} (turns : List (Turn R H)) : List (Turn R H) :=
  turns.reverse.takeWhile fun turn => !turn.redraws

namespace MarkedScene

variable {R H : Type}

/-- Nothing was brought by an image. -/
def Unmarked (m : MarkedScene R) : Prop :=
  (∀ x ∈ m.strokes, x.2 = false) ∧ ∀ x ∈ m.rings, x.2 = false

theorem Unmarked.drawn_eq_all {m : MarkedScene R} (h : m.Unmarked) : m.drawn = m.all := by
  obtain ⟨hstrokes, hrings⟩ := h
  rw [drawn, all, List.filter_eq_self.2 fun x hx => by rw [hstrokes x hx]; rfl,
    List.filter_eq_self.2 fun x hx => by rw [hrings x hx]; rfl]

theorem Unmarked.add {m : MarkedScene R} (h : m.Unmarked) (new : Scene R) :
    (m.add new false).Unmarked := by
  obtain ⟨hstrokes, hrings⟩ := h
  constructor
  · intro x hx
    rcases List.mem_append.1 hx with hx | hx
    · exact hstrokes x hx
    · obtain ⟨stroke, -, rfl⟩ := List.mem_map.1 hx
      rfl
  · intro x hx
    rcases List.mem_append.1 hx with hx | hx
    · exact hrings x hx
    · obtain ⟨ring, -, rfl⟩ := List.mem_map.1 hx
      rfl

theorem unmarked_empty : ({} : MarkedScene R).Unmarked :=
  ⟨fun _ hx => absurd hx List.not_mem_nil, fun _ hx => absurd hx List.not_mem_nil⟩

/-- Without images since the canvas was drawn anew, the marks keep nothing back. -/
theorem drawn_eq_all_of_sinceRedrawn {turns : List (Turn R H)}
    (h : ∀ turn ∈ Turn.sinceRedrawn turns, turn.imports = false) :
    (turns.foldl after {}).drawn = (turns.foldl after {}).all := by
  -- From the newest turn back: a redrawing one leaves no marks, whatever was before it.
  have unmarked (newest : List (Turn R H))
      (h : ∀ turn ∈ newest.takeWhile fun turn => !turn.redraws, turn.imports = false) :
      (newest.foldr (fun turn m => after m turn) {}).Unmarked := by
    induction newest with
    | nil => exact unmarked_empty
    | cons turn newest ih =>
      rw [List.foldr_cons, after]
      cases hredraws : turn.redraws with
      | true => exact unmarked_empty.add _
      | false =>
        rw [List.takeWhile_cons_of_pos (by rw [hredraws]; rfl)] at h
        rw [h turn List.mem_cons_self]
        exact (ih fun turn hturn => h turn (List.mem_cons_of_mem _ hturn)).add _
  have hall := unmarked turns.reverse h
  rw [List.foldr_reverse] at hall
  exact hall.drawn_eq_all

end MarkedScene

namespace Session

variable {R H : Type} [Scalar R] [Host H]

omit [Scalar R] [Host H] in
/-- On a line of a script the text of a primitive stands for the primitive. -/
theorem commandOf_statement {s : Session R H} (h : s.loading = true) {p : Primitive}
    (hp : p.InRange) (n : Nat) : s.commandOf p.statement (.line n) = some (.primitive p) := by
  obtain ⟨c, hc, hcanonical⟩ := Primitive.exists_validate hp
  have hpermit : s.permit c = .ok c :=
    (if_pos h).trans (Command.checkInScript_of_canonical? hcanonical)
  have hwritten : asWritten (.line n) c = .primitive p := by
    unfold asWritten
    rw [hcanonical]
  exact commandOf_eq_some_iff.2 ⟨c, bind_eq_ok_iff.2 ⟨c, hc, hpermit⟩, hwritten⟩

/-- A line of a command file does its primitive. -/
theorem stepInScript_statement {s : Session R H} (h : s.loading = true) {p : Primitive}
    (hp : p.InRange) (line : ScriptLine) :
    s.stepInScript (line, p.statement) = { s.run p with dirty := true } := by
  rw [stepInScript, obeyInScript, obeyWith_of_commandOf _ (commandOf_statement h hp line.number)]
  rfl

/-- The lines of a command file do their primitives one after the other. -/
theorem foldl_stepInScript_statement {s : Session R H} (h : s.loading = true)
    {lines : List (ScriptLine × Primitive)} (hlines : ∀ x ∈ lines, x.2.InRange) :
    ∃ dirty w, (lines.map fun x => (x.1, x.2.statement)).foldl stepInScript s = { s with
      canvas := s.canvas.applyAll s.pen (lines.map Prod.snd)
      pen := (lines.map Prod.snd).foldl Pen.apply s.pen
      timeline := (lines.map Prod.snd).foldl Timeline.push s.timeline
      dirty := dirty
      world := w } := by
  induction lines generalizing s with
  | nil => exact ⟨s.dirty, s.world, rfl⟩
  | cons x lines ih =>
    rw [List.map_cons, List.foldl_cons,
      stepInScript_statement h (hlines x List.mem_cons_self)]
    obtain ⟨dirty, w, hrest⟩ := ih (s := { s.run x.2 with dirty := true }) h
      fun x hx => hlines x (List.mem_cons_of_mem _ hx)
    exact ⟨dirty, w, hrest⟩

/-- The statements of the text of a log are those of its primitives, each on a line of its own. -/
theorem exists_statements_commandFile (ps : List Primitive) :
    ∃ lines : List (ScriptLine × Primitive), lines.map Prod.snd = ps ∧
      Script.statements (Script.read (commandFile ps)) =
        lines.map fun x => (x.1, x.2.statement) := by
  refine ⟨(Text.numbered ps).map fun x => (⟨x.1, x.2.text, [x.2.statement]⟩, x.2), ?_, ?_⟩
  · rw [List.map_map]
    exact Text.map_snd_numbered ps
  · rw [Script.read_commandFile, Script.statements, List.flatMap_map, List.map_map,
      List.map_eq_flatMap]
    rfl

/-- Running the text of a log draws its primitives, and nothing of it is refused. -/
theorem runScript_commandFile (s : Session R H) {ps : List Primitive}
    (hps : ∀ p ∈ ps, p.InRange) :
    (s.runScript (commandFile ps)).1 = [] ∧
    ∃ dirty w, (s.runScript (commandFile ps)).2 = { s with
      canvas := s.canvas.applyAll s.pen ps
      pen := ps.foldl Pen.apply s.pen
      timeline := ps.foldl Timeline.push s.timeline
      dirty := dirty
      world := w } := by
  refine ⟨by rw [fst_runScript, Script.check_commandFile hps], ?_⟩
  obtain ⟨lines, hprimitives, hstatements⟩ := exists_statements_commandFile ps
  have hlines (x : ScriptLine × Primitive) (hx : x ∈ lines) : x.2.InRange :=
    hps x.2 (hprimitives ▸ List.mem_map_of_mem hx)
  obtain ⟨dirty, w, hfold⟩ :=
    foldl_stepInScript_statement (s := { s with loading := true }) rfl hlines
  rw [hprimitives] at hfold
  refine ⟨dirty, w, ?_⟩
  rw [snd_runScript, hstatements, hfold]

/-- Outside of playing again, the primitives of a command file come behind the log, and leave
    nothing to redo if there are any. -/
theorem timeline_runScript_commandFile {s : Session R H} (h : s.timeline.replaying = false)
    {ps : List Primitive} (hps : ∀ p ∈ ps, p.InRange) :
    let after := (s.runScript (commandFile ps)).2
    after.timeline.entries = s.timeline.entries ++ ps ∧
      after.timeline.future = if ps = [] then s.timeline.future else [] := by
  obtain ⟨-, dirty, w, hafter⟩ := s.runScript_commandFile hps
  intro after
  rw [show after = _ from hafter]
  refine ⟨entries_foldl_push _ _, ?_⟩
  dsimp only
  rw [Timeline.foldl_push_of_not_replaying h]

omit [Host H] in
/-- In a new session with the same pen, the log of a session brings back the log, and the drawing
    that the log replays. -/
theorem reloaded_eq {H' : Type} [Host H'] {s : Session R H}
    (hps : ∀ p ∈ s.timeline.entries, p.InRange) {settings : Settings}
    (hpen : settings.pen = s.defaults) (w : World H') :
    let again := ((ofSettings settings w : Session R H').runScript
      (commandFile s.timeline.entries)).2
    again.timeline.entries = s.timeline.entries ∧ again.canvas.Aligned s.replayed ∧
      again.canvas.scene = s.replayed.scene ∧
      again.pen = s.timeline.entries.foldl Pen.apply s.defaults := by
  obtain ⟨-, dirty, w', hagain⟩ := (ofSettings settings w : Session R H').runScript_commandFile hps
  obtain ⟨haligned, hscene⟩ := s.replayed_of_blank settings.canvasWidth settings.canvasHeight
  rw [← hpen] at haligned hscene ⊢
  intro again
  rw [show again = _ from hagain]
  exact ⟨entries_foldl_push _ _, haligned, hscene, rfl⟩

end Session

end Turtle

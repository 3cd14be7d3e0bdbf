import Turtle.Binary64.Scalar
import Turtle.Console
import Turtle.Proofs.Session.CommandFile
import Turtle.Proofs.Session.Moment

/-!
# Undoing what a statement has drawn

A statement that has drawn so many primitives is undone by as many undos: they lead back to the
log, the pen and the turtle that there were before it. But every undo wipes the canvas and draws
the log anew, so that what images have brought is gone then, and the scene is the one from before
without it.

* `Session.Run.undos`: several undos take as many entries off the log, and behind each of them the
  canvas has what the log replays;
* `Session.undo_drops_imported_stroke`: a stroke of an image does not come back;
* `Session.undos_lead_back`: everything else does.
-/

namespace Turtle

/-- A command that draws draws something. -/
theorem Command.ne_nil_of_primitives? {pen : Pen} {c : Command} {ps : List Primitive}
    (h : c.primitives? pen = some ps) : ps ≠ [] := by
  cases c with
  | primitive p =>
    cases h
    exact List.cons_ne_nil _ _
  | shape s =>
    obtain ⟨body, -, rfl⟩ := Option.map_eq_some_iff.1 h
    exact List.cons_ne_nil _ _
  | session request => cases h

namespace Session

variable {R H : Type} [Scalar R] [Host H]

/-- What a statement has drawn is the end of the log. -/
theorem Change.exists_past_of_drawn {s t : Session R H} {c : Option Command} {n : Nat}
    (h : s.Change c (.drawn n) t) (hidle : s.timeline.replaying = false) :
    ∃ ps : List Primitive, ps ≠ [] ∧ ps.length = n ∧
      t.timeline.past = ps ++ s.timeline.past := by
  cases h with
  | @drawn c ps hc hps w =>
    refine ⟨ps.reverse, ?_, List.length_reverse, ?_⟩
    · exact List.reverse_ne_nil_iff.2 (Command.ne_nil_of_primitives? hps)
    · show (ps.foldl Timeline.push s.timeline).past = _
      rw [Timeline.foldl_push_of_not_replaying hidle]
  | @kept c _ hkeeps _ => cases c <;> exact hkeeps.elim

/-- A session in which the newest entry was taken off the log, and the rest drawn again. -/
def undone (s : Session R H) (p : Primitive) (past : List Primitive) (w : World H) :
    Session R H :=
  { s with
    canvas := s.canvas.clear.reset.applyAll s.defaults past.reverse
    pen := past.reverse.foldl Pen.apply s.defaults
    timeline := ⟨past, p :: s.timeline.future, false⟩
    dirty := true
    world := w }

/-- An undo takes the newest entry off the log, if there is one. -/
theorem Change.eq_of_undo {s t : Session R H} {o : Outcome}
    (h : s.Change (some (.session .undo)) o t) :
    (s.timeline.past = [] ∧ o = .noOp ∧ t = s) ∨
      ∃ p past w, s.timeline.past = p :: past ∧ o = .undone ∧ t = s.undone p past w := by
  cases h with
  | drawn _ hps => cases hps
  | undone h => exact .inr ⟨_, _, _, h, rfl, rfl⟩
  | nothingUndone h => exact .inl ⟨h, rfl, rfl⟩
  | kept hkeeps => exact hkeeps.elim

/-- An undo draws the rest of the log. -/
theorem Change.undo {s t : Session R H} {o : Outcome}
    (h : s.Change (some (.session .undo)) o t) {p : Primitive} {past : List Primitive}
    (hpast : s.timeline.past = p :: past) :
    t.timeline.past = past ∧ t.canvas.scene = t.replayed.scene := by
  rcases h.eq_of_undo with ⟨hnil, -, -⟩ | ⟨q, rest, w, hcons, -, rfl⟩
  · rw [hnil] at hpast
    cases hpast
  · obtain ⟨rfl, rfl⟩ := List.cons.inj (hcons.symm.trans hpast)
    -- The canvas was wiped, so the log adds to it what it adds to an empty one.
    obtain ⟨new, -, hnew, hnew'⟩ :=
      (s.canvas.aligned_blank 0 0).exists_applyAll s.defaults rest.reverse
    exact ⟨rfl, hnew.trans hnew'.symm⟩

/-- Several undos take as many entries off the log, and behind each of them the canvas has what the
    log replays. -/
theorem Run.undos {s t : Session R H} {turns : List (Turn R H)} (run : Run s turns t)
    {ps past : List Primitive} (hpast : s.timeline.past = ps ++ past)
    (hcommands : turns.map Turn.command = List.replicate ps.length (some (.session .undo))) :
    t.timeline.past = past ∧
      (ps ≠ [] ∨ s.canvas.scene = s.replayed.scene → t.canvas.scene = t.replayed.scene) := by
  induction run generalizing ps with
  | done h =>
    cases ps with
    | nil =>
      obtain ⟨w, l, rfl⟩ := h
      exact ⟨hpast, fun h => h.resolve_left (absurd rfl)⟩
    | cons p ps => cases hcommands
  | @step s t turn turns h hturn rest ih =>
    cases ps with
    | nil => cases hcommands
    | cons p ps =>
      rw [List.map_cons, List.length_cons, List.replicate_succ, List.cons.injEq] at hcommands
      obtain ⟨hc, hcommands⟩ := hcommands
      have hbefore : turn.before.timeline.past = p :: (ps ++ past) := by
        obtain ⟨w, l, hbefore⟩ := h
        rw [hbefore]
        exact hpast
      rw [hc] at hturn
      obtain ⟨hafter, hscene⟩ := hturn.undo hbefore
      obtain ⟨hend, hscene'⟩ := ih hafter hcommands
      exact ⟨hend, fun _ => hscene' (.inr hscene)⟩

/-- A statement has drawn something, and as many undos follow: the log is the one from before it,
    and the canvas has what that log replays. -/
theorem Run.undos_of_drawn {s t : Session R H} {turn : Turn R H} {undos : List (Turn R H)}
    (run : Run s (turn :: undos) t) (hidle : s.timeline.replaying = false) {n : Nat}
    (hdrawn : turn.outcome = .drawn n)
    (hundos : undos.map Turn.command = List.replicate n (some (.session .undo))) :
    t.timeline.entries = turn.before.timeline.entries ∧ t.canvas.scene = t.replayed.scene := by
  cases run with
  | step halike hturn rest =>
    have hidle' : turn.before.timeline.replaying = false := by
      obtain ⟨w, l, hbefore⟩ := halike
      rw [hbefore]
      exact hidle
    rw [hdrawn] at hturn
    obtain ⟨ps, hne, hlength, hpast⟩ := hturn.exists_past_of_drawn hidle'
    obtain ⟨hback, hscene⟩ := rest.undos hpast (hlength ▸ hundos)
    exact ⟨congrArg List.reverse hback, hscene (.inl hne)⟩

/-- An image is loaded, a move is drawn and undone: the stroke of the image does not come back. -/
theorem undo_drops_imported_stroke :
    let image := Text.encode "[[[[0.0,0.0],[0.0,9.0],[0,0,0],1]],[]]"
    let w : World Console := ⟨⟨Text.encode "i.scene.json\n", "", false⟩,
      ⟨[([Text.encode "i.scene.json"], .file image)], [], []⟩, Journal.silent⟩
    let s : Session Float Console := (ofSettings Settings.standard w).performAll [.line "load_ig"]
    let drawn := s.obey ⟨"move", ["5"]⟩ .user
    drawn.1 = .drawn 1 ∧ drawn.2.undo.1 = .undone ∧
      drawn.2.undo.2.canvas.scene ≠ s.canvas.scene := by
  intro image w s drawn
  have hsize : s.canvas.scene.strokes.size = 1 := by decide +kernel
  have hsize' : drawn.2.undo.2.canvas.scene.strokes.size = 0 := by decide +kernel
  refine ⟨by decide +kernel, by decide +kernel, fun h => ?_⟩
  rw [h, hsize] at hsize'
  cases hsize'

/-- Whatever was done in a session, if a statement has drawn so many primitives and just as many
    undos follow, the log, the pen and the turtle are those from before the statement, and the
    scene is the one from before without the strokes and rings that images had brought since the
    last undo or clear. -/
theorem undos_lead_back (settings : Settings) (w : World H) (ops : List (Operation H)) :
    let fresh : Session R H := ofSettings settings w
    ∀ (turns undos : List (Turn R H)) (turn : Turn R H) (back : Session R H) (n : Nat),
      fresh.Moment ops (turns ++ turn :: undos) back → turn.outcome = .drawn n →
      undos.map Turn.command = List.replicate n (some (.session .undo)) →
      let marked := turns.foldl MarkedScene.after {}
      back.timeline.entries = turn.before.timeline.entries ∧ back.pen = turn.before.pen ∧
        back.canvas.position = turn.before.canvas.position ∧
        back.canvas.heading = turn.before.canvas.heading ∧
        marked.all = turn.before.canvas.scene ∧ back.canvas.scene = marked.drawn ∧
        ((∀ turn' ∈ Turn.sinceRedrawn turns, turn'.imports = false) →
          back.canvas.scene = turn.before.canvas.scene) := by
  intro fresh turns undos turn back n hmoment hdrawn hundos marked
  obtain ⟨s, hdone, hrest⟩ := hmoment.run.exists_of_append
  have hidle : s.timeline.replaying = false := (hdone.traces rfl).2
  obtain ⟨hentries, hscene⟩ := hrest.undos_of_drawn hidle hdrawn hundos
  -- The log replays the turtle and the pen, before the statement and behind the undos.
  have hbefore : Replays marked turn.before := by
    cases hrest with
    | step halike _ _ => exact (hdone.to_alike halike).replays (replays_ofSettings settings w)
  have hback := hmoment.run.replays (replays_ofSettings settings w)
  have hdefaults : back.defaults = turn.before.defaults := by
    cases hrest with
    | step halike hturn rest =>
      exact rest.defaults_eq.trans hturn.defaults_eq
  have hreplayed : back.replayed = turn.before.replayed := by
    rw [replayed, replayed, hdefaults, hentries]
  have hmarked : back.canvas.scene = marked.drawn := by
    rw [hscene, hreplayed, hbefore.drawn]
  refine ⟨hentries, ?_, ?_, ?_, hbefore.all, hmarked, fun himports => ?_⟩
  · rw [hback.pen, hbefore.pen, hdefaults, hentries]
  · rw [hback.aligned.position, hbefore.aligned.position, hreplayed]
  · rw [hback.aligned.heading, hbefore.aligned.heading, hreplayed]
  · rw [hmarked, MarkedScene.drawn_eq_all_of_sinceRedrawn himports, hbefore.all]

/-- A square is drawn behind a move: three primitives for the pen, four sides and four turns.
    Eleven undos take all of them back. -/
theorem undos_lead_back_square :
    let w : World Console := ⟨⟨[], "", false⟩, ⟨[], [], []⟩, Journal.silent⟩
    let fresh : Session Float Console := ofSettings Settings.standard w
    let ops : List (Operation Console) := .line "move 3; square 5" :: List.replicate 11 .undo
    let s := fresh.performAll ops
    ∃ turn ∈ fresh.history ops, turn.outcome = .drawn 11 ∧
      turn.before.timeline.entries = [.move 3] ∧ s.timeline.entries = [.move 3] ∧
      s.canvas.position = turn.before.canvas.position ∧
      s.canvas.scene = turn.before.canvas.scene := by
  intro w fresh ops s
  have hlength : 1 < (fresh.history ops).length := by decide +kernel
  have hmoment : fresh.Moment ops ((fresh.history ops).take 1 ++
      (fresh.history ops)[1] :: (fresh.history ops).drop 2) s := by
    rw [← List.drop_eq_getElem_cons hlength, List.take_append_drop]
    exact .last
  have hturn : ∀ _ : 1 < (fresh.history ops).length, (fresh.history ops)[1].outcome = .drawn 11 ∧
      (fresh.history ops)[1].before.timeline.entries = [.move 3] := by decide +kernel
  have hundos : ((fresh.history ops).drop 2).map Turn.command =
      List.replicate 11 (some (.session .undo)) := by decide +kernel
  have himports : ∀ turn ∈ Turn.sinceRedrawn ((fresh.history ops).take 1),
      turn.imports = false := by
    have hall : (Turn.sinceRedrawn ((fresh.history ops).take 1)).all
        (fun turn => !turn.imports) = true := by decide +kernel
    intro turn hmem
    simpa using List.all_eq_true.1 hall turn hmem
  obtain ⟨hdrawn, hbefore⟩ := hturn hlength
  obtain ⟨hentries, -, hposition, -, -, -, hscene⟩ :=
    undos_lead_back Settings.standard w ops _ _ _ s 11 hmoment hdrawn hundos
  exact ⟨_, List.getElem_mem hlength, hdrawn, hbefore, hentries.trans hbefore, hposition,
    hscene himports⟩

end Session

end Turtle

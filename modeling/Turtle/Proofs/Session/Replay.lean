import Turtle.Proofs.Session.History

/-!
# The log replays the drawing

A session keeps three things in step: the log, the pen and the canvas. At any time the log alone
gives back the place of the turtle and the pen, if its primitives are drawn one after the other on
an empty canvas. It also gives back the scene, but for what images have brought: those strokes and
rings are not in the log, and stay until the canvas is drawn anew.

* `MarkedScene` is a scene in which every stroke and ring says whether an image brought it, and
  `MarkedScene.after` keeps it along the turns of a session;
* `Session.Replays` is the invariant, and `Session.Change.replays` its step;
* `Session.replay_reproduces_drawing`: at the end of any operations the log gives back the drawing,
  with what images brought since the last undo or clear left out.
-/

namespace Turtle

variable {R H : Type}

/-- After this turn the canvas holds what the log draws and nothing else: something was taken
    back, or everything was thrown away. -/
def Turn.redraws (turn : Turn R H) : Bool :=
  turn.outcome = .undone || turn.outcome = .cleared

/-- This turn has drawn an image onto the canvas. -/
def Turn.imports (turn : Turn R H) : Bool :=
  turn.command = some (.session .loadImage) && turn.outcome = .fileDone

/-- A request that leaves the drawing as it is does not draw it anew. -/
theorem SessionCommand.Keeps.redraws_eq_false {c : SessionCommand} {o : Outcome} (h : c.Keeps o)
    (s t : Session R H) : (Turn.mk s (some (.session c)) o t).redraws = false := by
  cases c <;> cases o <;> first | rfl | exact h.elim

/-- A scene in which every stroke and ring says whether an image brought it. -/
structure MarkedScene (R : Type) where
  strokes : List (Stroke R × Bool) := []
  rings : List (Ring R × Bool) := []

namespace MarkedScene

/-- The scene without the marks. -/
def all (m : MarkedScene R) : Scene R :=
  ⟨(m.strokes.map Prod.fst).toArray, (m.rings.map Prod.fst).toArray⟩

/-- The scene without what images brought. -/
def drawn (m : MarkedScene R) : Scene R :=
  ⟨((m.strokes.filter fun x => !x.2).map Prod.fst).toArray,
    ((m.rings.filter fun x => !x.2).map Prod.fst).toArray⟩

/-- More strokes and rings, with the same mark on all of them. -/
def add (m : MarkedScene R) (new : Scene R) (imported : Bool) : MarkedScene R :=
  ⟨m.strokes ++ new.strokes.toList.map (·, imported), m.rings ++ new.rings.toList.map (·, imported)⟩

/-- The strokes and rings of a scene behind those of another one. -/
def behind (s before : Scene R) : Scene R :=
  ⟨s.strokes.drop before.strokes.size, s.rings.drop before.rings.size⟩

/-- The marks after a turn: when the canvas is drawn anew there is nothing of images left, and
    otherwise everything new is of an image or not. -/
def after (m : MarkedScene R) (turn : Turn R H) : MarkedScene R :=
  if turn.redraws then add {} turn.after.canvas.scene false
  else m.add (behind turn.after.canvas.scene turn.before.canvas.scene) turn.imports

theorem all_add (m : MarkedScene R) (new : Scene R) (imported : Bool) :
    (m.add new imported).all = m.all.append new := by
  simp [add, all, Scene.append, Function.comp_def]

theorem drawn_add_false (m : MarkedScene R) (new : Scene R) :
    (m.add new false).drawn = m.drawn.append new := by
  simp [add, drawn, Scene.append, List.filter_map, Function.comp_def]

theorem drawn_add_true (m : MarkedScene R) (new : Scene R) :
    (m.add new true).drawn = m.drawn := by
  simp [add, drawn, List.filter_map, Function.comp_def]

theorem add_empty (m : MarkedScene R) (imported : Bool) : m.add {} imported = m := by
  simp [add]

theorem behind_append (s new : Scene R) : behind (s.append new) s = new := by
  simp [behind, Scene.append]

/-- When the canvas is not drawn anew, the marks grow by what the turn has added. -/
theorem after_of_not_redraws {m : MarkedScene R} {turn : Turn R H} (h : turn.redraws = false)
    (new : Scene R)
    (hscene : turn.after.canvas.scene = turn.before.canvas.scene.append new) :
    m.after turn = m.add new turn.imports := by
  rw [after, h, hscene, behind_append]
  rfl

end MarkedScene

namespace Session

variable [Scalar R]

/-- What the log draws on an empty canvas. The size of the canvas does not matter. -/
def replayed (s : Session R H) : Canvas R :=
  (Canvas.blank 0 0).applyAll s.defaults s.timeline.entries

/-- The drawing of a session is what its log draws, with what images brought. -/
structure Replays (m : MarkedScene R) (s : Session R H) : Prop where
  aligned : s.canvas.Aligned s.replayed
  pen : s.pen = s.timeline.entries.foldl Pen.apply s.defaults
  all : m.all = s.canvas.scene
  drawn : m.drawn = s.replayed.scene

theorem entries_foldl_push (t : Timeline) (ps : List Primitive) :
    (ps.foldl Timeline.push t).entries = t.entries ++ ps := by
  induction ps generalizing t with
  | nil => exact (List.append_nil _).symm
  | cons p ps ih =>
    rw [List.foldl_cons, ih, Timeline.entries_push, List.append_assoc]
    rfl

/-- A turn that leaves canvas, pen, log and defaults as they are leaves the marks as they are. -/
theorem Replays.of_same {m : MarkedScene R} {turn : Turn R H} (h : Replays m turn.before)
    (hredraws : turn.redraws = false) (hcanvas : turn.after.canvas = turn.before.canvas)
    (hpen : turn.after.pen = turn.before.pen)
    (hdefaults : turn.after.defaults = turn.before.defaults)
    (htimeline : turn.after.timeline = turn.before.timeline) :
    Replays (m.after turn) turn.after := by
  -- Nothing is new on the canvas, so there is nothing to mark.
  have hm : m.after turn = m := by
    rw [MarkedScene.after_of_not_redraws hredraws {} (by rw [hcanvas, Scene.append_empty]),
      MarkedScene.add_empty]
  rw [hm]
  obtain ⟨haligned, hpen', hall, hdrawn⟩ := h
  constructor <;> simp only [replayed, hcanvas, hpen, hdefaults, htimeline] <;> assumption

/-- A turn that draws primitives behind the log marks what they add as drawn. -/
theorem Replays.of_drawn {m : MarkedScene R} {turn : Turn R H} (h : Replays m turn.before)
    (hredraws : turn.redraws = false) (himports : turn.imports = false) (ps : List Primitive)
    (hcanvas : turn.after.canvas = turn.before.canvas.applyAll turn.before.pen ps)
    (hpen : turn.after.pen = ps.foldl Pen.apply turn.before.pen)
    (hdefaults : turn.after.defaults = turn.before.defaults)
    (hentries : turn.after.timeline.entries = turn.before.timeline.entries ++ ps) :
    Replays (m.after turn) turn.after := by
  obtain ⟨haligned, hpen', hall, hdrawn⟩ := h
  -- The canvas and the replay are in the same place, so the primitives add the same to both.
  obtain ⟨new, haligned, hnew, hnew'⟩ := haligned.exists_applyAll turn.before.pen ps
  have hreplayed : turn.after.replayed = turn.before.replayed.applyAll turn.before.pen ps := by
    rw [replayed, replayed, hdefaults, hentries, Canvas.applyAll_append, hpen']
  have hm : m.after turn = m.add new false := by
    rw [MarkedScene.after_of_not_redraws hredraws new (hcanvas ▸ hnew), himports]
  rw [hm]
  constructor
  · rw [hreplayed, hcanvas]
    exact haligned
  · rw [hpen, hpen', hdefaults, hentries, List.foldl_append]
  · rw [MarkedScene.all_add, hall, hcanvas, hnew]
  · rw [MarkedScene.drawn_add_false, hdrawn, hreplayed, hnew']

/-- A turn that draws the log anew marks everything as drawn. -/
theorem Replays.of_redrawn {m : MarkedScene R} {turn : Turn R H}
    (hredraws : turn.redraws = true) (canvas : Canvas R)
    (hcanvas : turn.after.canvas =
      canvas.clear.reset.applyAll turn.after.defaults turn.after.timeline.entries)
    (hpen : turn.after.pen = turn.after.timeline.entries.foldl Pen.apply turn.after.defaults) :
    Replays (m.after turn) turn.after := by
  -- The canvas was wiped, so the log adds to it what it adds to an empty one.
  obtain ⟨new, haligned, hnew, hnew'⟩ := (canvas.aligned_blank 0 0).exists_applyAll
    turn.after.defaults turn.after.timeline.entries
  have hm : m.after turn = MarkedScene.add {} turn.after.canvas.scene false := if_pos hredraws
  rw [hm]
  constructor
  · rw [hcanvas]
    exact haligned
  · exact hpen
  · rw [MarkedScene.all_add]
    exact Scene.empty_append _
  · rw [MarkedScene.drawn_add_false, hcanvas, hnew]
    exact (Scene.empty_append _).trans hnew'.symm

/-- A turn that draws an image on top marks what it brings as such. -/
theorem Replays.of_imported {m : MarkedScene R} {turn : Turn R H} (h : Replays m turn.before)
    (hredraws : turn.redraws = false) (himports : turn.imports = true) {image : Scene R}
    (hcanvas : turn.after.canvas = { turn.before.canvas with
      scene := turn.before.canvas.scene.append image })
    (hpen : turn.after.pen = turn.before.pen)
    (hdefaults : turn.after.defaults = turn.before.defaults)
    (htimeline : turn.after.timeline = turn.before.timeline) :
    Replays (m.after turn) turn.after := by
  obtain ⟨⟨hposition, hheading⟩, hpen', hall, hdrawn⟩ := h
  -- An image moves neither the turtle nor the log.
  have hreplayed : turn.after.replayed = turn.before.replayed := by
    rw [replayed, replayed, hdefaults, htimeline]
  have hm : m.after turn = m.add image true := by
    rw [MarkedScene.after_of_not_redraws hredraws image (by rw [hcanvas]), himports]
  rw [hm]
  constructor
  · rw [hreplayed, hcanvas]
    exact ⟨hposition, hheading⟩
  · rw [hpen, hpen', hdefaults, htimeline]
  · rw [MarkedScene.all_add, hall, hcanvas]
  · rw [MarkedScene.drawn_add_true, hdrawn, hreplayed]

variable [Host H]

/-- Every change keeps the log, the pen and the canvas in step. -/
theorem Change.replays {s t : Session R H} {c : Option Command} {o : Outcome}
    (h : s.Change c o t) {m : MarkedScene R} (hs : Replays m s) :
    Replays (m.after ⟨s, c, o, t⟩) t := by
  cases h with
  | refused | nothingUndone | nothingRedone | declined | saved =>
    exact hs.of_same rfl rfl rfl rfl rfl
  | kept h => exact hs.of_same (h.redraws_eq_false _ _) rfl rfl rfl rfl
  | drawn hc hps => exact hs.of_drawn rfl (Bool.and_false _) _ rfl rfl rfl (entries_foldl_push _ _)
  -- A primitive is done again on top of the log, so that it is drawn like any other.
  | redone h => exact hs.of_drawn rfl rfl [_] rfl rfl rfl (List.reverse_cons ..)
  | undone h | cleared => exact .of_redrawn rfl s.canvas rfl rfl
  | imported => exact hs.of_imported rfl rfl rfl rfl rfl rfl

/-- The defaults of a session never change. -/
theorem Change.defaults_eq {s t : Session R H} {c : Option Command} {o : Outcome}
    (h : s.Change c o t) : t.defaults = s.defaults := by
  cases h <;> rfl

/-- Along a run the marks are kept together with the drawing. -/
theorem Run.replays {s t : Session R H} {turns : List (Turn R H)} (run : Run s turns t)
    {m : MarkedScene R} (hs : Replays m s) : Replays (turns.foldl MarkedScene.after m) t := by
  have alike {s t : Session R H} {m : MarkedScene R} (h : s.Alike t) (hs : Replays m s) :
      Replays m t := by
    obtain ⟨w, l, rfl⟩ := h
    exact ⟨hs.aligned, hs.pen, hs.all, hs.drawn⟩
  induction run generalizing m with
  | done h => exact alike h hs
  | step h hturn _ ih => exact ih (hturn.replays (alike h hs))

theorem Run.defaults_eq {s t : Session R H} {turns : List (Turn R H)} (run : Run s turns t) :
    t.defaults = s.defaults :=
  (run.preserves (fun u => u.defaults = s.defaults)
    (fun ⟨_, _, h⟩ hs => by rw [h, ← hs]) (fun h hs => h.defaults_eq.trans hs) rfl).1

omit [Host H] in
/-- A session that begins has nothing to replay. -/
theorem replays_ofSettings (settings : Settings) (w : World H) :
    Replays ({} : MarkedScene R) (ofSettings settings w) :=
  ⟨⟨rfl, rfl⟩, rfl, rfl, rfl⟩

omit [Host H] in
/-- On an empty canvas of any size the log draws the same. -/
theorem replayed_of_blank (s : Session R H) (width height : UInt16) :
    ((Canvas.blank width height).applyAll s.defaults s.timeline.entries).Aligned s.replayed ∧
      ((Canvas.blank width height).applyAll s.defaults s.timeline.entries).scene =
        s.replayed.scene := by
  obtain ⟨new, haligned, hnew, hnew'⟩ := Canvas.Aligned.exists_applyAll (R := R)
    (a := Canvas.blank width height) (b := Canvas.blank 0 0) ⟨rfl, rfl⟩ s.defaults
    s.timeline.entries
  exact ⟨haligned, hnew.trans hnew'.symm⟩

/-- Whatever is done in a session: if the log is run from the beginning in a new session, the
    turtle comes to the same place, with the same pen, and what it draws is the scene without the
    strokes and rings that images have brought since the last undo or clear. -/
theorem replay_reproduces_drawing (settings : Settings) (w : World H) (ops : List (Operation H)) :
    let fresh : Session R H := ofSettings settings w
    let s := fresh.performAll ops
    let again := fresh.runAll s.timeline.entries
    let marked := (fresh.history ops).foldl MarkedScene.after {}
    s.canvas.position = again.canvas.position ∧ s.canvas.heading = again.canvas.heading ∧
      s.pen = again.pen ∧ marked.all = s.canvas.scene ∧ marked.drawn = again.canvas.scene := by
  intro fresh s again marked
  have run : Run fresh (fresh.history ops) s := fresh.run_history ops
  obtain ⟨haligned, hpen, hall, hdrawn⟩ := run.replays (replays_ofSettings settings w)
  obtain ⟨w', hagain⟩ := fresh.runAll_eq s.timeline.entries
  have hdefaults : s.defaults = settings.pen := run.defaults_eq
  obtain ⟨halign, hscene⟩ := s.replayed_of_blank settings.canvasWidth settings.canvasHeight
  rw [hdefaults] at halign hscene hpen
  rw [show again = _ from hagain]
  exact ⟨haligned.position.trans halign.position.symm, haligned.heading.trans halign.heading.symm,
    hpen, hall, hdrawn.trans hscene.symm⟩

end Session

end Turtle

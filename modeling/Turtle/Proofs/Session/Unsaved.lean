import Turtle.Proofs.Session.Legible
import Turtle.Proofs.Session.Saved
import Turtle.Proofs.Shell.Typing
import Turtle.Terminal.Input

/-!
# What is thrown away without a question

A session without unsaved changes is cleared, and a shell around it is left, without a question.
What is on the canvas then can be had again: the command file that was saved last draws it. That
is not so of what images have brought. Their strokes and rings are not in the log, so that saving
the log does not save them, although it lowers the flag that they have raised.

* `Session.imported_stroke_is_not_saved`: a stroke of an image is thrown away without a question;
* `Session.clean_session_is_on_file`: everything else can be had again.
-/

namespace Turtle

namespace Session

variable {R H : Type} [Scalar R]

/-- In a new session with the pen of the settings, the command file that was saved last draws the
    scene of a session again, but for what images have brought since the canvas was drawn anew. -/
def OnFile (settings : Settings) (turns : List (Turn R H)) (s : Session R H) : Prop :=
  let marked := turns.foldl MarkedScene.after {}
  marked.all = s.canvas.scene ∧
  ∀ (H' : Type) [Host H'] (settings' : Settings) (w : World H'), settings'.pen = settings.pen →
    let again := ((ofSettings settings' w : Session R H').runScript
      (commandFile (Turn.savedLog turns))).2
    again.canvas.scene = marked.drawn ∧
    ((∀ turn ∈ Turn.sinceRedrawn turns, turn.imports = false) →
      again.canvas.scene = s.canvas.scene)

variable [Host H]

theorem Moment.onFile {settings : Settings} {w : World H} {ops : List (Operation H)}
    {turns : List (Turn R H)} {s : Session R H}
    (h : (ofSettings settings w : Session R H).Moment ops turns s) (hclean : s.dirty = false) :
    OnFile settings turns s := by
  obtain ⟨-, -, hall, hdrawn⟩ := h.run.replays (replays_ofSettings settings w)
  have hlegible := h.run.legible (legible_ofSettings settings w)
  have hdefaults : s.defaults = settings.pen := h.run.defaults_eq
  refine ⟨hall, fun H' _ settings' w' hpen => ?_⟩
  have hscene := hlegible.scene_reread (hpen.trans hdefaults.symm) w'
  -- The log is the saved one, so that its file draws what the log replays.
  rw [h.entries_eq_savedLog hclean] at hscene
  have hagain := hscene.trans hdrawn.symm
  refine ⟨hagain, fun himports => ?_⟩
  rw [hagain, MarkedScene.drawn_eq_all_of_sinceRedrawn himports, hall]

/-- An image is loaded and the log is saved: now the session can be cleared without a question, and
    the stroke of the image is in no command file. -/
theorem imported_stroke_is_not_saved :
    let image := Text.encode "[[[[0.0,0.0],[0.0,9.0],[0,0,0],1]],[]]"
    let w : World Console := ⟨⟨Text.encode "i.scene.json\nf\n", "", false⟩,
      ⟨[([Text.encode "i.scene.json"], .file image)], [], []⟩, Journal.silent⟩
    let fresh : Session Float Console := ofSettings Settings.standard w
    let ops : List (Operation Console) := [.line "load_ig; savecmd"]
    let s := fresh.performAll ops
    let again := (fresh.runScript (commandFile (Turn.savedLog (fresh.history ops)))).2
    fresh.Moment ops (fresh.history ops) s ∧ s.dirty = false ∧
      again.canvas.scene ≠ s.canvas.scene := by
  intro image w fresh ops s again
  have hdirty : s.dirty = false := by decide +kernel
  have hsize : s.canvas.scene.strokes.size = 1 := by decide +kernel
  have hsize' : again.canvas.scene.strokes.size = 0 := by decide +kernel
  refine ⟨.last, hdirty, fun h => ?_⟩
  rw [h, hsize] at hsize'
  cases hsize'

/-- At every moment without unsaved changes a session is cleared without a question, and then what
    it had on its canvas is on file, but for what images have brought since the last undo or clear.
    What counts as saved was written to the file that was asked for. The same holds of a shell that
    is left without a question. -/
theorem clean_session_is_on_file (settings : Settings) :
    (∀ (w : World H) (ops : List (Operation H)) (turns : List (Turn R H)) (s : Session R H),
      (ofSettings settings w : Session R H).Moment ops turns s → s.dirty = false →
        s.clear = (.cleared, s.wipe) ∧ OnFile settings turns s ∧
        ∀ turn ∈ turns, turn.saves = true → turn.Writes turn.before.timeline.entries) ∧
    ∀ (w : World Terminal) (count : Nat),
      let fresh : Session R Terminal := ofSettings settings w
      let shell := Shell.runFor count (Shell.start fresh)
      let ops := Shell.askedFor count (Shell.start fresh)
      shell.session = fresh.performAll ops ∧
      (shell.session.dirty = false → shell.requestQuit = { shell with quitting := true } ∧
        OnFile settings (fresh.history ops) shell.session ∧
        ∀ turn ∈ fresh.history ops, turn.saves = true →
          turn.Writes turn.before.timeline.entries) := by
  constructor
  · intro w ops turns s h hclean
    have hclear : s.clear = (.cleared, s.wipe) := by
      rw [clear, if_neg (by rw [hclean]; exact Bool.false_ne_true)]
    exact ⟨hclear, h.onFile hclean,
      fun turn hmem hsaves => writes_of_mem_history (h.mem_history hmem) hsaves⟩
  · intro w count fresh shell ops
    have hsession : shell.session = fresh.performAll ops := Shell.session_runFor count _
    refine ⟨hsession, fun hclean => ?_⟩
    have hquit : shell.requestQuit = { shell with quitting := true } := by
      rw [Shell.requestQuit, if_neg (by rw [hclean]; exact Bool.false_ne_true)]
    have hmoment : fresh.Moment ops (fresh.history ops) shell.session := by
      rw [hsession]
      exact .last
    exact ⟨hquit, hmoment.onFile hclean, fun turn hmem hsaves => writes_of_mem_history hmem hsaves⟩

/-- A circle is drawn and saved at the console, with a pen of width zero; a move is drawn and saved
    in a shell. -/
theorem clean_session_is_on_file_circle :
    let settings : Settings := { Settings.standard with pen := ⟨true, ⟨0, 0, 255⟩, 0⟩ }
    let w : World Console := ⟨⟨Text.encode "f\n", "", false⟩, ⟨[], [], []⟩, Journal.silent⟩
    let fresh : Session Float Console := ofSettings settings w
    let ops : List (Operation Console) := [.line "circle 5; savecmd"]
    let s := fresh.performAll ops
    let keys := Key.ofLine "move 5\nsavecmd\nf\n".toList
    let w' : World Terminal := ⟨{ keys := keys }, ⟨[], [], []⟩, Journal.silent⟩
    let fresh' : Session Float Terminal := ofSettings settings w'
    let shell := Shell.runFor keys.length (Shell.start fresh')
    (s.dirty = false ∧ s.canvas.scene.rings.size = 1 ∧ s.clear = (.cleared, s.wipe) ∧
      OnFile settings (fresh.history ops) s) ∧
    shell.session.dirty = false ∧ shell.session.timeline.entries = [.move 5] ∧
      OnFile settings (fresh'.history (Shell.askedFor keys.length (Shell.start fresh')))
        shell.session := by
  intro settings w fresh ops s keys w' fresh' shell
  obtain ⟨hsession, hshell⟩ := clean_session_is_on_file (R := Float) (H := Console) settings
  have hdirty : s.dirty = false := by decide +kernel
  have hrings : s.canvas.scene.rings.size = 1 := by decide +kernel
  have hdirty' : shell.session.dirty = false := by decide +kernel
  have hentries : shell.session.timeline.entries = [.move 5] := by decide +kernel
  obtain ⟨hclear, honfile, -⟩ := hsession w ops (fresh.history ops) s .last hdirty
  obtain ⟨-, honfile', -⟩ := (hshell w' keys.length).2 hdirty'
  exact ⟨⟨hdirty, hrings, hclear, honfile⟩, hdirty', hentries, honfile'⟩

end Session

end Turtle

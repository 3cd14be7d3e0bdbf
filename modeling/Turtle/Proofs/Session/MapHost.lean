import Turtle.Proofs.Session.Refusal
import Turtle.Proofs.Session.Untouched

/-!
# Sessions with another host

A session knows its host only by what every host does: it shows messages, notes lines, and asks. So
if hosts are mapped to others in a way that what they do commutes with, sessions with these hosts
are mapped along, and whatever is done in a session is done in its image as well, with the same
outcome.

* `Host.Hom` is such a map, and `Session.mapHost` maps a session;
* `Session.obey_mapHost`, `Session.runScript_mapHost` and `Session.runLine_mapHost`: what is done
  commutes with it.
-/

namespace Turtle

variable {H K : Type} [Host H] [Host K]

/-- A map between hosts that what they do commutes with. -/
structure Host.Hom (f : H → K) : Prop where
  report : ∀ message h, Host.report message (f h) = f (Host.report message h)
  note : ∀ line h, Host.note line (f h) = f (Host.note line h)
  announces : ∀ h, Host.announces (f h) = Host.announces h
  confirm : ∀ question h, Host.confirm question (f h) = Prod.map id f (Host.confirm question h)
  pick : ∀ dialog h, Host.pick dialog (f h) = Prod.map id f (Host.pick dialog h)

/-! ## Worlds -/

namespace World

omit [Host H] [Host K] in
/-- The same world around another host. -/
def mapHost (f : H → K) (w : World H) : World K :=
  ⟨f w.host, w.disk, w.journal⟩

omit [Host H] [Host K] in
@[simp]
theorem disk_mapHost (f : H → K) (w : World H) : (w.mapHost f).disk = w.disk := rfl

variable {f : H → K} (hf : Host.Hom f) (w : World H)
include hf

theorem record_mapHost (e : Event) : (w.mapHost f).record e = (w.record e).mapHost f := by
  have hjournal : (w.mapHost f).journal = w.journal := rfl
  rw [record, record, hjournal]
  split
  · split
    · rfl
    · show World.mk (Host.note _ (f w.host)) _ _ = _
      rw [hf.note]
      rfl
    · rfl
  · rfl

theorem report_mapHost (message : String) :
    (w.mapHost f).report message = (w.report message).mapHost f := by
  have shown (w : World H) :
      { w.mapHost f with host := Host.report message (w.mapHost f).host } =
        mapHost f { w with host := Host.report message w.host } := by
    show World.mk (Host.report message (f w.host)) _ _ = _
    rw [hf.report]
    rfl
  have hannounces : Host.announces (w.mapHost f).host = Host.announces w.host :=
    hf.announces w.host
  rw [report, report, hannounces]
  split
  · rw [record_mapHost hf]
    exact shown _
  · exact shown w

theorem confirm_mapHost (question : String) :
    (w.mapHost f).confirm question = Prod.map id (mapHost f) (w.confirm question) := by
  have hconfirm : Host.confirm question (w.mapHost f).host = _ := hf.confirm question w.host
  rw [confirm, confirm, hconfirm]
  rfl

theorem pick_mapHost (dialog : Dialog) :
    (w.mapHost f).pick dialog = Prod.map id (mapHost f) (w.pick dialog) := by
  have hpick : Host.pick dialog (w.mapHost f).host = _ := hf.pick dialog w.host
  rw [pick, pick, hpick]
  rfl

end World

/-! ## Sessions -/

namespace Session

variable {R : Type}

omit [Host H] [Host K] in
/-- The same session with another host. -/
def mapHost (f : H → K) (s : Session R H) : Session R K :=
  ⟨s.canvas, s.pen, s.defaults, s.timeline, s.dirty, s.loading, s.world.mapHost f⟩

omit [Host H] [Host K] in
/-- The same outcome, and the same session with another host. -/
def mapResult (f : H → K) : Outcome × Session R H → Outcome × Session R K :=
  Prod.map id (mapHost f)

section Fields

variable (f : H → K) (s : Session R H)

omit [Host H] [Host K] in
@[simp]
theorem canvas_mapHost : (s.mapHost f).canvas = s.canvas := rfl

omit [Host H] [Host K] in
@[simp]
theorem pen_mapHost : (s.mapHost f).pen = s.pen := rfl

omit [Host H] [Host K] in
@[simp]
theorem timeline_mapHost : (s.mapHost f).timeline = s.timeline := rfl

omit [Host H] [Host K] in
@[simp]
theorem dirty_mapHost : (s.mapHost f).dirty = s.dirty := rfl

omit [Host H] [Host K] in
@[simp]
theorem world_mapHost : (s.mapHost f).world = s.world.mapHost f := rfl

omit [Host H] [Host K] in
@[simp]
theorem permit_mapHost : (s.mapHost f).permit = s.permit := rfl

omit [Host H] [Host K] in
@[simp]
theorem withDisk_mapHost (disk : Disk) :
    (s.mapHost f).withDisk disk = (s.withDisk disk).mapHost f := rfl

omit [Host H] [Host K] in
@[simp]
theorem endReplay_mapHost : (s.mapHost f).endReplay = s.endReplay.mapHost f := rfl

omit [Host H] [Host K] in
@[simp]
theorem restart_mapHost [Scalar R] : (s.mapHost f).restart = s.restart.mapHost f := rfl

end Fields

variable {f : H → K} (hf : Host.Hom f) (s : Session R H)
include hf

theorem record_mapHost (e : Event) : (s.mapHost f).record e = (s.record e).mapHost f := by
  rw [record, world_mapHost, World.record_mapHost hf]
  rfl

theorem report_mapHost (message : String) :
    (s.mapHost f).report message = (s.report message).mapHost f := by
  rw [report, world_mapHost, World.report_mapHost hf]
  rfl

theorem reject_mapHost (verb : String) (origin : Origin) (e : CommandError) :
    (s.mapHost f).reject verb origin e = mapResult f (s.reject verb origin e) := by
  rw [reject, record_mapHost hf, report_mapHost hf]
  rfl

theorem fail_mapHost (what : String) (fault : Fault) :
    (s.mapHost f).fail what fault = mapResult f (s.fail what fault) := by
  rw [fail, record_mapHost hf, report_mapHost hf]
  rfl

variable [Scalar R]

theorem run_mapHost (p : Primitive) : (s.mapHost f).run p = (s.run p).mapHost f := by
  rw [run, world_mapHost, World.record_mapHost hf]
  rfl

theorem runAll_mapHost (ps : List Primitive) :
    (s.mapHost f).runAll ps = (s.runAll ps).mapHost f := by
  induction ps generalizing s with
  | nil => rfl
  | cons p ps ih =>
    have hrun := ih (s.run p)
    rw [← run_mapHost hf] at hrun
    exact hrun

/-! ### Undoing, redoing and clearing -/

theorem undo_mapHost : (s.mapHost f).undo = mapResult f s.undo := by
  rw [undo, undo, timeline_mapHost]
  cases s.timeline.beginUndo? with
  | none => rfl
  | some begun =>
    obtain ⟨rest, timeline⟩ := begun
    have hbegun : { s.mapHost f with timeline := timeline } =
        mapHost f { s with timeline := timeline } := rfl
    dsimp only
    rw [hbegun, record_mapHost hf, restart_mapHost, runAll_mapHost hf, endReplay_mapHost]
    rfl

theorem redo_mapHost : (s.mapHost f).redo = mapResult f s.redo := by
  rw [redo, redo, timeline_mapHost]
  cases s.timeline.beginRedo? with
  | none => rfl
  | some begun =>
    obtain ⟨p, timeline⟩ := begun
    have hbegun : { s.mapHost f with timeline := timeline } =
        mapHost f { s with timeline := timeline } := rfl
    dsimp only
    rw [hbegun, record_mapHost hf, run_mapHost hf, endReplay_mapHost]
    rfl

theorem wipe_mapHost : (s.mapHost f).wipe = s.wipe.mapHost f := by
  rw [wipe, record_mapHost hf]
  rfl

theorem clear_mapHost : (s.mapHost f).clear = mapResult f s.clear := by
  rw [clear, clear, dirty_mapHost]
  split
  · rw [world_mapHost, World.confirm_mapHost hf]
    let asked : Session R H := { s with world := (s.world.confirm clearQuestion).2 }
    have hwipe := wipe_mapHost hf asked
    dsimp only [Prod.map, id]
    split
    · exact congrArg (Outcome.cleared, ·) hwipe
    · rfl
  · exact congrArg (Outcome.cleared, ·) (wipe_mapHost hf s)

/-! ### Files -/

omit [Scalar R] in
theorem asking_mapHost {dialog : Dialog} {go : Path → Session R H → Outcome × Session R H}
    {go' : Path → Session R K → Outcome × Session R K}
    (hgo : ∀ path s, go' path (s.mapHost f) = mapResult f (go path s)) :
    (s.mapHost f).asking dialog go' = mapResult f (s.asking dialog go) := by
  have hpick : (s.mapHost f).pick dialog = Prod.map id (mapHost f) (s.pick dialog) := by
    rw [pick, world_mapHost, World.pick_mapHost hf]
    rfl
  rw [asking, asking, hpick]
  obtain ⟨_ | path, asked⟩ := s.pick dialog
  · rfl
  · exact hgo path asked

omit [Scalar R] in
theorem saveCommands_mapHost : (s.mapHost f).saveCommands = mapResult f s.saveCommands := by
  rw [saveCommands_eq, saveCommands_eq]
  refine asking_mapHost hf s fun path s => ?_
  rw [timeline_mapHost, world_mapHost, World.disk_mapHost]
  cases s.world.disk.write path (Text.encode (commandFile s.timeline.entries)) with
  | error e => exact fail_mapHost hf (s.withDisk (e.leaves s.world.disk)) _ _
  | ok disk =>
    let saved : Session R H :=
      { (s.withDisk disk).record (.savedCommands path s.timeline.size) with dirty := false }
    dsimp only
    rw [withDisk_mapHost, record_mapHost hf]
    exact congrArg (Outcome.fileDone, ·) (report_mapHost hf saved _)

theorem saveImage_mapHost : (s.mapHost f).saveImage = mapResult f s.saveImage := by
  rw [saveImage_eq, saveImage_eq]
  refine asking_mapHost hf s fun path s => ?_
  rw [canvas_mapHost, world_mapHost, World.disk_mapHost]
  cases s.canvas.save s.world.disk path.asImage with
  | error x => exact fail_mapHost hf (s.withDisk x.2) _ _
  | ok disk =>
    dsimp only
    rw [withDisk_mapHost, record_mapHost hf]
    exact congrArg (Outcome.fileDone, ·) (report_mapHost hf _ _)

theorem loadImage_mapHost : (s.mapHost f).loadImage = mapResult f s.loadImage := by
  rw [loadImage_eq, loadImage_eq]
  refine asking_mapHost hf s fun path s => ?_
  rw [canvas_mapHost, world_mapHost, World.disk_mapHost]
  cases s.canvas.load s.world.disk path with
  | error e => exact fail_mapHost hf s _ _
  | ok canvas =>
    let drawn : Session R H := { s with canvas := canvas }
    let loaded : Session R H := { drawn.record (.loadedImage path) with dirty := true }
    show (Outcome.fileDone, ({ (drawn.mapHost f).record _ with dirty := true }).report _) = _
    rw [record_mapHost hf]
    exact congrArg (Outcome.fileDone, ·) (report_mapHost hf loaded _)

/-! ### Statements -/

theorem draw_mapHost (ps : List Primitive) :
    (s.mapHost f).draw ps = mapResult f (s.draw ps) := by
  rw [draw, runAll_mapHost hf]
  rfl

section With

variable {load : Session R H → Outcome × Session R H} {load' : Session R K → Outcome × Session R K}
  (hload : ∀ s, load' (s.mapHost f) = mapResult f (load s))
include hload

theorem request_mapHost (request : SessionCommand) :
    (s.mapHost f).request load' request = mapResult f (s.request load request) := by
  cases request with
  | about | help => exact congrArg (Outcome.informed, ·) (report_mapHost hf s _)
  | clear => exact clear_mapHost hf s
  | undo => exact undo_mapHost hf s
  | redo => exact redo_mapHost hf s
  | saveCommands => exact saveCommands_mapHost hf s
  | loadCommands => exact hload s
  | saveImage => exact saveImage_mapHost hf s
  | loadImage => exact loadImage_mapHost hf s

theorem execute_mapHost (c : Command) :
    (s.mapHost f).execute load' c = mapResult f (s.execute load c) := by
  cases c with
  | primitive p => exact draw_mapHost hf s [p]
  | shape shape =>
    rw [execute, execute, pen_mapHost]
    cases shape.expand? s.pen with
    | none => rfl
    | some ps => exact draw_mapHost hf s ps
  | session request => exact request_mapHost hf s hload request

theorem obeyWith_mapHost (statement : Statement) (origin : Origin) :
    (s.mapHost f).obeyWith load' statement origin =
      mapResult f (s.obeyWith load statement origin) := by
  rw [obeyWith, obeyWith, permit_mapHost]
  cases statement.validate >>= s.permit with
  | error e => exact reject_mapHost hf s _ _ e
  | ok c => exact execute_mapHost hf s hload _

end With

theorem obeyInScript_mapHost (statement : Statement) (origin : Origin) :
    (s.mapHost f).obeyInScript statement origin =
      mapResult f (s.obeyInScript statement origin) :=
  obeyWith_mapHost hf s (fun _ => rfl) statement origin

theorem runScript_mapHost (text : String) :
    (s.mapHost f).runScript text = Prod.map id (mapHost f) (s.runScript text) := by
  have all (statements : List (ScriptLine × Statement)) (s : Session R H) :
      statements.foldl stepInScript (s.mapHost f) =
        (statements.foldl stepInScript s).mapHost f := by
    induction statements generalizing s with
    | nil => rfl
    | cons x rest ih =>
      have hstep : (s.mapHost f).stepInScript x = (s.stepInScript x).mapHost f :=
        congrArg Prod.snd (obeyInScript_mapHost hf s x.2 (.line x.1.number))
      rw [List.foldl_cons, List.foldl_cons, hstep, ih]
  let begun : Session R H := { s with loading := true }
  have hbegun : { s.mapHost f with loading := true } = begun.mapHost f := rfl
  refine Prod.ext ?_ ?_
  · rw [Prod.map_fst, fst_runScript, fst_runScript, id]
  · rw [Prod.map_snd, snd_runScript, snd_runScript, hbegun, all]
    -- What the statements do is of no concern here, and must not be unfolded.
    generalize (Script.statements (Script.read text)).foldl stepInScript begun = after
    rfl

theorem loadCommands_mapHost : (s.mapHost f).loadCommands = mapResult f s.loadCommands := by
  rw [loadCommands_eq, loadCommands_eq]
  refine asking_mapHost hf s fun path s => ?_
  rw [world_mapHost, World.disk_mapHost]
  cases s.world.disk.readText path with
  | error e => exact fail_mapHost hf s _ _
  | ok text =>
    dsimp only
    rw [runScript_mapHost hf]
    -- What the script does is of no concern here, and must not be unfolded.
    generalize s.runScript text = result
    dsimp only [Prod.map, id]
    rw [record_mapHost hf]
    exact congrArg (Outcome.fileDone, ·) (report_mapHost hf _ _)

theorem obey_mapHost (statement : Statement) (origin : Origin) :
    (s.mapHost f).obey statement origin = mapResult f (s.obey statement origin) :=
  obeyWith_mapHost hf s (fun s => loadCommands_mapHost hf s) statement origin

theorem runLine_mapHost (line : String) :
    (s.mapHost f).runLine line = Prod.map id (mapHost f) (s.runLine line) := by
  have all (statements : List Statement) (outcomes : List Outcome) (s : Session R H) :
      statements.foldl lineStep (outcomes, s.mapHost f) =
        Prod.map id (mapHost f) (statements.foldl lineStep (outcomes, s)) := by
    induction statements generalizing outcomes s with
    | nil => rfl
    | cons statement rest ih =>
      rw [List.foldl_cons, List.foldl_cons, lineStep, lineStep, obey_mapHost hf]
      exact ih _ _
  exact all _ _ s

end Session

end Turtle

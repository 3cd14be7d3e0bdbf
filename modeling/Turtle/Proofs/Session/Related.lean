import Turtle.Proofs.Session.Refusal
import Turtle.Proofs.Session.Untouched

/-!
# Sessions in related worlds

A session does the same in two worlds if nothing comes back from them that differs: the answers,
what can be written where, and what is found in an image that is loaded. Which worlds these are may
be said in more than one way. Here they are related by any relation that is kept when the same is
done in both of them, and also when a statement is refused in both of them with two different
messages, as is the case on two lines of a script.

* `World.Congruence` says of a relation of worlds that it is kept so, and `World.LoadsAlike` says of
  two worlds that the same is found in an image that is loaded;
* `Session.Related` says of two sessions that they differ in their worlds at most, and those are
  related;
* `Session.Related.obeyWith` and `Session.Related.obeyInScript`: this stays so, whatever is done in
  both of them, if it is so of loading a command file and the same is found in images.
-/

namespace Turtle

/-- A relation of worlds that is kept by whatever a session does in both of them. -/
structure World.Congruence (R : Type) {H : Type} [Scalar R] [Host H]
    (rel : World H → World H → Prop) : Prop where
  record : ∀ {w w' : World H}, rel w w' → ∀ e, rel (w.record e) (w'.record e)
  report : ∀ {w w' : World H}, rel w w' → ∀ message, rel (w.report message) (w'.report message)
  /-- The messages of a refusal may differ. -/
  refuse : ∀ {w w' : World H}, rel w w' → ∀ message message' verb kind,
    rel ((w.record (.rejected message verb kind)).report message)
      ((w'.record (.rejected message' verb kind)).report message')
  confirm : ∀ {w w' : World H}, rel w w' → ∀ question,
    (w'.confirm question).1 = (w.confirm question).1 ∧
      rel (w.confirm question).2 (w'.confirm question).2
  pick : ∀ {w w' : World H}, rel w w' → ∀ dialog,
    (w'.pick dialog).1 = (w.pick dialog).1 ∧ rel (w.pick dialog).2 (w'.pick dialog).2
  write : ∀ {w w' : World H}, rel w w' → ∀ path bytes,
    Disk.WritesAlike (fun d d' => rel { w with disk := d } { w' with disk := d' })
      (w.disk.write path bytes) (w'.disk.write path bytes)

/-- An image that is loaded in one world now would be the same in the other. -/
def World.LoadsAlike (R : Type) {H : Type} [Scalar R] [Host H] (w w' : World H) : Prop :=
  ∀ path, (w.pick .loadImage).1 = some path →
    ∀ c : Canvas R, c.load w'.disk path = c.load w.disk path

namespace Session

variable {R H : Type}

/-- Two sessions differ in their worlds at most, and those are related. -/
def Related (rel : World H → World H → Prop) (s t : Session R H) : Prop :=
  ∃ w, rel s.world w ∧ t = { s with world := w }

/-- The same outcome, and sessions that are related. -/
def RelatedResult (rel : World H → World H → Prop) (r r' : Outcome × Session R H) : Prop :=
  r'.1 = r.1 ∧ r.2.Related rel r'.2

namespace Related

variable {rel : World H → World H → Prop} {s t : Session R H}

theorem loading_eq (h : s.Related rel t) : t.loading = s.loading := by
  obtain ⟨w, -, rfl⟩ := h
  rfl

theorem timeline_eq (h : s.Related rel t) : t.timeline = s.timeline := by
  obtain ⟨w, -, rfl⟩ := h
  rfl

theorem pen_eq (h : s.Related rel t) : t.pen = s.pen := by
  obtain ⟨w, -, rfl⟩ := h
  rfl

theorem canvas_eq (h : s.Related rel t) : t.canvas = s.canvas := by
  obtain ⟨w, -, rfl⟩ := h
  rfl

theorem permit_eq (h : s.Related rel t) : t.permit = s.permit := by
  obtain ⟨w, -, rfl⟩ := h
  rfl

theorem world (h : s.Related rel t) : rel s.world t.world := by
  obtain ⟨w, hw, rfl⟩ := h
  exact hw

theorem withDirty (h : s.Related rel t) (dirty : Bool) :
    { s with dirty := dirty }.Related rel { t with dirty := dirty } := by
  obtain ⟨w, hw, rfl⟩ := h
  exact ⟨w, hw, rfl⟩

theorem withLoading (h : s.Related rel t) (loading : Bool) :
    { s with loading := loading }.Related rel { t with loading := loading } := by
  obtain ⟨w, hw, rfl⟩ := h
  exact ⟨w, hw, rfl⟩

theorem endReplay (h : s.Related rel t) : s.endReplay.Related rel t.endReplay := by
  obtain ⟨w, hw, rfl⟩ := h
  exact ⟨w, hw, rfl⟩

variable [Scalar R]

theorem restart (h : s.Related rel t) : s.restart.Related rel t.restart := by
  obtain ⟨w, hw, rfl⟩ := h
  exact ⟨w, hw, rfl⟩

variable [Host H] (hrel : World.Congruence R rel)
include hrel

theorem record (h : s.Related rel t) (e : Event) : (s.record e).Related rel (t.record e) := by
  obtain ⟨w, hw, rfl⟩ := h
  exact ⟨_, hrel.record hw e, rfl⟩

theorem report (h : s.Related rel t) (message : String) :
    (s.report message).Related rel (t.report message) := by
  obtain ⟨w, hw, rfl⟩ := h
  exact ⟨_, hrel.report hw message, rfl⟩

theorem reject (h : s.Related rel t) (verb : String) (origin origin' : Origin) (e : CommandError) :
    RelatedResult rel (s.reject verb origin e) (t.reject verb origin' e) := by
  obtain ⟨w, hw, rfl⟩ := h
  exact ⟨rfl, _, hrel.refuse hw _ _ verb e.kind, rfl⟩

theorem fail (h : s.Related rel t) (what : String) (fault : Fault) :
    RelatedResult rel (s.fail what fault) (t.fail what fault) :=
  ⟨rfl, (h.record hrel _).report hrel _⟩

/-! ## Drawing, undoing and redoing -/

theorem run (h : s.Related rel t) (p : Primitive) : (s.run p).Related rel (t.run p) := by
  obtain ⟨w, hw, rfl⟩ := h
  exact ⟨_, hrel.record hw _, rfl⟩

theorem runAll (h : s.Related rel t) (ps : List Primitive) :
    (s.runAll ps).Related rel (t.runAll ps) := by
  induction ps generalizing s t with
  | nil => exact h
  | cons p ps ih => exact ih (h.run hrel p)

theorem undo (h : s.Related rel t) : RelatedResult rel s.undo t.undo := by
  obtain ⟨w, hw, rfl⟩ := h
  rw [Session.undo, Session.undo]
  cases s.timeline.beginUndo? with
  | none => exact ⟨rfl, w, hw, rfl⟩
  | some begun =>
    obtain ⟨rest, timeline⟩ := begun
    have hbegun : { s with timeline := timeline }.Related rel
        { s with timeline := timeline, world := w } := ⟨w, hw, rfl⟩
    exact ⟨rfl, ((hbegun.record hrel _).restart.runAll hrel rest).endReplay⟩

theorem redo (h : s.Related rel t) : RelatedResult rel s.redo t.redo := by
  obtain ⟨w, hw, rfl⟩ := h
  rw [Session.redo, Session.redo]
  cases s.timeline.beginRedo? with
  | none => exact ⟨rfl, w, hw, rfl⟩
  | some begun =>
    obtain ⟨p, timeline⟩ := begun
    have hbegun : { s with timeline := timeline }.Related rel
        { s with timeline := timeline, world := w } := ⟨w, hw, rfl⟩
    exact ⟨rfl, ((hbegun.record hrel _).run hrel p).endReplay⟩

theorem wipe (h : s.Related rel t) : s.wipe.Related rel t.wipe := by
  obtain ⟨w, hw, rfl⟩ := h
  exact ⟨_, hrel.record hw _, rfl⟩

theorem clear (h : s.Related rel t) : RelatedResult rel s.clear t.clear := by
  have hwipe := h.wipe hrel
  obtain ⟨w, hw, rfl⟩ := h
  obtain ⟨hanswer, hconfirm⟩ := hrel.confirm hw clearQuestion
  have hasked : { s with world := (s.world.confirm clearQuestion).2 }.Related rel
      { s with world := (w.confirm clearQuestion).2 } := ⟨_, hconfirm, rfl⟩
  rw [Session.clear, Session.clear]
  split
  · dsimp only
    rw [hanswer]
    split
    · exact ⟨rfl, hasked.wipe hrel⟩
    · exact ⟨rfl, hasked⟩
  · exact ⟨rfl, hwipe⟩

/-! ## Files -/

/-- The same path is asked for, and what is done with it is the same if that is so of the path that
    is given. -/
theorem asking (h : s.Related rel t) {dialog : Dialog}
    {go go' : Path → Session R H → Outcome × Session R H}
    (hgo : ∀ path (s' t' : Session R H), s'.Related rel t' →
      (s.world.pick dialog).1 = some path → s' = (s.pick dialog).2 → t' = (t.pick dialog).2 →
      RelatedResult rel (go path s') (go' path t')) :
    RelatedResult rel (s.asking dialog go) (t.asking dialog go') := by
  obtain ⟨w, hw, rfl⟩ := h
  obtain ⟨hpath, hpick⟩ := hrel.pick hw dialog
  have hasked : (s.pick dialog).2.Related rel (Session.pick { s with world := w } dialog).2 :=
    ⟨_, hpick, rfl⟩
  rw [Session.asking, Session.asking]
  rw [← Prod.eta (s.pick dialog), ← Prod.eta (Session.pick { s with world := w } dialog)]
  rw [show (Session.pick { s with world := w } dialog).1 = (s.pick dialog).1 from hpath]
  cases hanswer : (s.pick dialog).1 with
  | none => exact ⟨rfl, hasked⟩
  | some path => exact hgo path _ _ hasked hanswer rfl rfl

/-- The same is written to the same file, or the same is wrong. -/
theorem write (h : s.Related rel t) (path : Path) (bytes : Bytes) :
    Disk.WritesAlike (fun d d' => (s.withDisk d).Related rel (t.withDisk d'))
      (s.world.disk.write path bytes) (t.world.disk.write path bytes) := by
  obtain ⟨w, hw, rfl⟩ := h
  exact (hrel.write hw path bytes).mono fun hd => ⟨_, hd, rfl⟩

theorem saveCommands (h : s.Related rel t) : RelatedResult rel s.saveCommands t.saveCommands := by
  rw [saveCommands_eq, saveCommands_eq]
  refine h.asking hrel fun path s t h _ _ _ => ?_
  have hentries : t.timeline = s.timeline := h.timeline_eq
  have hwrite := h.write hrel path (Text.encode (commandFile s.timeline.entries))
  rw [hentries]
  revert hwrite
  generalize s.world.disk.write path _ = result
  generalize t.world.disk.write path _ = result'
  rintro (cause | hleft | hnew)
  · exact h.fail hrel _ _
  · exact hleft.fail hrel _ _
  · exact ⟨rfl, ((hnew.record hrel _).withDirty false).report hrel _⟩

theorem saveImage (h : s.Related rel t) : RelatedResult rel s.saveImage t.saveImage := by
  rw [saveImage_eq, saveImage_eq]
  refine h.asking hrel fun path s t h _ _ _ => ?_
  have hwrite := h.write hrel path.asImage s.canvas.scene.encode
  rw [h.canvas_eq, Canvas.save, Canvas.save]
  revert hwrite
  generalize s.world.disk.write path.asImage _ = result
  generalize t.world.disk.write path.asImage _ = result'
  rintro (cause | hleft | hnew)
  · exact h.fail hrel _ _
  · exact hleft.fail hrel _ _
  · exact ⟨rfl, (hnew.record hrel _).report hrel _⟩

theorem loadImage (h : s.Related rel t) (himage : World.LoadsAlike R s.world t.world) :
    RelatedResult rel s.loadImage t.loadImage := by
  rw [loadImage_eq, loadImage_eq]
  refine h.asking hrel fun path s' t' h' hpath hs ht => ?_
  have hload : t'.canvas.load t'.world.disk path = s'.canvas.load s'.world.disk path := by
    have hdisk : s'.world.disk = s.world.disk := by rw [hs]; rfl
    have hdisk' : t'.world.disk = t.world.disk := by rw [ht]; rfl
    rw [h'.canvas_eq, hdisk, hdisk', himage path hpath]
  rw [hload]
  cases s'.canvas.load s'.world.disk path with
  | error e => exact h'.fail hrel _ _
  | ok canvas =>
    obtain ⟨w, hw, rfl⟩ := h'
    exact ⟨rfl, _, hrel.report (hrel.record hw _) _, rfl⟩

/-! ## Statements -/

theorem draw (h : s.Related rel t) (ps : List Primitive) :
    RelatedResult rel (s.draw ps) (t.draw ps) :=
  ⟨rfl, (h.runAll hrel ps).withDirty true⟩

section With

variable {load load' : Session R H → Outcome × Session R H}

theorem request (h : s.Related rel t) (request : SessionCommand)
    (hload : request = .loadCommands → RelatedResult rel (load s) (load' t))
    (himage : request = .loadImage → World.LoadsAlike R s.world t.world) :
    RelatedResult rel (s.request load request) (t.request load' request) := by
  cases request with
  | about | help => exact ⟨rfl, h.report hrel _⟩
  | clear => exact h.clear hrel
  | undo => exact h.undo hrel
  | redo => exact h.redo hrel
  | saveCommands => exact h.saveCommands hrel
  | loadCommands => exact hload rfl
  | saveImage => exact h.saveImage hrel
  | loadImage => exact h.loadImage hrel (himage rfl)

theorem execute (h : s.Related rel t) (c : Command)
    (hload : c = .session .loadCommands → RelatedResult rel (load s) (load' t))
    (himage : c = .session .loadImage → World.LoadsAlike R s.world t.world) :
    RelatedResult rel (s.execute load c) (t.execute load' c) := by
  cases c with
  | primitive p => exact h.draw hrel [p]
  | shape shape =>
    have hpen : t.pen = s.pen := h.pen_eq
    rw [Session.execute, Session.execute, hpen]
    cases shape.expand? s.pen with
    | none => exact ⟨rfl, h⟩
    | some ps => exact h.draw hrel ps
  | session request =>
    exact h.request hrel request (fun h => hload (congrArg _ h)) fun h => himage (congrArg _ h)

/-- A statement does the same, wherever it stands. -/
theorem obeyWith (h : s.Related rel t) (statement : Statement) {origin origin' : Origin}
    (horigin : asWritten origin' = asWritten origin)
    (hload : s.commandOf statement origin = some (.session .loadCommands) →
      RelatedResult rel (load s) (load' t))
    (himage : s.commandOf statement origin = some (.session .loadImage) →
      World.LoadsAlike R s.world t.world) :
    RelatedResult rel (s.obeyWith load statement origin) (t.obeyWith load' statement origin') := by
  rw [commandOf] at hload himage
  rw [Session.obeyWith, Session.obeyWith, h.permit_eq, horigin]
  revert hload himage
  cases statement.validate >>= s.permit with
  | error e => exact fun _ _ => h.reject hrel _ _ _ e
  | ok c =>
    exact fun hload himage => h.execute hrel _ (fun h => hload (congrArg some h))
      fun h => himage (congrArg some h)

end With

omit [Scalar R] [Host H] hrel in
/-- It does not matter on which line of a script a command stands. -/
theorem asWritten_line (n n' : Nat) : asWritten (.line n') = asWritten (.line n) := by
  funext c
  unfold asWritten
  cases c.canonical? <;> rfl

theorem obeyInScript (h : s.Related rel t) (statement : Statement) (n n' : Nat)
    (himage : s.commandOf statement (.line n) = some (.session .loadImage) →
      World.LoadsAlike R s.world t.world) :
    RelatedResult rel (s.obeyInScript statement (.line n))
      (t.obeyInScript statement (.line n')) :=
  h.obeyWith hrel statement (asWritten_line n n') (fun _ => ⟨rfl, h⟩) himage

/-- Statements that stand on other lines of a script do the same, if the same is found in any
    image. -/
theorem foldl_stepInScript (himage : ∀ {w w' : World H}, rel w w' → World.LoadsAlike R w w')
    (h : s.Related rel t) {xs ys : List (ScriptLine × Statement)}
    (hstatements : ys.map Prod.snd = xs.map Prod.snd) :
    (xs.foldl stepInScript s).Related rel (ys.foldl stepInScript t) := by
  induction xs generalizing s t ys with
  | nil =>
    obtain rfl := List.map_eq_nil_iff.1 hstatements
    exact h
  | cons x xs ih =>
    obtain ⟨y, ys, rfl, hy, hys⟩ := List.map_eq_cons_iff.1 hstatements
    rw [List.foldl_cons, List.foldl_cons]
    refine ih ?_ hys
    rw [stepInScript, stepInScript, hy]
    exact (h.obeyInScript hrel x.2 _ _ fun _ => himage h.world).2

end Related

end Session

end Turtle

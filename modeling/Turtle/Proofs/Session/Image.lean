import Turtle.Console
import Turtle.Proofs.Canvas.Image
import Turtle.Proofs.Session.Untouched

/-!
# Images of a session

`save_ig` writes what has been drawn to a file, `load_ig` draws what is in a file. Both ask for a
path, and leave everything else in the session as it was: the log, what can be redone and the pen
know nothing of images.

* `Session.obey_save_ig`: what saving an image does, if the file can be written;
* `Session.obey_load_ig`: what loading an image does, if the file holds one;
* `Session.images_round_trip`: an image that was saved is loaded as it was, onto any canvas and in
  any session.
-/

namespace Turtle.Session

variable {R H : Type} [Scalar R] [Host H]

omit [Scalar R] in
theorem asking_of_pick {s : Session R H} {dialog : Dialog} {path : Path}
    (h : (s.world.pick dialog).1 = some path) (go : Path → Session R H → Outcome × Session R H) :
    s.asking dialog go = go path { s with world := (s.world.pick dialog).2 } := by
  have hpick : s.pick dialog = (some path, { s with world := (s.world.pick dialog).2 }) := by
    rw [← h]
    rfl
  rw [asking, hpick]

theorem obey_save_ig {s : Session R H} {path : Path} {disk : Disk}
    (hpath : (s.world.pick .saveImage).1 = some path)
    (hsave : s.canvas.save s.world.disk path.asImage = .ok disk) (origin : Origin) :
    ∃ w, { s.world with disk := disk }.Undisturbed w ∧
      s.obey ⟨"save_ig", []⟩ origin = (.fileDone, { s with world := w }) := by
  have hcommand : s.commandOf ⟨"save_ig", []⟩ origin = some (.session .saveImage) :=
    s.commandOf_of_validate_session rfl (by decide) origin
  have hdisk : (s.world.pick .saveImage).2.disk = s.world.disk := rfl
  rw [obey_of_commandOf_session hcommand, request, saveImage_eq, asking_of_pick hpath]
  dsimp only
  rw [hdisk, hsave]
  -- Behind the disk that was written there are only the journal and a message.
  let written : World H := { (s.world.pick .saveImage).2 with disk := disk }
  have hwritten : { s.world with disk := disk }.Undisturbed written := ⟨rfl, .refl _⟩
  exact ⟨_, (hwritten.trans (.record written _)).trans (.report _ _), rfl⟩

theorem obey_load_ig {s : Session R H} {path : Path} {canvas : Canvas R}
    (hpath : (s.world.pick .loadImage).1 = some path)
    (hload : s.canvas.load s.world.disk path = .ok canvas) (origin : Origin) :
    ∃ w, s.world.Undisturbed w ∧ s.obey ⟨"load_ig", []⟩ origin =
      (.fileDone, { s with canvas := canvas, dirty := true, world := w }) := by
  have hcommand : s.commandOf ⟨"load_ig", []⟩ origin = some (.session .loadImage) :=
    s.commandOf_of_validate_session rfl (by decide) origin
  have hdisk : (s.world.pick .loadImage).2.disk = s.world.disk := rfl
  rw [obey_of_commandOf_session hcommand, request, loadImage_eq, asking_of_pick hpath]
  dsimp only
  rw [hdisk, hload]
  exact ⟨_, ((World.Undisturbed.pick s.world _).trans (.record _ _)).trans (.report _ _), rfl⟩

/-- A scene with finite numbers, each of which is read as it was written, is what an image of it
    holds. Once the file could be written, loading it draws the scene on top of what is on any
    canvas, again if it is there already, and leaves the size of the canvas and the turtle alone; a
    blank canvas has that scene and no other. In a session, saving changes nothing but the disk;
    loading, in this session or in another, changes nothing but the canvas, so that the log, what
    can be redone and the pen are what they were, and a new session has that scene and no other. -/
theorem images_round_trip {c : Canvas Float}
    (hfinite : ∀ x ∈ c.scene.scalars, x.isFinite = true)
    (hreads : ∀ x ∈ c.scene.scalars, Scalar.ReadsBack x) :
    let onTop (c' : Canvas Float) : Canvas Float := { c' with scene := c'.scene.append c.scene }
    (∀ disk path saved, c.save disk path = .ok saved →
      (∀ c' : Canvas Float, c'.load saved path = .ok (onTop c')) ∧
      (∀ c' : Canvas Float,
        (c'.load saved path >>= fun d => d.load saved path) = .ok (onTop (onTop c'))) ∧
      ∀ width height, (Canvas.blank width height).load saved path =
        .ok { Canvas.blank width height with scene := c.scene }) ∧
    ∀ (s : Session Float H) path saved origin, s.canvas = c →
      (s.world.pick .saveImage).1 = some path →
      c.save s.world.disk path.asImage = .ok saved →
      (∃ w, { s.world with disk := saved }.Undisturbed w ∧
        s.obey ⟨"save_ig", []⟩ origin = (.fileDone, { s with world := w }) ∧
        (¬s.world.JournalAt (saved.locationOf path.asImage) →
          w.disk.open? path.asImage = saved.open? path.asImage)) ∧
      ∀ (t : Session Float H) path' origin', (t.world.pick .loadImage).1 = some path' →
        t.world.disk.open? path' = saved.open? path.asImage →
        ∃ t', t.obey ⟨"load_ig", []⟩ origin' = (.fileDone, t') ∧ t.world.Undisturbed t'.world ∧
          t' = { t with canvas := onTop t.canvas, dirty := true, world := t'.world } ∧
          ∀ settings v, t = ofSettings settings v → t'.canvas.scene = c.scene := by
  intro onTop
  have hscene (x : Float) (hx : x ∈ c.scene.scalars) : Scalar.Kept x :=
    ⟨(Binary64.isSome_toNumeral?_iff x).2 (hfinite x hx), hreads x hx⟩
  have hblank (width height : UInt16) :
      onTop (Canvas.blank width height) = { Canvas.blank width height with scene := c.scene } := by
    simp only [onTop, Canvas.blank, Scene.empty_append]
  refine ⟨fun disk path saved hsave => ?_, ?_⟩
  · have hload := Canvas.load_of_save hscene hsave
    refine ⟨hload, fun c' => ?_, fun width height => ?_⟩
    · rw [hload c']
      exact hload (onTop c')
    · rw [← hblank]
      exact hload _
  · rintro s path saved origin rfl hpath hsave
    obtain ⟨w, hw, hobey⟩ := obey_save_ig hpath hsave origin
    refine ⟨⟨w, hw, hobey, fun hjournal => hw.disk.open? hjournal⟩, ?_⟩
    intro t path' origin' hpath' hopen
    have hfile := hopen.trans (Canvas.open?_of_save hsave)
    obtain ⟨w', hw', hobey'⟩ := obey_load_ig hpath' (Canvas.load_of_open? hscene hfile _) origin'
    refine ⟨_, hobey', hw', rfl, ?_⟩
    -- A new session has an empty scene, so that nothing is below the image.
    rintro settings v rfl
    exact s.canvas.scene.empty_append

/-- A stroke and a ring are saved, and loaded on top of themselves and in a new session. -/
theorem images_round_trip_ring :
    let scene : Scene Float := ⟨#[⟨⟨0, 0⟩, ⟨0.1, -9⟩, ⟨0, 0, 255⟩, 1⟩],
      #[⟨⟨0.1, -9⟩, 2.5e20, ⟨255, 0, 0⟩, 2⟩]⟩
    let c : Canvas Float := ⟨40, 30, ⟨0.1, -9⟩, 90, scene⟩
    let saving : Console := ⟨Text.encode "pic\n", "", false⟩
    let loading : Console := ⟨Text.encode "pic.scene.json\n", "", false⟩
    let s : Session Float Console := start c Pen.standard ⟨saving, ⟨[], [], []⟩, Journal.silent⟩
    let image := Path.ofText "pic.scene.json"
    ∃ saved, c.save ⟨[], [], []⟩ image = .ok saved ∧
      c.load saved image = .ok { c with scene := scene.append scene } ∧
      (s.obey ⟨"save_ig", []⟩ .user).1 = .fileDone ∧
      let t : Session Float Console :=
        ofSettings Settings.standard ⟨loading, saved, Journal.silent⟩
      ∃ t', t.obey ⟨"load_ig", []⟩ .user = (.fileDone, t') ∧ t'.canvas.scene = scene ∧
        t'.timeline = t.timeline ∧ t'.pen = t.pen := by
  intro scene c saving loading s image
  have hfinite : ∀ x ∈ c.scene.scalars, x.isFinite = true := by decide +kernel
  have hreads : ∀ x ∈ c.scene.scalars, Scalar.ReadsBack x := by decide +kernel
  have hpath : (Host.pick .saveImage saving).1 = some (Path.ofText "pic") := by decide +kernel
  have hpath' : (Host.pick .loadImage loading).1 = some image := by decide +kernel
  have himage : (Path.ofText "pic").asImage = image := by decide +kernel
  have hsave : c.save ⟨[], [], []⟩ image =
      .ok ⟨[([Text.encode "pic.scene.json"], .file scene.encode)], [], []⟩ := by decide +kernel
  obtain ⟨hcanvas, hsession⟩ := images_round_trip (H := Console) hfinite hreads
  obtain ⟨⟨w, -, hobey, -⟩, hload⟩ := hsession s _ _ .user rfl hpath (himage ▸ hsave)
  refine ⟨_, hsave, (hcanvas _ _ _ hsave).1 c, congrArg Prod.fst hobey, ?_⟩
  intro t
  obtain ⟨t', hobey', -, ht', hscene⟩ := hload t image .user hpath' (congrArg _ himage.symm)
  exact ⟨t', hobey', hscene _ _ rfl, ht' ▸ rfl, ht' ▸ rfl⟩

end Turtle.Session

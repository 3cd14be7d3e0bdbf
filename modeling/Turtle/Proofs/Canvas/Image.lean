import Turtle.Binary64.Scalar
import Turtle.Canvas
import Turtle.Proofs.Attempts
import Turtle.Proofs.Binary64.Unpacked
import Turtle.Proofs.Canvas.Drawing
import Turtle.Proofs.Disk.Written
import Turtle.Proofs.Json.Written

/-!
# Images

An image is a scene in JSON: two arrays of structures, with places, colors and widths in them. It
is read back as that scene, stroke for stroke and ring for ring, if each of its numbers is read as
it was written. That is a hypothesis on the numbers, for it is a matter of their digits and not of
the image around them.

* `Scalar.ReadsBack` says of a number that its text is read as that number;
* `Json.Carries` says of a value in JSON what it is taken for when it has been written and read;
* `Scene.decode?_encode`: the bytes of a scene hold that scene;
* `Canvas.load_of_save`: an image that was saved is drawn on top of what is on any canvas.
-/

namespace Turtle

/-! ## Numbers -/

namespace Binary64

/-- The doubles that have a numeral are the finite ones. -/
theorem isSome_toNumeral?_iff (x : Float) :
    (toNumeral? x).isSome = true ↔ x.isFinite = true := by
  rw [toNumeral?, Option.isSome_map, parts?_eq, isSome_partsOf?]
  rfl

end Binary64

namespace Scalar

variable {R : Type} [Scalar R]

/-- The text of a number, if it has one, is read as that number. -/
def ReadsBack (x : R) : Prop :=
  ∀ n, toNumeral? x = some n → (Numeral.read? n.write).bind ofNumeral? = some x

instance [DecidableEq R] (x : R) : Decidable (ReadsBack x) :=
  match h : toNumeral? x with
  | none => .isTrue fun n hn => nomatch h.symm.trans hn
  | some n =>
    decidable_of_iff ((Numeral.read? n.write).bind ofNumeral? = some x) (by simp [ReadsBack, h])

/-- The number has a text, which is read as that number. -/
structure Kept (x : R) : Prop where
  isSome : (toNumeral? x).isSome = true
  readsBack : ReadsBack x

end Scalar

namespace Json

/-! ## Values that are read back -/

/-- When the value has been written, what is read is taken for `a`. -/
def Carries {α : Type} (read? : Json → Option α) (v : Json) (a : α) : Prop :=
  ∃ v', ReadAs v v' ∧ read? v' = some a

theorem carries_ofNat (b : UInt8) : Carries byte? (.ofNat b.toNat) b := by
  refine ⟨_, .ofNat b.toNat, ?_⟩
  rw [ofNat, byte?, Numeral.natural?_ofNat, Option.bind_some, uint8OfNat?, if_pos b.toNat_lt_size,
    UInt8.ofNat_toNat]

/-- The items of an array are read back one by one. -/
theorem exists_readAs_items {α : Type} {read? : Json → Option α} {write : α → Json} {l : List α}
    (h : ∀ a ∈ l, Carries read? (write a) a) :
    ∃ items, ReadAs (.array (l.map write)) (.array items) ∧ items.mapM read? = some l := by
  have hitems : ∃ items, List.Forall₂ ReadAs (l.map write) items ∧
      List.Forall₂ (fun v a => read? v = some a) items l := by
    induction l with
    | nil => exact ⟨[], .nil, .nil⟩
    | cons a l ih =>
      obtain ⟨⟨v, hv, hread⟩, hl⟩ := List.forall_mem_cons.1 h
      obtain ⟨items, hitems, hreads⟩ := ih hl
      exact ⟨v :: items, .cons hv hitems, .cons hread hreads⟩
  obtain ⟨items, hitems, hreads⟩ := hitems
  exact ⟨items, .array hitems, mapM_eq_some_iff.2 hreads⟩

/-- Every name finds its member, if there is only one with that name. -/
theorem member?_of_nodup {members : List (String × Json)} (h : (members.map Prod.fst).Nodup)
    {m : String × Json} (hm : m ∈ members) : member? members m.1 = some m.2 := by
  have hfilter : members.filter (fun a => a.1 == m.1) = [m] := by
    induction members with
    | nil => cases hm
    | cons a members ih =>
      obtain ⟨ha, hmembers⟩ := List.nodup_cons.1 h
      rcases List.mem_cons.1 hm with rfl | hm
      · have hrest : members.filter (fun a => a.1 == m.1) = [] := by
          refine List.filter_eq_nil_iff.2 fun a hmem heq => ha ?_
          exact eq_of_beq heq ▸ List.mem_map_of_mem hmem
        rw [List.filter_cons, if_pos (beq_self_eq_true m.1), hrest]
      · have hne : ¬(a.1 == m.1) = true := by
          intro heq
          exact ha (eq_of_beq heq ▸ List.mem_map_of_mem hm)
        rw [List.filter_cons, if_neg hne, ih hmembers hm]
  rw [member?, hfilter]

/-- The fields of a structure are found under their names. -/
theorem fields?_fieldsJson {fields : List (String × Json)}
    (hplain : ∀ f ∈ fields, Lexer.IsPlain (Text.encode f.1))
    (hnodup : (fields.map Prod.fst).Nodup) :
    (fieldsJson fields).fields? (fields.map Prod.fst) = some (fields.map Prod.snd) := by
  have hnamed : (fields.map fun f => (Text.encode f.1, f.2)).mapM
      (fun m => (decodeString? m.1).map fun name => (name, m.2)) = some fields := by
    refine mapM_eq_some_iff.2 (List.forall₂_map_left_iff.2 (List.forall₂_same.2 fun f hf => ?_))
    rw [decodeString?_encode (hplain f hf)]
    rfl
  have hvalues : (fields.map Prod.fst).mapM (member? fields) = some (fields.map Prod.snd) := by
    refine mapM_eq_some_iff.2 (List.forall₂_map_left_iff.2 (List.forall₂_map_right_iff.2 ?_))
    exact List.forall₂_same.2 fun f hf => member?_of_nodup hnodup hf
  rw [fieldsJson, fields?, hnamed]
  exact hvalues

/-- A structure is read as one from which the same names get what its values are read as. -/
theorem exists_readAs_fieldsJson (names : List String)
    (hplain : ∀ name ∈ names, Lexer.IsPlain (Text.encode name)) (hnodup : names.Nodup)
    {values values' : List Json} (hlength : names.length = values.length)
    (h : List.Forall₂ ReadAs values values') :
    ∃ v, ReadAs (fieldsJson (names.zip values)) v ∧ v.fields? names = some values' := by
  have hlength' : names.length = values'.length := hlength.trans h.length_eq
  have hplain' : ∀ f ∈ names.zip values', Lexer.IsPlain (Text.encode f.1) :=
    fun f hf => hplain f.1 (List.of_mem_zip hf).1
  have hfields := fields?_fieldsJson hplain' (by rwa [List.map_fst_zip hlength'.le])
  rw [List.map_fst_zip hlength'.le, List.map_snd_zip hlength'.ge] at hfields
  refine ⟨_, .object ?_, hfields⟩
  clear hfields hplain' hnodup
  induction h generalizing names with
  | nil => simp
  | cons hvalue _ ih =>
    rcases names with _ | ⟨name, names⟩
    · cases hlength
    · obtain ⟨hname, hnames⟩ := List.forall_mem_cons.1 hplain
      refine .cons ⟨rfl, hname, hvalue⟩ ?_
      exact ih names hnames (Nat.succ.inj hlength) (Nat.succ.inj hlength')

end Json

/-! ## Scenes -/

section Image

variable {R : Type} [Scalar R]

/-- The numbers of a stroke. -/
def Stroke.scalars (s : Stroke R) : List R :=
  [s.start.x, s.start.y, s.stop.x, s.stop.y]

/-- The numbers of a ring. -/
def Ring.scalars (r : Ring R) : List R :=
  [r.center.x, r.center.y, r.radius]

/-- The numbers of a scene. -/
def Scene.scalars (s : Scene R) : List R :=
  s.strokes.toList.flatMap Stroke.scalars ++ s.rings.toList.flatMap Ring.scalars

theorem carries_scalarJson {x : R} (h : Scalar.Kept x) :
    Json.Carries scalar? (scalarJson x) x := by
  obtain ⟨n, hn⟩ := Option.isSome_iff_exists.1 h.isSome
  obtain ⟨m, hm, hxm⟩ := Option.bind_eq_some_iff.1 (h.readsBack n hn)
  refine ⟨.number m, ?_, hxm⟩
  rw [scalarJson, hn]
  exact .number hm

theorem Point.carries_toJson {p : Point R} (hx : Scalar.Kept p.x) (hy : Scalar.Kept p.y) :
    Json.Carries Point.ofJson? p.toJson p := by
  obtain ⟨x, hx, hreadx⟩ := carries_scalarJson hx
  obtain ⟨y, hy, hready⟩ := carries_scalarJson hy
  refine ⟨.array [x, y], .array (.cons hx (.cons hy .nil)), ?_⟩
  simp [Point.ofJson?, hreadx, hready]

theorem Ink.carries_toJson (i : Ink) : Json.Carries Ink.ofJson? i.toJson i := by
  obtain ⟨r, hr, hreadr⟩ := Json.carries_ofNat i.red
  obtain ⟨g, hg, hreadg⟩ := Json.carries_ofNat i.green
  obtain ⟨b, hb, hreadb⟩ := Json.carries_ofNat i.blue
  refine ⟨.array [r, g, b], .array (.cons hr (.cons hg (.cons hb .nil))), ?_⟩
  simp [Ink.ofJson?, hreadr, hreadg, hreadb]

theorem Stroke.carries_toJson {s : Stroke R} (h : ∀ x ∈ s.scalars, Scalar.Kept x) :
    Json.Carries Stroke.ofJson? s.toJson s := by
  simp only [Stroke.scalars, List.forall_mem_cons] at h
  obtain ⟨hstartx, hstarty, hstopx, hstopy, -⟩ := h
  obtain ⟨start, hstart, hreadstart⟩ := Point.carries_toJson hstartx hstarty
  obtain ⟨stop, hstop, hreadstop⟩ := Point.carries_toJson hstopx hstopy
  obtain ⟨ink, hink, hreadink⟩ := s.ink.carries_toJson
  obtain ⟨width, hwidth, hreadwidth⟩ := Json.carries_ofNat s.width
  obtain ⟨v, hv, hfields⟩ := Json.exists_readAs_fieldsJson
    ["from", "to", "color", "width"] (by decide) (by decide) rfl
    (.cons hstart (.cons hstop (.cons hink (.cons hwidth .nil))))
  refine ⟨v, hv, ?_⟩
  simp [Stroke.ofJson?, hfields, hreadstart, hreadstop, hreadink, hreadwidth]

theorem Ring.carries_toJson {r : Ring R} (h : ∀ x ∈ r.scalars, Scalar.Kept x) :
    Json.Carries Ring.ofJson? r.toJson r := by
  simp only [Ring.scalars, List.forall_mem_cons] at h
  obtain ⟨hcenterx, hcentery, hradius, -⟩ := h
  obtain ⟨center, hcenter, hreadcenter⟩ := Point.carries_toJson hcenterx hcentery
  obtain ⟨radius, hradius, hreadradius⟩ := carries_scalarJson hradius
  obtain ⟨ink, hink, hreadink⟩ := r.ink.carries_toJson
  obtain ⟨width, hwidth, hreadwidth⟩ := Json.carries_ofNat r.width
  obtain ⟨v, hv, hfields⟩ := Json.exists_readAs_fieldsJson
    ["center", "radius", "color", "width"] (by decide) (by decide) rfl
    (.cons hcenter (.cons hradius (.cons hink (.cons hwidth .nil))))
  refine ⟨v, hv, ?_⟩
  simp [Ring.ofJson?, hfields, hreadcenter, hreadradius, hreadink, hreadwidth]

namespace Scene

theorem carries_toJson {s : Scene R} (h : ∀ x ∈ s.scalars, Scalar.Kept x) :
    Json.Carries ofJson? s.toJson s := by
  have hstroke (stroke : Stroke R) (hmem : stroke ∈ s.strokes.toList) :
      Json.Carries Stroke.ofJson? stroke.toJson stroke := by
    refine Stroke.carries_toJson fun x hx => h x ?_
    exact List.mem_append_left _ (List.mem_flatMap.2 ⟨stroke, hmem, hx⟩)
  have hring (ring : Ring R) (hmem : ring ∈ s.rings.toList) :
      Json.Carries Ring.ofJson? ring.toJson ring := by
    refine Ring.carries_toJson fun x hx => h x ?_
    exact List.mem_append_right _ (List.mem_flatMap.2 ⟨ring, hmem, hx⟩)
  obtain ⟨strokes, hstrokes, hreadstrokes⟩ := Json.exists_readAs_items hstroke
  obtain ⟨rings, hrings, hreadrings⟩ := Json.exists_readAs_items hring
  obtain ⟨v, hv, hfields⟩ := Json.exists_readAs_fieldsJson
    ["strokes", "rings"] (by decide) (by decide) rfl
    (.cons hstrokes (.cons hrings .nil))
  refine ⟨v, hv, ?_⟩
  simp [ofJson?, hfields, Json.items?, hreadstrokes, hreadrings]

/-- The bytes of a scene hold that scene. -/
theorem decode?_encode {s : Scene R} (h : ∀ x ∈ s.scalars, Scalar.Kept x) :
    decode? s.encode = some s := by
  obtain ⟨v, hv, hread⟩ := carries_toJson h
  rw [decode?, encode, Json.parse?_write hv]
  exact hread

end Scene

namespace Canvas

variable {c : Canvas R} {disk saved : Disk} {path : Path}

theorem load_of_open? {s : Scene R} (h : ∀ x ∈ s.scalars, Scalar.Kept x)
    (hopen : disk.open? path = .ok (.file s.encode)) (c : Canvas R) :
    c.load disk path = .ok { c with scene := c.scene.append s } := by
  rw [load, hopen]
  dsimp only
  rw [Scene.decode?_encode h]

/-- What has been saved is in the file. -/
theorem open?_of_save (h : c.save disk path = .ok saved) :
    saved.open? path = .ok (.file c.scene.encode) := by
  rw [save] at h
  split at h
  · next new hwrite =>
    obtain rfl : new = saved := Except.ok.inj h
    exact Disk.open?_write hwrite
  · cases h

/-- An image that has been saved is drawn on top of what is on a canvas. -/
theorem load_of_save (hscene : ∀ x ∈ c.scene.scalars, Scalar.Kept x)
    (h : c.save disk path = .ok saved) (c' : Canvas R) :
    c'.load saved path = .ok { c' with scene := c'.scene.append c.scene } :=
  load_of_open? hscene (open?_of_save h) c'

end Canvas

end Image

end Turtle

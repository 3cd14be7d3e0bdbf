import Mathlib.Tactic.Common
import Turtle.Proofs.Attempts
import Turtle.Verb

/-!
# Numbers in range

What the checks of the verbs let through. A distance lies between 1 and 200, a pen width between
1 and 10, a polygon has between 3 and 12 sides; degrees and color components are free. The ranges
are said here of primitives, shapes and commands, apart from the verbs that check them.

* `Statement.inRange_of_validate`: the command of a valid statement is in range;
* `Command.exists_primitives?`: a command in range that draws has an expansion, and with a pen of
  valid width all of it is in range.
-/

namespace Turtle

/-- A number that is accepted as a distance, a side or a radius. -/
def IsDistance (n : Int32) : Prop := 1 ≤ n ∧ n ≤ 200

/-- A number that is accepted as a pen width. -/
def IsPenWidth (w : UInt8) : Prop := 1 ≤ w ∧ w ≤ 10

/-- The numbers of a primitive are such as the verbs accept. -/
def Primitive.InRange : Primitive → Prop
  | move d | reverse d | circle d => IsDistance d
  | penWidth w => IsPenWidth w
  | left _ | right _ | penUp | penDown | color _ | pen _ | reset => True

/-- The numbers of a shape are such as the verbs accept. -/
def Shape.InRange : Shape → Prop
  | square n | triangle n | circle n => IsDistance n
  | triangleSides a b c => IsDistance a ∧ IsDistance b ∧ IsDistance c
  | polygon sides length => (3 ≤ sides ∧ sides ≤ 12) ∧ IsDistance length

/-- The numbers of a command are such as the verbs accept. -/
def Command.InRange : Command → Prop
  | primitive p => p.InRange
  | shape s => s.InRange
  | session _ => True

/-! ## Pens -/

/-- A primitive in range leaves the width of the pen valid. -/
theorem Pen.isPenWidth_apply {pen : Pen} (h : IsPenWidth pen.width) {p : Primitive}
    (hp : p.InRange) : IsPenWidth (pen.apply p).width := by
  cases p with
  | penWidth w => exact hp
  | _ => exact h

theorem Pen.isPenWidth_foldl_apply {pen : Pen} (h : IsPenWidth pen.width) {ps : List Primitive}
    (hps : ∀ p ∈ ps, p.InRange) : IsPenWidth (ps.foldl Pen.apply pen).width := by
  induction ps generalizing pen with
  | nil => exact h
  | cons p ps ih =>
    exact ih (Pen.isPenWidth_apply h (hps p List.mem_cons_self))
      fun q hq => hps q (List.mem_cons_of_mem _ hq)

theorem Pen.inRange_of_mem_snapshot {pen : Pen} (h : IsPenWidth pen.width) {p : Primitive}
    (hp : p ∈ pen.snapshot) : p.InRange := by
  simp only [Pen.snapshot, List.mem_cons, List.not_mem_nil, or_false] at hp
  rcases hp with rfl | rfl | rfl
  · trivial
  · exact h
  · split <;> trivial

/-! ## Shapes -/

/-- The sides and turns of a path are in range if its lengths are. -/
theorem inRange_of_mem_sidesOf {turn : Int32} {closing : Bool} {lengths : List Int32}
    (h : ∀ n ∈ lengths, IsDistance n) {p : Primitive} (hp : p ∈ sidesOf turn closing lengths) :
    p.InRange := by
  rcases eq_of_mem_sidesOf hp with rfl | ⟨length, hmem, rfl⟩
  · trivial
  · exact h length hmem

/-- A shape in range has a body, and all of it is in range. -/
theorem Shape.exists_body? {s : Shape} (h : s.InRange) :
    ∃ ps, s.body? = some ps ∧ ∀ p ∈ ps, p.InRange := by
  cases s with
  | square n =>
    exact ⟨_, rfl, fun p => inRange_of_mem_sidesOf fun m hm => (List.mem_replicate.1 hm).2 ▸ h⟩
  | triangle n =>
    exact ⟨_, rfl, fun p => inRange_of_mem_sidesOf fun m hm => (List.mem_replicate.1 hm).2 ▸ h⟩
  | triangleSides a b c =>
    obtain ⟨ha, hb, hc⟩ := h
    refine ⟨_, rfl, fun p => inRange_of_mem_sidesOf fun m hm => ?_⟩
    simp only [List.mem_cons, List.not_mem_nil, or_false] at hm
    rcases hm with rfl | rfl | rfl <;> assumption
  | circle n =>
    refine ⟨_, rfl, fun p hp => ?_⟩
    rw [List.mem_singleton.1 hp]
    exact h
  | polygon sides length =>
    obtain ⟨⟨h3, -⟩, hlength⟩ := h
    -- With three sides or more the division that gives the turn is defined.
    have hne : sides ≠ 0 := by
      rintro rfl
      exact absurd h3 (by decide)
    refine ⟨_, by rw [Shape.body?, exteriorAngle?, if_neg hne]; rfl, fun p => ?_⟩
    exact inRange_of_mem_sidesOf fun m hm => (List.mem_replicate.1 hm).2 ▸ hlength

/-! ## Commands -/

/-- The primitives that a command draws with a pen, if it is one that draws. -/
def Command.primitives? (pen : Pen) : Command → Option (List Primitive)
  | primitive p => some [p]
  | shape s => s.expand? pen
  | session _ => none

/-- A command in range either draws, or is a request to the session. -/
theorem Command.exists_primitives? {c : Command} (h : c.InRange) (pen : Pen) :
    (∃ ps, c.primitives? pen = some ps) ∨ ∃ request, c = session request := by
  cases c with
  | primitive p => exact .inl ⟨_, rfl⟩
  | shape s =>
    obtain ⟨ps, hps, -⟩ := Shape.exists_body? h
    exact .inl ⟨pen.snapshot ++ ps, by rw [primitives?, Shape.expand?, hps]; rfl⟩
  | session request => exact .inr ⟨request, rfl⟩

/-- What a command in range draws with a pen of valid width is in range. -/
theorem Command.inRange_of_mem_primitives? {c : Command} (h : c.InRange) {pen : Pen}
    (hpen : IsPenWidth pen.width) {ps : List Primitive} (hps : c.primitives? pen = some ps)
    {p : Primitive} (hp : p ∈ ps) : p.InRange := by
  cases c with
  | primitive q =>
    cases hps
    exact List.mem_singleton.1 hp ▸ h
  | shape s =>
    obtain ⟨body, hbody, hin⟩ := Shape.exists_body? h
    rw [primitives?, Shape.expand?, hbody, Option.map_some, Option.some.injEq] at hps
    subst hps
    rcases List.mem_append.1 hp with hp | hp
    exacts [Pen.inRange_of_mem_snapshot hpen hp, hin p hp]
  | session _ => cases hps

/-! ## Valid statements -/

namespace Verb

theorem checkDistance_eq_ok_iff {n m : Int32} : checkDistance n = .ok m ↔ IsDistance n ∧ m = n := by
  rw [checkDistance, IsDistance]
  split
  · next h => exact ⟨fun e => ⟨h, (Except.ok.inj e).symm⟩, fun e => e.2 ▸ rfl⟩
  · next h => exact ⟨fun e => (nomatch e), fun e => absurd e.1 h⟩

theorem checkSides_eq_ok_iff {n m : Int32} :
    checkSides n = .ok m ↔ (3 ≤ n ∧ n ≤ 12) ∧ m = n := by
  rw [checkSides]
  split
  · next h => exact ⟨fun e => ⟨h, (Except.ok.inj e).symm⟩, fun e => e.2 ▸ rfl⟩
  · next h => exact ⟨fun e => (nomatch e), fun e => absurd e.1 h⟩

theorem isDistance_of_distance {verb : String} {args : List String} {i : Nat} {n : Int32}
    (h : distance verb args i = .ok n) : IsDistance n := by
  obtain ⟨m, -, hm⟩ := bind_eq_ok_iff.1 h
  obtain ⟨hm, rfl⟩ := checkDistance_eq_ok_iff.1 hm
  exact hm

/-- The width that passes the check is the number given, as a byte. -/
theorem isPenWidth_of_checkWidth {n : Int32} {w : UInt8} (h : checkWidth n = .ok w) :
    IsPenWidth w := by
  rw [checkWidth] at h
  split at h
  · next hn =>
    have hlo : (1 : Int) ≤ n.toInt := Int32.le_iff_toInt_le.1 hn.1
    have hhi : n.toInt ≤ (10 : Int) := Int32.le_iff_toInt_le.1 hn.2
    rw [← Except.ok.inj h, IsPenWidth, UInt8.le_iff_toNat_le, UInt8.le_iff_toNat_le,
      UInt8.toNat_ofNat']
    constructor
    · show 1 ≤ _
      omega
    · show _ ≤ 10
      omega
  · cases h

/-! ### What the verbs build -/

variable {args : List String} {c : Command}

theorem inRange_ofDistance {verb : String} {make : Int32 → Command}
    (h : ofDistance verb make args = .ok c) (hmake : ∀ n, IsDistance n → (make n).InRange) :
    c.InRange := by
  obtain ⟨n, hn, rfl⟩ := map_eq_ok_iff.1 h
  exact hmake n (isDistance_of_distance hn)

theorem inRange_ofDegrees {verb : String} {make : Int32 → Primitive}
    (h : ofDegrees verb make args = .ok c) (hmake : ∀ n, (make n).InRange) : c.InRange := by
  obtain ⟨n, -, rfl⟩ := map_eq_ok_iff.1 h
  exact hmake n

theorem inRange_buildPen (h : buildPen args = .ok c) : c.InRange := by
  obtain ⟨_, -, h⟩ := bind_eq_ok_iff.1 h
  obtain ⟨_, -, h⟩ := bind_eq_ok_iff.1 h
  obtain ⟨_, -, h⟩ := bind_eq_ok_iff.1 h
  cases h
  trivial

theorem inRange_buildPenWidth (h : buildPenWidth args = .ok c) : c.InRange := by
  obtain ⟨_, -, h⟩ := bind_eq_ok_iff.1 h
  obtain ⟨w, hw, h⟩ := bind_eq_ok_iff.1 h
  cases h
  exact isPenWidth_of_checkWidth hw

theorem inRange_buildTriangle (h : buildTriangle args = .ok c) : c.InRange := by
  rw [buildTriangle] at h
  split at h
  · obtain ⟨a, ha, h⟩ := bind_eq_ok_iff.1 h
    cases h
    exact isDistance_of_distance ha
  · obtain ⟨a, ha, h⟩ := bind_eq_ok_iff.1 h
    obtain ⟨b, hb, h⟩ := bind_eq_ok_iff.1 h
    obtain ⟨d, hd, h⟩ := bind_eq_ok_iff.1 h
    cases h
    exact ⟨isDistance_of_distance ha, isDistance_of_distance hb, isDistance_of_distance hd⟩
  · cases h

theorem inRange_buildPolygon (h : buildPolygon args = .ok c) : c.InRange := by
  obtain ⟨_, -, h⟩ := bind_eq_ok_iff.1 h
  obtain ⟨_, -, h⟩ := bind_eq_ok_iff.1 h
  obtain ⟨sides, hs, h⟩ := bind_eq_ok_iff.1 h
  obtain ⟨length, hl, h⟩ := bind_eq_ok_iff.1 h
  cases h
  obtain ⟨hs, rfl⟩ := checkSides_eq_ok_iff.1 hs
  obtain ⟨hl, rfl⟩ := checkDistance_eq_ok_iff.1 hl
  exact ⟨hs, hl⟩

theorem inRange_plain {name summary : String} {command : Command}
    (h : (plain name summary command).build args = .ok c) (hc : command.InRange) : c.InRange := by
  cases h
  exact hc

/-- Whatever a verb of the table builds is in range. -/
theorem inRange_build {verb : Verb} (hverb : verb ∈ table) (h : verb.build args = .ok c) :
    c.InRange := by
  simp only [table, List.mem_cons, List.not_mem_nil, or_false] at hverb
  rcases hverb with rfl | rfl | rfl | rfl | rfl | rfl | rfl | rfl | rfl | rfl | rfl | rfl | rfl |
    rfl | rfl | rfl | rfl | rfl | rfl | rfl | rfl | rfl | rfl | rfl | rfl | rfl
  all_goals first
    | exact inRange_plain h trivial
    | exact inRange_ofDistance h fun _ hn => hn
    | exact inRange_ofDegrees h fun _ => trivial
    | exact inRange_buildPen h
    | exact inRange_buildPenWidth h
    | exact inRange_buildTriangle h
    | exact inRange_buildPolygon h

end Verb

/-- The command of a valid statement is in range. -/
theorem Statement.inRange_of_validate {s : Statement} {c : Command} (h : s.validate = .ok c) :
    c.InRange := by
  rw [Statement.validate] at h
  split at h
  · cases h
  · next verb hverb =>
    split at h
    · cases h
    · exact Verb.inRange_build (List.mem_of_find?_eq_some hverb) h

end Turtle

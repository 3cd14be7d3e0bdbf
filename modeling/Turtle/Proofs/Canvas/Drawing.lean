import Mathlib.Tactic.Common
import Turtle.Canvas

/-!
# Drawing on a canvas

What primitives add to a canvas. Each is drawn with the pen it leaves, and what it adds to the
scene comes behind what is there: it depends on the position and the heading of the turtle and on
the pen, but neither on the scene nor on the size of the canvas.

* `Canvas.applyAll` draws several primitives;
* `Canvas.Aligned.exists_applyAll`: on two canvases with the turtle in the same place, the same
  primitives add the same strokes and rings, and leave the turtle in the same place again.
-/

namespace Turtle

namespace Scene

variable {R : Type}

theorem append_assoc (s t u : Scene R) : (s.append t).append u = s.append (t.append u) := by
  simp only [append, Array.append_assoc]

@[simp]
theorem append_empty (s : Scene R) : s.append {} = s := by
  simp only [append, Array.append_empty]

@[simp]
theorem empty_append (s : Scene R) : append {} s = s := by
  simp only [append, Array.empty_append]

end Scene

namespace Canvas

variable {R : Type} [Scalar R]

/-- The canvas after several primitives, each drawn with the pen as the primitive leaves it. -/
def applyAll (c : Canvas R) (pen : Pen) : List Primitive → Canvas R
  | [] => c
  | p :: ps => (c.apply (pen.apply p) p).applyAll (pen.apply p) ps

theorem applyAll_append (c : Canvas R) (pen : Pen) (ps qs : List Primitive) :
    c.applyAll pen (ps ++ qs) = (c.applyAll pen ps).applyAll (ps.foldl Pen.apply pen) qs := by
  induction ps generalizing c pen with
  | nil => rfl
  | cons p ps ih => exact ih _ _

/-- The turtle is in the same place on two canvases and looks the same way. -/
structure Aligned (a b : Canvas R) : Prop where
  position : a.position = b.position
  heading : a.heading = b.heading

namespace Aligned

variable {a b : Canvas R}

/-- A primitive adds the same to both canvases and keeps them aligned. -/
theorem exists_apply (h : Aligned a b) (pen : Pen) (p : Primitive) :
    ∃ new : Scene R, Aligned (a.apply pen p) (b.apply pen p) ∧
      (a.apply pen p).scene = a.scene.append new ∧
      (b.apply pen p).scene = b.scene.append new := by
  obtain ⟨hp, hh⟩ := h
  have same (d : Int32) : ∃ new : Scene R, Aligned (a.forward d pen) (b.forward d pen) ∧
      (a.forward d pen).scene = a.scene.append new ∧
      (b.forward d pen).scene = b.scene.append new := by
    cases hd : pen.down with
    | false => exact ⟨{}, ⟨by simp only [forward, hp, hh], hh⟩, by simp [forward, hd],
        by simp [forward, hd]⟩
    | true =>
      refine ⟨⟨#[⟨a.position, step a.position a.heading d, pen.color.ink, pen.width⟩], #[]⟩,
        ⟨by simp only [forward, hp, hh], hh⟩, ?_, ?_⟩
      · simp [forward, hd, Scene.append]
      · simp [forward, hd, Scene.append, hp, hh]
  cases p with
  | move d => exact same d
  | reverse d => exact same (-d)
  | left d | right d =>
    exact ⟨{}, ⟨hp, by simp only [apply, turn, hh]⟩, by simp [apply, turn], by simp [apply, turn]⟩
  | circle r =>
    cases hd : pen.down with
    | false => exact ⟨{}, by simpa [apply, circle, hd] using ⟨hp, hh⟩⟩
    | true =>
      refine ⟨⟨#[], #[⟨a.position, Scalar.ofInt r.toInt, pen.color.ink, pen.width⟩]⟩, ?_, ?_, ?_⟩
      · simpa only [apply, circle, hd, if_true] using ⟨hp, hh⟩
      · simp [apply, circle, hd, Scene.append]
      · simp [apply, circle, hd, Scene.append, hp]
  | reset => exact ⟨{}, ⟨rfl, rfl⟩, by simp [apply, reset], by simp [apply, reset]⟩
  | penUp | penDown | color _ | pen _ | penWidth _ =>
    exact ⟨{}, ⟨hp, hh⟩, (Scene.append_empty _).symm, (Scene.append_empty _).symm⟩

/-- Several primitives add the same to both canvases and keep them aligned. -/
theorem exists_applyAll (h : Aligned a b) (pen : Pen) (ps : List Primitive) :
    ∃ new : Scene R, Aligned (a.applyAll pen ps) (b.applyAll pen ps) ∧
      (a.applyAll pen ps).scene = a.scene.append new ∧
      (b.applyAll pen ps).scene = b.scene.append new := by
  induction ps generalizing a b pen with
  | nil => exact ⟨{}, h, (Scene.append_empty _).symm, (Scene.append_empty _).symm⟩
  | cons p ps ih =>
    obtain ⟨first, haligned, ha, hb⟩ := h.exists_apply (pen.apply p) p
    obtain ⟨rest, haligned, ha', hb'⟩ := ih haligned (pen.apply p)
    refine ⟨first.append rest, haligned, ?_, ?_⟩
    · rw [← Scene.append_assoc, ← ha]
      exact ha'
    · rw [← Scene.append_assoc, ← hb]
      exact hb'

end Aligned

/-- A canvas that was wiped and whose turtle was sent home is as good as a new one. -/
theorem aligned_blank (c : Canvas R) (width height : UInt16) :
    Aligned c.clear.reset (blank width height) := ⟨rfl, rfl⟩

/-- An image that can be loaded comes on top of the scene. -/
theorem eq_of_load {c loaded : Canvas R} {disk : Disk} {path : Path}
    (h : c.load disk path = .ok loaded) :
    ∃ image : Scene R, loaded = { c with scene := c.scene.append image } := by
  rw [load] at h
  split at h
  · cases h
  · cases h
  · split at h
    · cases h
    · exact ⟨_, (Except.ok.inj h).symm⟩

end Canvas

end Turtle

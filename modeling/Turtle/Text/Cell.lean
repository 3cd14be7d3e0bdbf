import Turtle.Text.Width

/-!
# Text in cells

A screen is a grid of cells. A grapheme cluster is painted in one cell, and if it is wide, the
cells behind that one stay empty.

* `glyphs` are the clusters of a text with their widths;
* `fit` are those that are painted where there is only so much room;
* `fit_cells_le`: they take no more cells than there are.
-/

namespace Turtle.Text

/-- What is painted in one cell, and how many cells it takes. -/
structure Glyph where
  text : List Char
  width : Nat
  deriving DecidableEq, Repr

/-- The glyphs of a text. -/
def glyphs (s : List Char) : List Glyph :=
  (graphemes s).map fun g => ⟨g, width g⟩

/-- The number of cells that glyphs take. -/
def cells (gs : List Glyph) : Nat :=
  gs.foldr (fun g n => g.width + n) 0

/-- The first glyphs, up to one for which there is no room. -/
def takeFitting (room : Nat) : List Glyph → List Glyph
  | [] => []
  | g :: gs => if g.width ≤ room then g :: takeFitting (room - g.width) gs else []

/-- The glyphs that are painted in some cells: the first ones that fit. Glyphs that take no cell,
and those that would not fit even by themselves, are passed over. -/
def fit (room : Nat) (gs : List Glyph) : List Glyph :=
  takeFitting room (gs.filter fun g => 0 < g.width && g.width ≤ room)

theorem takeFitting_cells_le (room : Nat) (gs : List Glyph) :
    cells (takeFitting room gs) ≤ room := by
  induction gs generalizing room with
  | nil => exact Nat.zero_le room
  | cons g gs ih =>
    rw [takeFitting]
    split
    case isTrue h =>
      have := ih (room - g.width)
      simp only [cells, List.foldr_cons] at this ⊢
      omega
    case isFalse => exact Nat.zero_le room

/-- Glyphs that fit take no more cells than there are. -/
theorem fit_cells_le (room : Nat) (gs : List Glyph) : cells (fit room gs) ≤ room :=
  takeFitting_cells_le room _

end Turtle.Text

import Turtle.Text.Cell
import Turtle.Text.Line

/-!
# Grids of cells

A screen while it is painted: a grid of cells, in which texts and boxes are painted one over the
other. Where there is no cell, nothing is painted.

Positions and sizes on a screen are numbers of 16 bits, as terminals have them.

* `Grid.paintText` paints the lines of a text in a rectangle and cuts what does not fit;
* `Grid.paintBox` paints a box with a title in its upper edge;
* `Grid.rows` is what can be seen of it all, for a wide glyph hides what is in the cells behind
  it.
-/

namespace Turtle

/-- A rectangle of cells. -/
structure Area where
  x : UInt16
  y : UInt16
  width : UInt16
  height : UInt16
  deriving DecidableEq, Repr

namespace Area

/-- The whole of a screen. -/
def whole (width height : UInt16) : Area := ⟨0, 0, width, height⟩

/-- Numbers that are taken away from nothing leave nothing. -/
def less (a b : UInt16) : UInt16 :=
  if b ≤ a then a - b else 0

/-- The cells within a border. -/
def inner (a : Area) : Area :=
  ⟨a.x + 1, a.y + 1, less a.width 2, less a.height 2⟩

/-- A rectangle without cells. -/
def isEmpty (a : Area) : Bool :=
  a.width == 0 || a.height == 0

/-- One rectangle lies within another. -/
def fitsIn (a b : Area) : Bool :=
  b.x ≤ a.x && b.y ≤ a.y && a.x.toNat + a.width.toNat ≤ b.x.toNat + b.width.toNat
    && a.y.toNat + a.height.toNat ≤ b.y.toNat + b.height.toNat

end Area

/-! ## Painting -/

/-- The cells of a screen, row by row, each with what is painted in it. -/
abbrev Grid := Array (Array (List Char))

namespace Grid

/-- What an empty cell holds. -/
def space : List Char := [' ']

/-- A screen with nothing on it. -/
def blank (width height : Nat) : Grid :=
  Array.replicate height (Array.replicate width space)

/-- Changes one cell, if it is on the screen. -/
def update (g : Grid) (x y : Nat) (f : List Char → List Char) : Grid :=
  g.modify y fun row => row.modify x f

/-- Paints one cell, if it is on the screen. -/
def set (g : Grid) (x y : Nat) (cell : List Char) : Grid :=
  g.update x y fun _ => cell

/-- Paints characters in cells of a row, one behind the other. -/
def paintChars (g : Grid) (x y : Nat) : List Char → Grid
  | [] => g
  | c :: cs => paintChars (g.set x y [c]) (x + 1) y cs

/-- Paints glyphs one after the other. Behind a wide one, its other cells are left as they are. -/
def paintGlyphs (g : Grid) (x y : Nat) : List Text.Glyph → Grid
  | [] => g
  | glyph :: glyphs => paintGlyphs (g.set x y glyph.text) (x + glyph.width) y glyphs

/-- Paints the lines of a text below each other, as many as there is room for, and cuts what does
not fit. -/
def paintText (g : Grid) (a : Area) (s : String) : Grid :=
  (((Text.lines s.toList).take a.height.toNat).zipIdx).foldl
    (fun g line =>
      g.paintGlyphs a.x.toNat (a.y.toNat + line.2) (Text.fit a.width.toNat (Text.glyphs line.1)))
    g

/-- Paints blanks over a rectangle. -/
def wipe (g : Grid) (a : Area) : Grid :=
  (List.range a.height.toNat).foldl
    (fun g row => g.paintChars a.x.toNat (a.y.toNat + row) (List.replicate a.width.toNat ' ')) g

/-! ### Titles -/

/-- Where a part of a title may be painted: columns of a row. -/
structure Span where
  start : Nat
  stop : Nat
  row : Nat

/-- Paints one glyph of a part of a title. What takes no cell joins the cell in front of it; where
there is none, in the first cell of the part, the next glyph joins it. The other cells of a wide
glyph are emptied. -/
def paintInTitle (g : Grid) (span : Span) (first : Bool) (x : Nat) (glyph : Text.Glyph) : Grid :=
  let g :=
    if first then g.set x span.row glyph.text
    else if x = span.start then g.update x span.row (· ++ glyph.text)
    else if glyph.width = 0 then g.update (x - 1) span.row (· ++ glyph.text)
    else g.set x span.row glyph.text
  g.paintChars (x + 1) span.row (List.replicate (glyph.width - 1) ' ')

/-- Paints the glyphs of a part of a title, up to the first one that does not fit. -/
def paintTitleFrom (g : Grid) (span : Span) (first : Bool) (x : Nat) : List Text.Glyph → Grid
  | [] => g
  | glyph :: glyphs =>
    if span.stop < x + glyph.width then g
    else paintTitleFrom (g.paintInTitle span first x glyph) span false (x + glyph.width) glyphs

/-- Paints a part of a title. -/
def paintPart (g : Grid) (span : Span) (s : List Char) : Grid :=
  if span.start < span.stop then g.paintTitleFrom span true span.start (Text.glyphs s) else g

/-- Paints the parts of a title behind each other, each as wide as its text. Parts that take no
cell are passed over. -/
def paintParts (g : Grid) (span : Span) : List (List Char) → Grid
  | [] => g
  | s :: parts =>
    let width := Text.width s
    let g := if width = 0 then g else g.paintPart span s
    paintParts g { span with start := span.start + width } parts

/-- Paints a title in so many cells; its lines are its parts. -/
def paintTitle (g : Grid) (x y room : Nat) (title : String) : Grid :=
  let parts := Text.lines title.toList
  let width := parts.foldl (fun n s => n + Text.width s) 0
  g.paintParts ⟨x, x + min width room, y⟩ parts

/-! ### Boxes -/

/-- A line of a box. -/
def edge (left middle right : Char) (width : Nat) : List Char :=
  match width with
  | 0 => []
  | 1 => [left]
  | n + 2 => left :: List.replicate n middle ++ [right]

/-- The lines of a box. -/
def boxLines (width height : Nat) : List (List Char) :=
  match height with
  | 0 => []
  | 1 => [edge '┌' '─' '┐' width]
  | n + 2 =>
    edge '┌' '─' '┐' width :: List.replicate n (edge '│' ' ' '│' width)
      ++ [edge '└' '─' '┘' width]

/-- Paints a box with a title in its upper edge. -/
def paintBox (g : Grid) (a : Area) (title : String) : Grid :=
  let g := ((boxLines a.width.toNat a.height.toNat).zipIdx).foldl
    (fun g line => g.paintChars a.x.toNat (a.y.toNat + line.2) line.1) g
  if a.height = 0 then g
  else g.paintTitle (a.x.toNat + 1) a.y.toNat (a.width.toNat - 2) title

/-! ### Rows -/

/-- What is shown in the cells of a row: a cell behind a wide glyph is not seen. -/
def seen (row : List (List Char)) : List (List Char) :=
  List.zipWith (fun hidden cell => if hidden then space else cell)
    (false :: row.map fun cell => decide (1 < Text.width cell)) row

/-- The rows of a screen without the blanks at their ends. -/
def rows (g : Grid) : List String :=
  g.toList.map fun row =>
    let cells := (seen row.toList).flatMap id
    String.ofList (cells.reverse.dropWhile (· = ' ')).reverse

end Grid

end Turtle

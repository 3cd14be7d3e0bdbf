import Turtle.Binary64.Scalar
import Turtle.Shell
import Turtle.Shell.Grid

/-!
# Screens

The two screens of the shell as rows of text: the main screen with the canvas, the messages and
the line of input, and the prompt screen with a question in front of the messages. What has been
drawn is not part of the text; the turtle is.

* `MainLayout.of` shares the rows of the main screen, however few there are;
* `Area.popup` is the place of the question, `cursorColumn` the place of the cursor;
* `mainScreen` and `promptScreen?` are the screens, `Shell.screen?` the one that a shell shows.
-/

namespace Turtle

/-! ## The turtle -/

/-- The arrow that points along a heading, to the nearest quarter. -/
def headingGlyph (heading : Float) : String :=
  match (Binary64.wrap360 (heading + 45) / 90).toUInt8.toNat with
  | 0 => "▲"
  | 1 => "▶"
  | 2 => "▼"
  | _ => "◀"

/-- The cell of the turtle in a rectangle that shows the whole canvas, if it is on the canvas. -/
def turtleCell? (c : Canvas Float) (a : Area) : Option (Nat × Nat) :=
  let width := Float.ofNat c.width.toNat
  let height := Float.ofNat c.height.toNat
  let x := c.position.x
  let y := c.position.y
  if a.width = 0 ∨ a.height = 0 then none
  else if x.abs <= width / 2 && y.abs <= height / 2 then
    let column := (x + width / 2) * Float.ofNat (a.width.toNat - 1) / width
    let row := (height / 2 - y) * Float.ofNat (a.height.toNat - 1) / height
    some (a.x.toNat + column.toUInt16.toNat, a.y.toNat + row.toUInt16.toNat)
  else none

/-- Paints the turtle. -/
def paintTurtle (g : Grid) (a : Area) (c : Canvas Float) : Grid :=
  match turtleCell? c a with
  | some (x, y) => g.set x y (headingGlyph c.heading).toList
  | none => g

/-! ## The main screen -/

/-- A screen as text, and the place of its cursor if it shows one. -/
structure Screen where
  rows : List String
  cursor : Option (UInt16 × UInt16)
  deriving DecidableEq, Repr

/-- The rows of the main screen from the top: status, canvas, messages, input, and keys. -/
structure MainLayout where
  status : Area
  canvas : Area
  messages : Area
  input : Area
  keys : Area

/-- How many rows the canvas has. It is the first to get rows, at least eight of them, and it has
what the others leave. -/
def canvasRows (height : Nat) : Nat :=
  min height (max 8 (height - 13))

/-- How messages, input and keys share some rows: where the messages end, and where the input
ends. Up to three rows are shared equally, to the nearest row. Of more, the keys have one, and
messages and input have equal parts of the others, but the input has three at most. -/
def sharedRows (rows : Nat) : Nat × Nat :=
  if rows < 3 then ((2 * rows + 3) / 6, (4 * rows + 3) / 6)
  else (max (rows / 2) (rows - 4), rows - 1)

/-- The messages end before the input does, and the input within the rows that are shared. -/
theorem sharedRows_le (rows : Nat) :
    (sharedRows rows).1 ≤ (sharedRows rows).2 ∧ (sharedRows rows).2 ≤ rows := by
  rw [sharedRows]
  split <;> omega

/-- The layout of a screen. -/
def MainLayout.of (width height : UInt16) : MainLayout :=
  let canvas := canvasRows height.toNat
  let status := min 1 (height.toNat - canvas)
  let rest := height.toNat - canvas - status
  let (messages, both) := sharedRows rest
  let area := fun (first last : Nat) =>
    (⟨0, UInt16.ofNat first, width, UInt16.ofNat (last - first)⟩ : Area)
  let top := status + canvas
  ⟨area 0 status, area status top, area top (top + messages), area (top + messages) (top + both),
    area (top + both) (top + rest)⟩

/-- The column of the cursor behind so many characters of input, within the border. -/
def cursorColumn (input : Area) (count : Nat) : UInt16 :=
  min (input.x + 3 + UInt16.ofNat (min count 65535)) (Area.less (input.x + input.width) 2)

/-- The keys and what they do. -/
def keysText : String :=
  "  Enter = run  │  ↑/↓ = history  │  help = commands  │  Esc = quit"

/-- The last messages, as one text. -/
def messageText (messages : List String) (rows : Nat) : String :=
  "\n".intercalate (messageTail messages rows)

/-- The main screen. -/
def mainScreen (width height : UInt16) (canvas : Canvas Float) (messages : List String)
    (input status : String) : Screen :=
  let l := MainLayout.of width height
  let g := Grid.blank width.toNat height.toNat
  let g := g.paintText l.status status
  let g := paintTurtle (g.paintBox l.canvas " CANVAS ") l.canvas.inner canvas
  let g := (g.paintBox l.messages " MESSAGES ").paintText l.messages.inner
    (messageText messages l.messages.inner.height.toNat)
  let g := (g.paintBox l.input "").paintText l.input.inner ("> " ++ input)
  let g := g.paintText l.keys keysText
  ⟨g.rows, some (cursorColumn l.input input.length, l.input.y + 1)⟩

/-! ## The prompt screen -/

/-- The place of a question on a screen: two thirds of the width, three rows, a third of the way
down. -/
def Area.popup (a : Area) : Area :=
  ⟨a.width / 6, a.height / 3, a.width * 2 / 3, min 3 a.height⟩

/-- The prompt screen. There is none if the question has cells that are not on the screen. -/
def promptScreen? (width height : UInt16) (messages : List String) (question answer : String) :
    Option Screen :=
  let a := Area.whole width height
  let box := a.popup
  if box.isEmpty || box.fitsIn a then
    let g := (Grid.blank width.toNat height.toNat).paintBox a ""
    let g := g.paintText a.inner (messageText messages a.inner.height.toNat)
    let g := (g.wipe box).paintBox box (" " ++ question ++ " ")
    some ⟨(g.paintText box.inner (answer ++ "_")).rows, none⟩
  else none

/-- The screen of a shell that waits for a key. -/
def Shell.screen? (width height : UInt16) (s : Shell Float) : Option Screen :=
  let host := s.session.world.host
  match host.prompt with
  | some prompt => promptScreen? width height host.messages prompt.question prompt.typed
  | none => some (mainScreen width height s.session.canvas host.messages s.input s.statusLine)

end Turtle

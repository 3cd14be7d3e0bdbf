import Turtle.Pen
import Turtle.Script
import Turtle.Disk
import Turtle.Fault

/-!
# Settings

The size of the canvas and the pen a session begins with, as a settings file gives them: lines
with a key, a colon and a value. A `#` begins a comment. Keys that are not known are passed over,
a key that comes again replaces what it set before, and the first line that is not in order is
named.

* `SettingsLine.read` says what one line does, or what is wrong with it;
* `Settings.read` are the settings of a text, or its first bad line.
-/

namespace Turtle

/-- What a session begins with. -/
structure Settings where
  canvasWidth : UInt16
  canvasHeight : UInt16
  pen : Pen
  deriving DecidableEq, Repr

/-- The settings without a settings file. -/
def Settings.standard : Settings := ⟨800, 600, Pen.standard⟩

/-- What a line of a settings file does. -/
inductive SettingsLine where
  | nothing
  | unknown (key : String)
  | canvasWidth (n : UInt16)
  | canvasHeight (n : UInt16)
  | penColor (c : Rgb)
  | penWidth (n : UInt8)
  | penDown (b : Bool)
  deriving DecidableEq, Repr

namespace SettingsLine

/-- A side of the canvas is not zero. -/
def readSide? (value : String) : Option UInt16 :=
  (readUInt16? value).filter fun n => n ≠ 0

/-- A pen width lies between 1 and 10. -/
def readWidth? (value : String) : Option UInt8 :=
  (readUInt8? value).filter fun n => 1 ≤ n ∧ n ≤ 10

/-- A value in single quotes behind a complaint about it. -/
def complain (text value : String) : String :=
  text ++ "'" ++ value ++ "'"

/-- The three components of a color. -/
def readColor (value : String) : Except String SettingsLine :=
  match ((Text.words value.toList).map String.ofList).mapM readInt32? with
  | none => .error (complain "Invalid pen_color value: " value)
  | some [r, g, b] => .ok (.penColor ⟨r, g, b⟩)
  | some _ => .error (complain "pen_color needs three components, got " value)

/-- What a key and its value do. -/
def readValue (key value : String) : Except String SettingsLine :=
  match key with
  | "canvas_width" =>
    match readSide? value with
    | some n => .ok (.canvasWidth n)
    | none => .error (complain "Invalid canvas_width value: " value)
  | "canvas_height" =>
    match readSide? value with
    | some n => .ok (.canvasHeight n)
    | none => .error (complain "Invalid canvas_height value: " value)
  | "pen_color" => readColor value
  | "pen_width" =>
    match readWidth? value with
    | some n => .ok (.penWidth n)
    | none => .error (complain "pen_width must be 1-10, got " value)
  | "pen_down" =>
    match value with
    | "true" => .ok (.penDown true)
    | "false" => .ok (.penDown false)
    | _ => .error (complain "Invalid pen_down value: " value)
  | _ => .ok (.unknown key)

/-- What a line does, or what is wrong with it. -/
def read (line : List Char) : Except String SettingsLine :=
  let text := Text.trim (line.takeWhile (· ≠ '#'))
  if text.isEmpty then .ok .nothing
  else if ':' ∈ text then
    let key := Text.trim (text.takeWhile (· ≠ ':'))
    let value := Text.trim ((text.dropWhile (· ≠ ':')).drop 1)
    readValue (String.ofList key) (String.ofList value)
  else .error "Expected 'key: value' format"

/-- The settings after a line. -/
def apply (s : Settings) : SettingsLine → Settings
  | nothing | unknown _ => s
  | canvasWidth n => { s with canvasWidth := n }
  | canvasHeight n => { s with canvasHeight := n }
  | penColor c => { s with pen := { s.pen with color := c } }
  | penWidth n => { s with pen := { s.pen with width := n } }
  | penDown b => { s with pen := { s.pen with down := b } }

/-- Reads a line that has a given number. -/
def readNumbered (line : Nat × List Char) : Except LineError SettingsLine :=
  match read line.2 with
  | .ok l => .ok l
  | .error message => .error ⟨line.1, String.ofList line.2, message⟩

end SettingsLine

namespace Settings

/-- The lines of a settings file, numbered from one. -/
def linesOf (text : String) : List (Nat × List Char) :=
  Text.numbered (Text.lines text.toList)

/-- The settings of a text, or what is wrong with its first bad line. -/
def read (text : String) : Except LineError Settings := do
  return ((← (linesOf text).mapM SettingsLine.readNumbered).foldl SettingsLine.apply standard)

/-- The unknown keys in the lines before the first bad one. -/
def unknownKeys (text : String) : List String :=
  let ok := (linesOf text).map fun line => SettingsLine.read line.2
  (ok.takeWhile fun r => r.toOption.isSome).filterMap fun
    | .ok (.unknown key) => some key
    | _ => none

/-- The settings in the file that a path leads to. -/
def load (disk : Disk) (path : Path) : Except Fault Settings :=
  match disk.readText path with
  | .error e => .error ⟨"cannot read settings file " ++ path.text, some e.message⟩
  | .ok text =>
    match read text with
    | .error e => .error ⟨"in " ++ path.text, some e.text⟩
    | .ok settings => .ok settings

/-- The truth value as a word. -/
def flag (b : Bool) : String :=
  if b then "true" else "false"

/-- The settings on one line, every field with its name. -/
def text (s : Settings) : String :=
  "Settings \x7b canvas_width: " ++ writeUInt16 s.canvasWidth
    ++ ", canvas_height: " ++ writeUInt16 s.canvasHeight
    ++ ", pen: TurtleState \x7b pen_down: " ++ flag s.pen.down
    ++ ", color: Rgb \x7b r: " ++ writeInt32 s.pen.color.red
    ++ ", g: " ++ writeInt32 s.pen.color.green
    ++ ", b: " ++ writeInt32 s.pen.color.blue
    ++ " \x7d, width: " ++ writeUInt8 s.pen.width ++ " \x7d \x7d"

end Settings

end Turtle

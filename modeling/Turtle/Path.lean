import Turtle.Text.Utf8

/-!
# Paths

A path is any bytes, with slashes between its components. Empty components and single dots say
nothing about which file is meant; two dots lead to the directory above.

* `Path.fileName?` is the last component, if it names something;
* `Path.asImage` is the path under which an image is saved: images have names that end in
  `.scene.json`, in whatever case, and a path that does not is given that end.
-/

namespace Turtle

/-- A path to a file or directory. -/
structure Path where
  bytes : Bytes
  deriving DecidableEq, Repr

namespace Path

/-- The path that a text spells. -/
def ofText (s : String) : Path :=
  ⟨Text.encode s⟩

/-- The path as text. -/
def text (p : Path) : String :=
  Text.decodeLossy p.bytes

/-- The byte between components. -/
def slash : UInt8 := 0x2F

/-- The component that stands for the directory it is in. -/
def here : Bytes := [0x2E]

/-- The component that stands for the directory above. -/
def above : Bytes := [0x2E, 0x2E]

/-- The components of a path that are not empty. -/
def components (p : Path) : List Bytes :=
  (p.bytes.splitOn slash).filter fun c => !c.isEmpty

/-- The path begins at the root. -/
def isAbsolute (p : Path) : Bool :=
  p.bytes.head? == some slash

/-- The path ends in a slash. -/
def endsInSlash (p : Path) : Bool :=
  p.bytes.getLast? == some slash

/-- The last component that names something. -/
def fileName? (p : Path) : Option Bytes :=
  match (p.components.filter (· ≠ here)).getLast? with
  | some name => if name = above then none else some name
  | none => none

/-- The file name as text; without one, the whole path. -/
def name (p : Path) : String :=
  match p.fileName? with
  | some name => Text.decodeLossy name
  | none => p.text

/-! ## Names of images -/

/-- How the names of images end. -/
def imageSuffix : String := ".scene.json"

/-- A text ends as the names of images do, in whatever case. -/
def endsAsImage (name : String) : Bool :=
  imageSuffix.toList.isSuffixOf (name.toList.map Char.toLower)

/-- The file name is that of an image. -/
def isImage (p : Path) : Bool :=
  match p.fileName?.bind Text.decode? with
  | some name => endsAsImage name
  | none => false

/-- The path under which an image is saved. -/
def asImage (p : Path) : Path :=
  if p.isImage then p else ⟨p.bytes ++ Text.encode imageSuffix⟩

end Path

end Turtle

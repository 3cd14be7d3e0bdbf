import Turtle.Path
import Turtle.WholeNumber

/-!
# The disk

Files and directories as one value. An entry is found by its location, the names from the root
down to it; a path is walked from the root or from the working directory, and every component but
the last has to lead through a directory that exists.

* `Disk.open?` finds what a path leads to, `Disk.readText` the text of a file;
* `Disk.write` replaces or creates a file, or is broken off where there is no room for it;
* `Disk.openAppend` finds or creates a file to be written to at its end, `Disk.append` does so.
-/

namespace Turtle

/-- Why a file cannot be read or written. -/
inductive DiskError where
  | notFound
  | notADirectory
  | isADirectory
  | nameTooLong
  /-- The path holds a zero byte. -/
  | zeroInPath
  /-- The file is to be read as text and is not UTF-8. -/
  | notText
  | noRoom
  deriving DecidableEq, Repr

/-- The text of an error of the system, with its number. -/
def systemError (text : String) (number : Nat) : String :=
  text ++ " (os error " ++ natText number ++ ")"

/-- The error in words. -/
def DiskError.message : DiskError → String
  | notFound => systemError "No such file or directory" 2
  | notADirectory => systemError "Not a directory" 20
  | isADirectory => systemError "Is a directory" 21
  | nameTooLong => systemError "File name too long" 36
  | zeroInPath => "file name contained an unexpected NUL byte"
  | notText => "stream did not contain valid UTF-8"
  | noRoom => systemError "No space left on device" 28

/-- What a location holds. -/
inductive Entry where
  | file (bytes : Bytes)
  | directory
  deriving DecidableEq, Repr

/-- The names on the way from the root to an entry. -/
abbrev Location := List Bytes

/-- Files and directories, and the directory in which relative paths begin. -/
structure Disk where
  entries : List (Location × Entry)
  workdir : Location
  /-- How many bytes a file can be written, at the locations where there is not room for any
      number of them. -/
  room : List (Location × Nat)
  deriving DecidableEq, Repr

/-- How writing a file fails. -/
inductive WriteError where
  /-- The file cannot be opened, and nothing has happened. -/
  | unopened (cause : DiskError)
  /-- The file was opened, but there was no room for all of its bytes. On the disk that is left, it
      holds the first of them and nothing of what it held before. -/
  | brokenOff (left : Disk)
  deriving DecidableEq, Repr

namespace WriteError

/-- What is wrong. -/
def cause : WriteError → DiskError
  | unopened cause => cause
  | brokenOff _ => .noRoom

/-- The disk afterwards. -/
def leaves (before : Disk) : WriteError → Disk
  | unopened _ => before
  | brokenOff left => left

end WriteError

namespace Disk

/-- What a location holds; the root is a directory. -/
def lookup (d : Disk) (l : Location) : Option Entry :=
  if l = [] then some .directory else (d.entries.find? fun e => e.1 == l).map Prod.snd

/-- The disk with an entry put at a location. -/
def put (d : Disk) (l : Location) (e : Entry) : Disk :=
  if d.entries.any fun old => old.1 == l then
    { d with entries := d.entries.map fun old => if old.1 == l then (l, e) else old }
  else
    { d with entries := d.entries ++ [(l, e)] }

/-! ## Walking paths -/

/-- The greatest length of a name. -/
def maxName : Nat := 255

/-- The greatest length of a path. -/
def maxPath : Nat := 4095

/-- One component of a path, taken in the directory at a location. -/
def walkStep (d : Disk) (l : Location) (name : Bytes) : Except DiskError Location :=
  match d.lookup l with
  | none => .error .notFound
  | some (.file _) => .error .notADirectory
  | some .directory =>
    if name = Path.here then .ok l
    else if name = Path.above then .ok l.dropLast
    else if maxName < name.length then .error .nameTooLong
    else .ok (l ++ [name])

/-- Components of a path, taken one after the other. -/
def walk (d : Disk) (l : Location) (names : List Bytes) : Except DiskError Location :=
  names.foldlM d.walkStep l

/-- The location where a path begins. -/
def startOf (d : Disk) (p : Path) : Location :=
  if p.isAbsolute then [] else d.workdir

/-- What makes a path unfit to be walked. -/
def checkPath (p : Path) : Except DiskError Unit :=
  if 0 ∈ p.bytes then .error .zeroInPath
  else if p.bytes = [] then .error .notFound
  else if maxPath < p.bytes.length then .error .nameTooLong
  else .ok ()

/-! ## Reading -/

/-- What a path leads to. Behind a slash at its end there has to be a directory. -/
def open? (d : Disk) (p : Path) : Except DiskError Entry := do
  checkPath p
  let names := p.components ++ (if p.endsInSlash then [Path.here] else [])
  let l ← d.walk (d.startOf p) names
  match d.lookup l with
  | some e => .ok e
  | none => .error .notFound

/-- The bytes of the file that a path leads to. -/
def read (d : Disk) (p : Path) : Except DiskError Bytes := do
  match ← d.open? p with
  | .file bytes => .ok bytes
  | .directory => .error .isADirectory

/-- The text of the file that a path leads to. -/
def readText (d : Disk) (p : Path) : Except DiskError String := do
  match Text.decode? (← d.read p) with
  | some text => .ok text
  | none => .error .notText

/-! ## Writing -/

/-- The location of the file that a path leads to, whether it is there already or not. -/
def place (d : Disk) (p : Path) : Except DiskError Location := do
  checkPath p
  match p.components.getLast? with
  | none => .error .isADirectory
  | some name =>
    let parent ← d.walk (d.startOf p) p.components.dropLast
    if p.endsInSlash then
      let _ ← d.walkStep parent Path.here
      .error .isADirectory
    else
      let l ← d.walkStep parent name
      match d.lookup l with
      | some .directory => .error .isADirectory
      | some (.file _) | none => .ok l

/-- How many bytes there is room for at a location, if there is a limit. -/
def roomAt? (d : Disk) (l : Location) : Option Nat :=
  (d.room.find? fun r => r.1 == l).map Prod.snd

/-- The disk after a file was replaced or created. To open the file empties it, so that what it
held is lost also if there is no room for the new bytes. -/
def write (d : Disk) (p : Path) (bytes : Bytes) : Except WriteError Disk :=
  match d.place p with
  | .error cause => .error (.unopened cause)
  | .ok l =>
    match d.roomAt? l with
    | none => .ok (d.put l (.file bytes))
    | some n =>
      if bytes.length ≤ n then .ok (d.put l (.file bytes))
      else .error (.brokenOff (d.put l (.file (bytes.take n))))

/-- The disk after bytes were added at the end of the file at a location. For the lines of a
journal there is always room. -/
def append (d : Disk) (l : Location) (bytes : Bytes) : Disk :=
  match d.lookup l with
  | some (.file old) => d.put l (.file (old ++ bytes))
  | some .directory | none => d

/-- The location of a file to be written to at its end, and the disk on which there is one. -/
def openAppend (d : Disk) (p : Path) : Except DiskError (Location × Disk) := do
  let l ← d.place p
  match d.lookup l with
  | some _ => return (l, d)
  | none => return (l, d.put l (.file []))

end Disk

end Turtle

import Turtle.Shape

/-!
# Commands

What a valid statement asks for: a primitive, a shape, or something of the session. A statement
that is not valid has a `CommandError` instead.
-/

namespace Turtle

/-- A request to the session. -/
inductive SessionCommand where
  | about
  | help
  | clear
  | undo
  | redo
  | saveCommands
  | loadCommands
  | saveImage
  | loadImage
  deriving DecidableEq, Repr

/-- What a valid statement asks for. -/
inductive Command where
  | primitive (p : Primitive)
  | shape (s : Shape)
  | session (c : SessionCommand)
  deriving DecidableEq, Repr

namespace Command

/-- The primitive whose text a command is. The text `circle` stands for both a shape and a
primitive, and it is the primitive that a log holds. -/
def canonical? : Command → Option Primitive
  | primitive p => some p
  | shape (.circle r) => some (.circle r)
  | shape _ | session _ => none

end Command

/-- The two kinds of fault a statement can have. -/
inductive ErrorKind where
  /-- The number, form or range of the arguments is wrong. -/
  | parameter
  /-- The statement as a whole has no meaning where it stands. -/
  | validation
  deriving DecidableEq, Repr

/-- The name of a kind of fault. -/
def ErrorKind.name : ErrorKind → String
  | parameter => "Parameter"
  | validation => "Validation"

/-- Why a statement is refused. -/
inductive CommandError where
  | missingParameter (verb : String)
  | invalidParameter (verb value : String)
  | distanceOutOfRange (value : Int32)
  | penWidthOutOfRange (value : Int32)
  | polygonSidesOutOfRange (value : Int32)
  | triangleArity (count : Nat)
  | invalidCommand (verb : String)
  | nestedLoad
  deriving DecidableEq, Repr

namespace CommandError

/-- The kind of a fault. -/
def kind : CommandError → ErrorKind
  | triangleArity _ | invalidCommand _ | nestedLoad => .validation
  | missingParameter _ | invalidParameter _ _ | distanceOutOfRange _ | penWidthOutOfRange _
  | polygonSidesOutOfRange _ => .parameter

/-- The fault in words. -/
def message : CommandError → String
  | missingParameter verb => "Missing parameter for '" ++ verb ++ "'."
  | invalidParameter verb value =>
    "Invalid parameter for '" ++ verb ++ "': '" ++ value ++ "' is not a whole number."
  | distanceOutOfRange _ => "Distance must be between 1 and 200."
  | penWidthOutOfRange _ => "Pen width must be between 1 and 10."
  | polygonSidesOutOfRange _ => "Polygon sides must be between 3 and 12."
  | triangleArity count =>
    "Invalid triangle parameters: expected 1 or 3 side lengths, got " ++ natText count ++ "."
  | invalidCommand verb => "Invalid command: " ++ verb
  | nestedLoad => "loadcmd cannot be used inside a command file."

end CommandError

end Turtle

import Turtle.Settings
import Turtle.Verb
import Turtle.Text.Quoted

/-!
# The journal

A record of what happens in a session, for the one who runs the program and not for the one who
draws. Every event has a level; a journal keeps those up to a threshold, and has a place for its
lines: none, the channel of the messages, or a file.
-/

namespace Turtle

/-- How much an event matters. -/
inductive Level where
  | warn
  | info
  | debug
  | trace
  deriving DecidableEq, Repr

namespace Level

/-- The place of a level, from what matters most to what matters least. -/
def rank : Level → Nat
  | warn => 0
  | info => 1
  | debug => 2
  | trace => 3

/-- The name of a level. -/
def name : Level → String
  | warn => "warn"
  | info => "info"
  | debug => "debug"
  | trace => "trace"

/-- The level as it stands in the journal, five columns wide. -/
def column : Level → String
  | warn => " WARN"
  | info => " INFO"
  | debug => "DEBUG"
  | trace => "TRACE"

/-- The threshold after so many requests for more. -/
def ofVerbosity : Nat → Level
  | 0 => warn
  | 1 => info
  | 2 => debug
  | _ => trace

end Level

/-- What can happen in a session. -/
inductive Event where
  | unknownSetting (key : String)
  | settings (s : Settings)
  | applied (p : Primitive) (replaying : Bool)
  | undo (replayed : Nat)
  | redo (p : Primitive)
  | clear (discarded : Nat)
  | savedCommands (path : Path) (entries : Nat)
  | loadedCommands (path : Path) (failedLines : Nat)
  | savedImage (path : Path)
  | loadedImage (path : Path)
  | report (message : String)
  | rejected (message verb : String) (kind : ErrorKind)
  | failed (message : String)
  deriving DecidableEq, Repr

namespace Event

/-- How much an event matters. -/
def level : Event → Level
  | rejected _ _ _ | failed _ => .warn
  | undo _ | redo _ | clear _ | savedCommands _ _ | loadedCommands _ _ | savedImage _
  | loadedImage _ | report _ => .info
  | unknownSetting _ | settings _ | applied _ _ => .debug

/-- An event in words: a message, then its details by name. -/
def text : Event → String
  | unknownSetting key => Text.disarm ("ignoring unknown settings key '" ++ key ++ "'")
  | settings s => "settings settings=" ++ s.text
  | applied p replaying =>
    "applied primitive=" ++ p.text ++ " replaying=" ++ Settings.flag replaying
  | undo replayed => "undo replayed=" ++ natText replayed
  | redo p => "redo primitive=" ++ p.text
  | clear discarded => "clear discarded=" ++ natText discarded
  | savedCommands path entries =>
    "saved commands path=" ++ path.text ++ " entries=" ++ natText entries
  | loadedCommands path failedLines =>
    "loaded commands path=" ++ path.text ++ " failed_lines=" ++ natText failedLines
  | savedImage path => "saved image path=" ++ path.text
  | loadedImage path => "loaded image path=" ++ path.text
  | report message => "report text=" ++ Text.quote message
  | rejected message verb kind =>
    Text.disarm message ++ " verb=" ++ verb ++ " kind=" ++ kind.name
  | failed message => Text.disarm message

end Event

/-- Where the lines of a journal go. -/
inductive Sink where
  | nowhere
  /-- The channel of the messages. -/
  | messages
  /-- The end of the file at a location. -/
  | file (location : Location)
  deriving DecidableEq, Repr

/-- A journal: what it keeps, where, and the time that it writes in front of each line. -/
structure Journal where
  threshold : Level
  sink : Sink
  time : String
  deriving DecidableEq, Repr

namespace Journal

/-- A journal that keeps nothing. -/
def silent : Journal := ⟨.warn, .nowhere, ""⟩

/-- The journal keeps an event. -/
def keeps (j : Journal) (e : Event) : Bool :=
  e.level.rank ≤ j.threshold.rank

/-- The line of an event, with its end. -/
def line (j : Journal) (e : Event) : String :=
  j.time ++ " " ++ e.level.column ++ " " ++ e.text ++ "\n"

end Journal

end Turtle

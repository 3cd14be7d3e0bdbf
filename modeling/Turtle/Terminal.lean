import Turtle.World
import Turtle.Text.Lowercase

/-!
# The terminal

A host in a terminal. Questions are answered by typing at a prompt, key by key, until Enter or
Esc; messages are kept, the last two hundred of them, to be shown on the screen. If the keys run
out at a prompt, the terminal remembers it, for it is what the screen has to show.

* `Reply.read` is what a prompt makes of the keys that are waiting;
* `messageTail` are the lines of the messages that a screen has room for.
-/

namespace Turtle

/-- The keys that mean something. -/
inductive KeyCode where
  | enter
  | esc
  | up
  | down
  | backspace
  | char (c : Char)
  | other
  deriving DecidableEq, Repr

/-- A key event: which key, whether the control key was held, and whether the key went down; keys
also report when they repeat and when they come up again. -/
structure Key where
  code : KeyCode
  control : Bool
  pressed : Bool
  deriving DecidableEq, Repr

/-- A key that goes down. -/
def Key.press (code : KeyCode) : Key := ⟨code, false, true⟩

/-- How a prompt ends. -/
inductive Reply where
  | answered (answer : String)
  | cancelled
  /-- The keys have run out; this is what was typed so far. -/
  | unfinished (typed : String)
  deriving DecidableEq, Repr

namespace Reply

/-- Reads keys up to the one that ends a prompt. `typed` is the answer so far, the last character
first. -/
def readFrom (typed : List Char) : List Key → Reply × List Key
  | [] => (unfinished (String.ofList typed.reverse), [])
  | key :: keys =>
    if key.pressed then
      match key.code with
      | .enter => (answered (String.ofList typed.reverse), keys)
      | .esc => (cancelled, keys)
      | .backspace => readFrom typed.tail keys
      | .char c => readFrom (c :: typed) keys
      | .up | .down | .other => readFrom typed keys
    else readFrom typed keys

/-- Reads keys at a prompt, and hands out those behind it. -/
def read (keys : List Key) : Reply × List Key :=
  readFrom [] keys

/-- The answer, if there is one. -/
def answer? : Reply → Option String
  | answered answer => some answer
  | cancelled | unfinished _ => none

end Reply

/-- A prompt at which the keys ran out. -/
structure Prompt where
  question : String
  typed : String
  deriving DecidableEq, Repr

/-- The prompt that a reply leaves unfinished. -/
def Reply.prompt? (question : String) : Reply → Option Prompt
  | unfinished typed => some ⟨question, typed⟩
  | answered _ | cancelled => none

/-- The keys that are waiting, the messages, and the first prompt at which the keys ran out. -/
structure Terminal where
  keys : List Key
  messages : List String := []
  prompt : Option Prompt := none
  deriving DecidableEq, Repr

namespace Terminal

/-- How many messages are kept. -/
def maxMessages : Nat := 200

/-- The last items of a list. -/
def lastOf {α : Type} (n : Nat) (items : List α) : List α :=
  items.drop (items.length - n)

/-- Keeps a message. -/
def report (message : String) (t : Terminal) : Terminal :=
  { t with messages := lastOf maxMessages (t.messages ++ [message]) }

/-- Asks at a prompt. -/
def ask (question : String) (t : Terminal) : Option String × Terminal :=
  let (reply, keys) := Reply.read t.keys
  (reply.answer?, { t with keys := keys, prompt := t.prompt.or (reply.prompt? question) })

/-- How a question is shown at a prompt. -/
def confirmQuestion (question : String) : String :=
  question ++ " (y/n)"

/-- How a dialog is shown at a prompt. -/
def pickQuestion (dialog : Dialog) : String :=
  dialog.title ++ " (path, Esc to cancel)"

/-- An answer that means yes. -/
def isYes (answer : String) : Bool :=
  Text.asciiLower (Text.trimmed answer) == "y"

/-- Asks a question that is answered by yes or no. -/
def confirm (question : String) (t : Terminal) : Bool × Terminal :=
  let (answer, t) := t.ask (confirmQuestion question)
  (answer.any isYes, t)

/-- Asks for a path. -/
def pick (dialog : Dialog) (t : Terminal) : Option Path × Terminal :=
  let (answer, t) := t.ask (pickQuestion dialog)
  (((answer.map Text.trimmed).filter fun s => !s.isEmpty).map Path.ofText, t)

instance : Host Terminal where
  report := report
  confirm := confirm
  pick := pick
  note _ t := t
  announces _ := true

end Terminal

/-- The last lines of messages that may have several. -/
def messageTail (messages : List String) (rows : Nat) : List String :=
  Terminal.lastOf rows (messages.flatMap Text.linesOf)

end Turtle

import Turtle.Terminal

/-!
# Keys from characters

A terminal that hands over every key at once sends it as a character. Most characters stand for
themselves; control characters stand for keys like Enter and Esc, or for a character typed with
the control key; and the arrow keys come as an escape character, a bracket and a letter.
-/

namespace Turtle.Key

/-- The key behind an escape character and a bracket, by its letter. -/
def arrow (letter : Char) : Key :=
  match letter with
  | 'A' => press .up
  | 'B' => press .down
  | _ => press .other

/-- A character typed with the control key. -/
def withControl (c : Char) : Key := ⟨.char c, true, true⟩

/-- The key that a single character stands for. -/
def ofChar (c : Char) : Key :=
  match c with
  | '\r' => press .enter
  | '\t' => press .other
  | '\x1b' => press .esc
  | '\x7f' => press .backspace
  | '\x00' => withControl ' '
  | c =>
    if c.toNat ≤ 0x1A then withControl (Char.ofNat ('a'.toNat + (c.toNat - 1)))
    else if c.toNat ≤ 0x1F then withControl (Char.ofNat ('4'.toNat + (c.toNat - 0x1C)))
    else press (.char c)

/-- The keys that characters stand for. -/
def ofChars : List Char → List Key
  | [] => []
  | '\x1b' :: '[' :: letter :: s => arrow letter :: ofChars s
  | c :: s => ofChar c :: ofChars s

/-- The keys of a line of input that was handed over as a whole: in such a line a return has become
a line feed. -/
def ofLine (s : List Char) : List Key :=
  ofChars (s.map fun c => if c = '\n' then '\r' else c)

end Turtle.Key

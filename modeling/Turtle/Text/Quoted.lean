import Turtle.Text.MarkTable
import Turtle.Text.Ranges

/-!
# Quoted text

Two ways to keep a text on one line of a journal without harm to the reader's terminal.

* `quote` writes a text between quotes, with every character escaped that would not be seen as
  what it is;
* `disarm` escapes only the characters that terminals act upon, and leaves the rest alone.
-/

namespace Turtle.Text

/-- The hexadecimal digits of a number. -/
def hex (n : Nat) : List Char :=
  Nat.toDigits 16 n

/-- A character by its number. -/
def escapeByNumber (c : Char) : List Char :=
  "\\u\x7b".toList ++ hex c.toNat ++ ['\x7d']

/-- A voicing mark of half-width katakana, which is seen like a letter. -/
def isVoicing (c : Char) : Bool :=
  between 0xFF9E 0xFF9F c

/-- A character as it stands between quotes. -/
def quoteChar (c : Char) : List Char :=
  match c with
  | '"' => ['\\', '"']
  | '\\' => ['\\', '\\']
  | '\n' => ['\\', 'n']
  | '\r' => ['\\', 'r']
  | '\t' => ['\\', 't']
  | '\x00' => ['\\', '0']
  | c =>
    if c = ' ' then [c]
    else if inRanges unseenRanges c || (inRanges markRanges c && !isVoicing c) then
      escapeByNumber c
    else [c]

/-- A text between quotes. -/
def quote (s : String) : String :=
  String.ofList ('"' :: s.toList.flatMap quoteChar ++ ['"'])

/-- A character, escaped if terminals act upon it. -/
def disarmChar (c : Char) : List Char :=
  match c with
  | '\x1b' => "\\x1b".toList
  | '\x07' => "\\x07".toList
  | '\x08' => "\\x08".toList
  | '\x0c' => "\\x0c".toList
  | '\x7f' => "\\x7f".toList
  | c => if 0x80 ≤ c.toNat && c.toNat ≤ 0x9F then escapeByNumber c else [c]

/-- A text without characters that terminals act upon. -/
def disarm (s : String) : String :=
  String.ofList (s.toList.flatMap disarmChar)

end Turtle.Text

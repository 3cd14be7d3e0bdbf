/-!
# Blank characters

The white space that separates the words of a statement and surrounds a line: the characters with
the Unicode property `White_Space`.

* `words` cuts a text at its blank characters and keeps the pieces that are not empty;
* `trim` drops the blank characters at both ends;
* `words_append_blank_cons`: a blank between two texts separates their words.
-/

namespace Turtle.Text

/-- The characters with the Unicode property `White_Space`. -/
def isBlank (c : Char) : Bool :=
  let n := c.toNat
  (0x09 ≤ n && n ≤ 0x0D) || n == 0x20 || n == 0x85 || n == 0xA0 || n == 0x1680
    || (0x2000 ≤ n && n ≤ 0x200A) || n == 0x2028 || n == 0x2029 || n == 0x202F || n == 0x205F
    || n == 0x3000

/-- The words of a text: its maximal runs of characters that are not blank. -/
def words (s : List Char) : List (List Char) :=
  (s.splitOnP isBlank).filter fun w => !w.isEmpty

/-- A text without the blank characters in front of it. -/
def trimStart (s : List Char) : List Char :=
  s.dropWhile isBlank

/-- A text without the blank characters behind it. -/
def trimEnd (s : List Char) : List Char :=
  (s.reverse.dropWhile isBlank).reverse

/-- A text without the blank characters at its two ends. -/
def trim (s : List Char) : List Char :=
  trimEnd (trimStart s)

/-- A string without the blank characters at its two ends. -/
def trimmed (s : String) : String :=
  String.ofList (trim s.toList)

/-! ## Words -/

@[simp]
theorem words_nil : words [] = [] := by
  simp [words]

/-- A blank between two texts separates their words. -/
theorem words_append_blank_cons (a b : List Char) {c : Char} (hc : isBlank c = true) :
    words (a ++ c :: b) = words a ++ words b := by
  simp [words, List.splitOnP_append_cons a b hc]

/-- A blank in front of a text changes none of its words. -/
theorem words_blank_cons (s : List Char) {c : Char} (hc : isBlank c = true) :
    words (c :: s) = words s := by
  simpa using words_append_blank_cons [] s hc

end Turtle.Text

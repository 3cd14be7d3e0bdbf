import Turtle.Text.CaseTable
import Turtle.Text.Ranges

/-!
# Lower case

Full lower-casing of text. Two characters need more than a table: `İ` becomes two characters, and
a capital sigma becomes the final sigma `ς` where it ends a word, that is, where a cased character
precedes it and none follows, case-ignorable characters passed over on both sides.

* `lowerChars_of_ascii`: on ASCII text every character is lowered on its own.
-/

namespace Turtle.Text

/-- A character that is passed over when the neighbours of a sigma are looked for. -/
def isCaseIgnorable (c : Char) : Bool :=
  inRanges caseIgnorableRanges c

/-- A character that has a case and is not passed over. -/
def isCased (c : Char) : Bool :=
  inRanges casedRanges c

/-- The lower case of a character beyond ASCII that maps to one character. -/
def lowerByTable (c : Char) : Char :=
  let n := c.toNat
  match lowercaseRuns.find? fun run =>
      run.1 ≤ n && n ≤ run.2.1 && (n - run.1) % run.2.2.1 == 0 with
  | some run => Char.ofNat (n + run.2.2.2).toNat
  | none => c

/-- The lower case of one character, wherever it stands. -/
def lowerChar (c : Char) : List Char :=
  if c.toNat < 0x80 then [c.toLower]
  else if c = 'İ' then ['i', '\u0307']
  else [lowerByTable c]

/-- The next character that counts is cased. -/
def startsCased (s : List Char) : Bool :=
  match s.dropWhile isCaseIgnorable with
  | [] => false
  | c :: _ => isCased c

/-- Lower-cases what follows some text; `cased` says whether the last character that counts in that
text is cased. -/
def lowerFrom (cased : Bool) : List Char → List Char
  | [] => []
  | c :: s =>
    (if c = 'Σ' then [if cased && !startsCased s then 'ς' else 'σ'] else lowerChar c)
      ++ lowerFrom (if isCaseIgnorable c then cased else isCased c) s

/-- The lower case of a text. -/
def lowerChars (s : List Char) : List Char :=
  lowerFrom false s

/-- The lower case of a string. -/
def lowercase (s : String) : String :=
  String.ofList (lowerChars s.toList)

/-- A text with its ASCII letters lower-cased and everything else kept. -/
def asciiLower (s : String) : String :=
  String.ofList (s.toList.map Char.toLower)

/-! ## ASCII text -/

theorem lowerFrom_of_ascii (cased : Bool) {s : List Char} (h : ∀ c ∈ s, c.toNat < 0x80) :
    lowerFrom cased s = s.map Char.toLower := by
  induction s generalizing cased with
  | nil => rfl
  | cons c s ih =>
    have hc : c.toNat < 0x80 := h c List.mem_cons_self
    have hne : c ≠ 'Σ' := by
      rintro rfl
      exact absurd hc (by decide)
    rw [lowerFrom, if_neg hne, lowerChar, if_pos hc,
      ih _ fun d hd => h d (List.mem_cons_of_mem _ hd)]
    rfl

/-- On ASCII text every character is lowered on its own. -/
theorem lowerChars_of_ascii {s : List Char} (h : ∀ c ∈ s, c.toNat < 0x80) :
    lowerChars s = s.map Char.toLower :=
  lowerFrom_of_ascii false h

end Turtle.Text

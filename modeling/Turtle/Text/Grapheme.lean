import Turtle.Text.Grapheme.Table
import Turtle.Text.MarkTable
import Turtle.Text.Ranges

/-!
# Grapheme clusters

What a reader takes for one character may be written with several: a letter and its marks, the
letters of a Hangul syllable or of an Indic conjunct, pictures that are joined to one, the two
letters of a flag. Such a piece of text is an extended grapheme cluster, and it is what stands in
one place of a screen.

* `joins` says whether a character belongs to the cluster in front of it;
* `graphemes` cuts a text into its clusters;
* `graphemes_flatten`: nothing is lost, and nothing is added;
* `graphemes_of_printable`: in printable ASCII text every character is a cluster.
-/

namespace Turtle.Text

/-! ## Classes -/

/-- What a character does where clusters may end. -/
inductive BreakClass where
  /-- Stands alone, like the end of a line. -/
  | control
  /-- Joins what is in front of it. -/
  | mark
  /-- Joins what is in front of it, and a picture behind it. -/
  | joiner
  /-- A mark with a width of its own. -/
  | spacingMark
  /-- Joins what is behind it. -/
  | prepended
  /-- A letter of a flag. -/
  | regional
  /-- A leading consonant of a syllable. -/
  | leading
  /-- A vowel of a syllable. -/
  | vowel
  /-- A final consonant of a syllable. -/
  | trailing
  /-- A Hangul syllable without a final consonant. -/
  | openSyllable
  /-- A Hangul syllable with a final consonant. -/
  | closedSyllable
  /-- A letter of a conjunct. -/
  | consonant
  | pictograph
  | other
  deriving DecidableEq, Repr

/-- The joiner between the pictures of a sequence. -/
def zeroWidthJoiner : Char := '\u200D'

/-- A letter of a flag. -/
def isRegional (c : Char) : Bool :=
  between 0x1F1E6 0x1F1FF c

/-- A skin tone. -/
def isTone (c : Char) : Bool :=
  between 0x1F3FB 0x1F3FF c

/-- A character of printable ASCII. -/
def isPrintable (c : Char) : Bool :=
  between 0x20 0x7E c

/-- The class of a character. -/
def BreakClass.of (c : Char) : BreakClass :=
  if isPrintable c then other
  else if c = zeroWidthJoiner then joiner
  else if isRegional c then regional
  else if isTone c || inRanges markRanges c then mark
  else if inRanges controlRanges c || c = '\n' || c = '\r' then control
  else if inRanges spacingMarkRanges c then spacingMark
  else if inRanges prependRanges c then prepended
  else if inRanges leadingRanges c then leading
  else if inRanges vowelRanges c then vowel
  else if inRanges trailingRanges c then trailing
  else if between 0xAC00 0xD7A3 c then
    if (c.toNat - 0xAC00) % 28 = 0 then openSyllable else closedSyllable
  else if inRanges conjunctConsonantRanges c then consonant
  else if inRanges pictographRanges c then pictograph
  else other

/-- A mark that takes part in conjuncts. -/
def inConjunct (c : Char) : Bool :=
  c ≠ '\u200C' && match BreakClass.of c with
    | .mark | .joiner => true
    | _ => false

/-! ## Clusters -/

/-- A text ends in a letter of a conjunct and marks, with a linker among them. The text is read
from its end. -/
def endsLinked (before : List Char) : Bool :=
  (before.takeWhile inConjunct).any (inRanges conjunctLinkerRanges)
    && ((before.dropWhile inConjunct).head?.any fun c => BreakClass.of c = .consonant)

/-- A text ends in a picture and marks. The text is read from its end. -/
def endsPictured (before : List Char) : Bool :=
  (before.dropWhile fun c => BreakClass.of c = .mark).head?.any fun c =>
    BreakClass.of c = .pictograph

/-- A text ends in half a flag. The text is read from its end. -/
def endsHalved (before : List Char) : Bool :=
  (before.takeWhile isRegional).length % 2 = 1

/-- A character belongs to a cluster that begins with some characters, the last one first. -/
def joins (before : List Char) (c : Char) : Bool :=
  match before with
  | [] => false
  | last :: earlier =>
    match BreakClass.of last, BreakClass.of c with
    | .control, _ => last = '\r' && c = '\n'
    | _, .control => false
    | .leading, .leading | .leading, .vowel
    | .leading, .openSyllable | .leading, .closedSyllable => true
    | .openSyllable, .vowel | .openSyllable, .trailing
    | .vowel, .vowel | .vowel, .trailing => true
    | .closedSyllable, .trailing | .trailing, .trailing => true
    | _, .mark | _, .joiner | _, .spacingMark | .prepended, _ => true
    | _, .consonant => endsLinked before
    | .joiner, .pictograph => endsPictured earlier
    | .regional, .regional => endsHalved before
    | _, _ => false

/-- The clusters of a text behind the beginning of a cluster, which is read from its end. -/
def graphemesBehind (before : List Char) : List Char → List (List Char)
  | [] => [before.reverse]
  | c :: s =>
    if joins before c then graphemesBehind (c :: before) s
    else before.reverse :: graphemesBehind [c] s

/-- The clusters of a text, in order. -/
def graphemes : List Char → List (List Char)
  | [] => []
  | c :: s => graphemesBehind [c] s

/-! ## Laws -/

theorem graphemesBehind_flatten (before s : List Char) :
    (graphemesBehind before s).flatten = before.reverse ++ s := by
  induction s generalizing before with
  | nil => simp [graphemesBehind]
  | cons c s ih =>
    rw [graphemesBehind]
    split <;> simp [ih]

/-- The clusters of a text make up the text. -/
@[simp]
theorem graphemes_flatten (s : List Char) : (graphemes s).flatten = s := by
  cases s with
  | nil => rfl
  | cons c s => simp [graphemes, graphemesBehind_flatten]

theorem BreakClass.of_printable {c : Char} (h : isPrintable c = true) :
    BreakClass.of c = .other := by
  simp [BreakClass.of, h]

theorem graphemesBehind_of_printable {b : Char} (hb : isPrintable b = true) {s : List Char}
    (h : ∀ c ∈ s, isPrintable c = true) :
    graphemesBehind [b] s = (b :: s).map fun c => [c] := by
  induction s generalizing b with
  | nil => rfl
  | cons c s ih =>
    have hc : isPrintable c = true := h c List.mem_cons_self
    have hj : joins [b] c = false := by
      simp [joins, BreakClass.of_printable hb, BreakClass.of_printable hc]
    rw [graphemesBehind, hj, ih hc fun d hd => h d (List.mem_cons_of_mem _ hd)]
    simp

/-- In printable ASCII text every character is a cluster. -/
theorem graphemes_of_printable {s : List Char} (h : ∀ c ∈ s, isPrintable c = true) :
    graphemes s = s.map fun c => [c] := by
  cases s with
  | nil => rfl
  | cons c s =>
    exact graphemesBehind_of_printable (h c List.mem_cons_self)
      fun d hd => h d (List.mem_cons_of_mem _ hd)

end Turtle.Text

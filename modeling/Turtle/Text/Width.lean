import Turtle.Text.Grapheme
import Turtle.Text.Width.Table

/-!
# The width of text

How many cells of a terminal a text takes. Most characters take one cell, wide ones two, and marks
none; but some sequences take fewer cells than their characters one by one. Pictures are joined to
one, flags are written with two letters, a variation selector shows a sign as a picture, and some
letters are written as one, as an alef behind a lam.

A text is measured from its end: the width of a character depends on what is behind it, and of
that only a `Sequel` counts.

* `measure` is what a character adds to the width, and the sequel for the character in front of it;
* `width` is the number of cells of a text;
* `width_of_printable`: printable ASCII text takes one cell for each character.
-/

namespace Turtle.Text

/-! ## What follows a character -/

/-- What a text begins with, as far as the width of a character in front of it depends on that. -/
inductive Opening where
  | plain
  | lineFeed
  /-- A picture. -/
  | picture
  /-- A skin tone. -/
  | tone
  /-- A letter of a flag; behind it there are more if `several`. -/
  | regional (several : Bool)
  /-- A joiner and a picture. -/
  | joinedPicture
  /-- A key cap, a joiner and a picture. -/
  | joinedKeycap
  /-- A letter of a flag, a joiner and a picture. -/
  | joinedRegional
  /-- Letters of flags, an even number of them, a joiner and a picture. -/
  | joinedEven
  /-- Letters of flags, an odd number of them but more than one, a joiner and a picture. -/
  | joinedOdd
  /-- Letters of a tag, up to its end, a joiner and a picture. -/
  | tagLetters (count : Nat)
  /-- Digits of a tag and what may follow them, a joiner and a picture. -/
  | tagDigits (count : Nat)
  | alef
  /-- A lamed, behind a joiner if `joined`. -/
  | lamed (joined : Bool)
  /-- A Buginese ya, behind a joiner if `joined`. -/
  | ya (joined : Bool)
  /-- A Buginese vowel i, a joiner and a ya. -/
  | vowelYa
  /-- A consonant of Tifinagh, behind a joiner if `joined`. -/
  | tifinagh (joined : Bool)
  /-- The consonant joiner of Tifinagh and a consonant. -/
  | tifinaghJoined
  /-- The second half of a Lisu tone. -/
  | lisuTone
  /-- An Old Turkic letter i, behind a joiner if `joined`. -/
  | orkhonI (joined : Bool)
  /-- A Khmer letter that can be written below another. -/
  | khmerLetter
  deriving DecidableEq, Repr

namespace Opening

/-- A letter that may be written as one with the letter in front of it. -/
def isLetter : Opening → Bool
  | alef | lamed _ | ya _ | vowelYa | tifinagh _ | tifinaghJoined | lisuTone | orkhonI _
  | khmerLetter => true
  | _ => false

/-- A joined picture that a selected picture may be in front of. -/
def isJoined : Opening → Bool
  | joinedPicture | joinedKeycap => true
  | _ => false

/-- A letter behind a joiner. -/
def join : Opening → Opening
  | lamed _ => lamed true
  | ya _ => ya true
  | tifinagh _ => tifinagh true
  | orkhonI _ => orkhonI true
  | opening => opening

end Opening

/-- What follows a character: an opening, and variation selectors in front of it. -/
structure Sequel where
  opening : Opening
  /-- A selector that asks for plain text. -/
  asText : Bool := false
  /-- A selector that asks for a picture. -/
  asPicture : Bool := false
  deriving DecidableEq, Repr

namespace Sequel

/-- The sequel of the last character of a text. -/
def nothing : Sequel := ⟨.plain, false, false⟩

/-- A sequel behind a selector that asks for a picture. Letters may be written as one in spite of
it. -/
def selectPicture (s : Sequel) : Sequel :=
  if s.opening.isLetter || s.opening.isJoined then { s with asPicture := true }
  else ⟨.plain, false, true⟩

/-- A sequel behind a selector that asks for plain text. -/
def selectText (s : Sequel) : Sequel :=
  if s.opening.isLetter then { s with asText := true } else ⟨.plain, true, false⟩

/-- A sequel without a selector for pictures that found none. -/
def dropPicture (s : Sequel) : Sequel :=
  if s.opening.isLetter then { s with asPicture := false } else nothing

end Sequel

/-! ## Characters -/

/-- A character that asks for the character in front of it to be a picture. -/
def pictureSelector : Char := '\uFE0F'

/-- A character that asks for the character in front of it to be plain text. -/
def textSelector : Char := '\uFE0E'

/-- A picture by itself. -/
def isPicture (c : Char) : Bool :=
  inRanges colorRanges c

/-- A picture by itself that a selector shows as plain text in one cell. -/
def narrowsAsText (c : Char) : Bool :=
  inRanges styleRanges c && isPicture c && !between 0x1F200 0x1F2FF c

/-- A mark that is not seen, over which letters are joined. -/
def isUnseenMark (c : Char) : Bool :=
  inRanges [(0x34F, 0x34F), (0x17B4, 0x17B5), (0x180B, 0x180D), (0x180F, 0x180F), (0xFE00, 0xFE0F),
    (0xE0100, 0xE01EF)] c

/-- An Arabic letter that is written as one with an alef behind it. -/
def isLam (c : Char) : Bool :=
  inRanges [(0x644, 0x644), (0x6B5, 0x6B8), (0x76A, 0x76A), (0x8A6, 0x8A6), (0x8C7, 0x8C7)] c

/-- An alef. -/
def isAlef (c : Char) : Bool :=
  inRanges [(0x622, 0x623), (0x625, 0x625), (0x627, 0x627), (0x671, 0x673), (0x675, 0x675),
    (0x773, 0x774), (0x870, 0x882)] c

/-- A mark over which Arabic letters are joined. -/
def isTransparent (c : Char) : Bool :=
  inRanges zeroWidthRanges c && !inRanges unjoinedRanges c

/-- A consonant of Tifinagh that can be joined. -/
def isTifinagh (c : Char) : Bool :=
  inRanges [(0x2D31, 0x2D65), (0x2D6F, 0x2D6F)] c

/-- A Khmer letter that can be written below another. -/
def isKhmerLetter (c : Char) : Bool :=
  inRanges [(0x1780, 0x1782), (0x1784, 0x1787), (0x1789, 0x178C), (0x178E, 0x1793),
    (0x1795, 0x1798), (0x179B, 0x179D), (0x17A0, 0x17A0), (0x17A2, 0x17A2), (0x17A7, 0x17A7),
    (0x17AB, 0x17AC), (0x17AF, 0x17AF)] c

/-- A letter of a tag. -/
def isTagLetter (c : Char) : Bool :=
  between 0xE0061 0xE007A c

/-- A digit of a tag. -/
def isTagDigit (c : Char) : Bool :=
  between 0xE0030 0xE0039 c

/-- The end of a tag. -/
def isTagEnd (c : Char) : Bool :=
  c.toNat = 0xE007F

/-- The flag that tags are written behind. -/
def isBlackFlag (c : Char) : Bool :=
  c.toNat = 0x1F3F4

/-! ## Measuring -/

/-- What a letter that takes one cell is for the letter in front of it. -/
def openingOf (c : Char) : Opening :=
  if isAlef c then .alef
  else if c = '\u05DC' then .lamed false
  else if c = '\u1A10' then .ya false
  else if isTifinagh c then .tifinagh false
  else if between 0xA4FC 0xA4FD c then .lisuTone
  else if c.toNat = 0x10C03 then .orkhonI false
  else if isKhmerLetter c then .khmerLetter
  else .plain

/-- The width of a character by itself, and what it is for the character in front of it. -/
def measureAlone (c : Char) : Int × Opening :=
  if inRanges zeroWidthRanges c then (0, .plain)
  else if isRegional c then (1, .regional false)
  else if isTone c then (2, .tone)
  else if isPicture c then (2, .picture)
  else if inRanges wideRanges c then (2, .plain)
  else if c = '\u17D8' then (3, .plain)
  else (1, openingOf c)

/-- What a character adds to the width if it forms a sequence with what follows it. -/
def measureJoined? (c : Char) : Opening → Option (Int × Opening)
  | .alef => if isLam c then some (0, .plain) else if isTransparent c then some (0, .alef) else none
  | .lamed true => if c = '\u05D0' then some (0, .plain) else none
  | .khmerLetter => if c = '\u17D2' then some (-1, .plain) else none
  | .ya true => if c = '\u1A17' then some (0, .vowelYa) else none
  | .vowelYa => if c = '\u1A15' then some (0, .plain) else none
  | .tifinagh joined =>
    if c = '\u2D7F' then some (1, .tifinaghJoined)
    else if joined && isTifinagh c then some (0, .plain)
    else none
  | .tifinaghJoined => if isTifinagh c then some (-1, .plain) else none
  | .lisuTone => if between 0xA4F8 0xA4FB c then some (0, .plain) else none
  | .orkhonI true => if c.toNat = 0x10C32 then some (0, .plain) else none
  | .picture => if c = zeroWidthJoiner then some (0, .joinedPicture) else none
  | .tone =>
    if inRanges toneBaseRanges c then some (0, .picture)
    else if c = zeroWidthJoiner then some (0, .joinedPicture)
    else none
  | .regional several =>
    if isRegional c then some (1, .regional true)
    else if several && c = zeroWidthJoiner then some (0, .joinedPicture)
    else none
  | .joinedPicture =>
    if c = '\u20E3' then some (0, .joinedKeycap)
    else if isRegional c then some (1, .joinedRegional)
    else if isTone c then some (0, .tone)
    else if isTagEnd c then some (0, .tagLetters 0)
    else if isPicture c then some (0, .picture)
    else none
  | .joinedRegional => if isRegional c then some (-1, .joinedEven) else none
  | .joinedEven =>
    if isRegional c then some (3, .joinedOdd)
    else if c = zeroWidthJoiner then some (0, .joinedPicture)
    else none
  | .joinedOdd =>
    if isRegional c then some (-1, .joinedEven)
    else if c = zeroWidthJoiner then some (0, .joinedPicture)
    else none
  | .tagLetters count =>
    if isTagLetter c && count < 6 then some (0, .tagLetters (count + 1))
    else if isTagDigit c && count ≤ 4 then some (0, .tagDigits 1)
    else if isBlackFlag c && 3 ≤ count then some (0, .picture)
    else none
  | .tagDigits count =>
    if isTagDigit c && count < 3 then some (0, .tagDigits (count + 1))
    else if isBlackFlag c && count = 3 then some (0, .picture)
    else none
  | .plain | .lineFeed | .joinedKeycap | .lamed false | .ya false | .orkhonI false => none

/-- Measures a character beyond ASCII of which no picture was asked for. -/
def measureWord (c : Char) (s : Sequel) : Int × Sequel :=
  if c = pictureSelector then (0, s.selectPicture)
  else if c = textSelector then (0, s.selectText)
  else if s.asText && narrowsAsText c then (1, .nothing)
  else if s.opening.isLetter && s.opening ≠ .alef && c = zeroWidthJoiner then
    (0, ⟨s.opening.join, false, false⟩)
  else if s.opening.isLetter && s.opening ≠ .alef && isUnseenMark c then
    (0, ⟨s.opening, false, false⟩)
  else
    let (cells, opening) := (measureJoined? c s.opening).getD (measureAlone c)
    (cells, ⟨opening, false, false⟩)

/-- Measures a character of which no picture was asked for. A carriage return and a line feed take
one cell together. -/
def measurePlain (c : Char) (s : Sequel) : Int × Sequel :=
  if c = '\n' then (1, ⟨.lineFeed, false, false⟩)
  else if c.toNat ≤ 0xA0 then
    (if c = '\r' && s = ⟨.lineFeed, false, false⟩ then 0 else 1, .nothing)
  else measureWord c s

/-- What a character adds to the width of the text behind it, and the sequel for the character in
front of it. -/
def measure (c : Char) (s : Sequel) : Int × Sequel :=
  if s.asPicture then
    if inRanges styleRanges c then (if s.opening.isJoined then 0 else 2, ⟨.picture, false, false⟩)
    else measurePlain c s.dropPicture
  else measurePlain c s

/-- The number of cells of a text so far, and its sequel. -/
def measureAll (s : List Char) : Int × Sequel :=
  s.foldr (fun c behind =>
    let (cells, sequel) := measure c behind.2
    (behind.1 + cells, sequel)) (0, .nothing)

/-- The number of cells that a text takes. -/
def width (s : List Char) : Nat :=
  (measureAll s).1.toNat

/-! ## Printable text -/

@[simp]
theorem width_nil : width [] = 0 := rfl

theorem measure_of_printable {c : Char} (h : isPrintable c = true) :
    measure c .nothing = (1, .nothing) := by
  have hr : c ≠ '\r' := by
    rintro rfl
    exact absurd h (by decide)
  have hn : c ≠ '\n' := by
    rintro rfl
    exact absurd h (by decide)
  have hc : c.toNat ≤ 0xA0 := by
    simp [isPrintable, between] at h
    omega
  simp [measure, measurePlain, Sequel.nothing, hr, hn, hc]

theorem measureAll_of_printable {s : List Char} (h : ∀ c ∈ s, isPrintable c = true) :
    measureAll s = ((s.length : Int), Sequel.nothing) := by
  induction s with
  | nil => rfl
  | cons c s ih =>
    have hs := ih fun d hd => h d (List.mem_cons_of_mem _ hd)
    rw [measureAll] at hs ⊢
    rw [List.foldr_cons, hs]
    simp [measure_of_printable (h c List.mem_cons_self)]

/-- Printable ASCII text takes one cell for each character. -/
theorem width_of_printable {s : List Char} (h : ∀ c ∈ s, isPrintable c = true) :
    width s = s.length := by
  simp [width, measureAll_of_printable h]

end Turtle.Text

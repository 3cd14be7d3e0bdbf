import Turtle.Proofs.Command.Range
import Turtle.Proofs.Text.Numbered
import Turtle.Proofs.Text.Plain
import Turtle.Session.Files

/-!
# Scripts that are written

The text of a log is a script: every primitive has a line, and on it the statement of the verb that
draws it. Read again, each line has that one statement, and the statement is valid and stands for
the primitive if the numbers of the primitive are in range.

* `Primitive.statement` is the statement of a primitive, `Primitive.toList_text` its text;
* `Primitive.exists_validate`: the statement of a primitive in range stands for it;
* `Script.read_commandFile`: what the text of a log has on its lines.
-/

namespace Turtle

open Text

namespace Statement

/-- A statement as it is written: its words with spaces between them. -/
def written (s : Statement) : List Char :=
  [' '].intercalate ((s.verb :: s.args).map String.toList)

/-- All words of a statement are plain. -/
def IsPlain (s : Statement) : Prop :=
  ∀ w ∈ s.verb :: s.args, IsPlainWord w.toList

variable {s : Statement} (h : s.IsPlain)
include h

theorem isPlainWord_of_mem {w : List Char} (hw : w ∈ (s.verb :: s.args).map String.toList) :
    IsPlainWord w := by
  obtain ⟨v, hv, rfl⟩ := List.mem_map.1 hw
  exact h v hv

theorem isPlainLine_written : IsPlainLine s.written :=
  .intercalate (List.cons_ne_nil _ _) fun _ hw => isPlainWord_of_mem h hw

/-- A plain statement that is written is read back. -/
theorem ofChars?_written : ofChars? s.written = some s := by
  have hverb : lowerChars s.verb.toList = s.verb.toList :=
    lowerChars_of_isPlain (h s.verb List.mem_cons_self).2
  rw [ofChars?, written, words_intercalate fun _ hw => isPlainWord_of_mem h hw, List.map_cons,
    ofWords?, hverb, String.ofList_toList, List.map_map]
  have hargs : s.args.map (String.ofList ∘ String.toList) = s.args :=
    (List.map_congr_left fun w _ => String.ofList_toList).trans (List.map_id _)
  rw [hargs]

/-- It is the only statement on its line. -/
theorem ofLine_written : ofLine s.written = [s] := by
  -- Nothing separates statements on the line.
  have hsemicolon := (isPlainLine_written h).not_mem (c := ';') (by decide) (by decide)
  rw [ofLine, List.splitOn_eq_singleton hsemicolon]
  simp only [List.filterMap_cons, ofChars?_written h, List.filterMap_nil]

/-- The line of a script that it is written on. -/
theorem scriptLine_written (n : Nat) :
    ScriptLine.ofChars? n s.written = some ⟨n, String.ofList s.written, [s]⟩ := by
  have hline := isPlainLine_written h
  rw [ScriptLine.ofChars?, hline.trim_eq, if_neg (hline.head?_ne (by decide)), ofLine_written h]

end Statement

/-! ## Numbers -/

theorem isPlainWord_writeNat (n : Nat) : IsPlainWord (writeNat n) := by
  constructor
  · intro hnil
    have hread := readDigits?_writeNat n
    rw [hnil] at hread
    cases hread
  · intro c hc
    rw [isPlain, isDigit_of_mem_writeNat hc, Bool.or_true, Bool.true_or]

theorem isPlainWord_writeInt (n : Int) : IsPlainWord (writeInt n) := by
  cases n with
  | ofNat n => exact isPlainWord_writeNat n
  | negSucc n =>
    obtain ⟨-, hplain⟩ := isPlainWord_writeNat (n + 1)
    refine ⟨List.cons_ne_nil _ _, fun c hc => ?_⟩
    rcases List.mem_cons.1 hc with rfl | hc
    · decide
    · exact hplain c hc

theorem isPlainWord_writeInt32 (n : Int32) : IsPlainWord (writeInt32 n).toList := by
  rw [writeInt32, String.toList_ofList]
  exact isPlainWord_writeInt _

theorem isPlainWord_writeUInt8 (n : UInt8) : IsPlainWord (writeUInt8 n).toList := by
  rw [writeUInt8, natText, String.toList_ofList]
  exact isPlainWord_writeNat _

/-- A byte that is written is read back as a number of 32 bits. -/
theorem readInt32?_writeUInt8 (n : UInt8) :
    readInt32? (writeUInt8 n) = some (Int32.ofInt n.toNat) := by
  have hlt := n.toNat_lt
  have hread : readInt? (writeNat n.toNat) = some (n.toNat : Int) := readInt?_writeInt (.ofNat _)
  rw [readInt32?, writeUInt8, natText, String.toList_ofList, hread, Option.bind_some, int32OfInt?,
    if_pos (by omega)]

/-- The check of a pen width lets a valid width through. -/
theorem Verb.checkWidth_ofInt {w : UInt8} (h : IsPenWidth w) :
    checkWidth (Int32.ofInt w.toNat) = .ok w := by
  obtain ⟨hlo, hhi⟩ := h
  rw [UInt8.le_iff_toNat_le] at hlo hhi
  have hlo : 1 ≤ w.toNat := hlo
  have hhi : w.toNat ≤ 10 := hhi
  have hint : (Int32.ofInt w.toNat).toInt = w.toNat :=
    Int32.toInt_ofInt_of_le (by omega) (by omega)
  rw [checkWidth, if_pos]
  · rw [hint, Int.toNat_natCast, UInt8.ofNat_toNat]
  · rw [Int32.le_iff_toInt_le, Int32.le_iff_toInt_le, hint]
    show (1 : Int) ≤ _ ∧ _ ≤ (10 : Int)
    omega

/-! ## Primitives -/

namespace Primitive

/-- The statement that a primitive is written as. -/
def statement : Primitive → Statement
  | move d => ⟨"move", [writeInt32 d]⟩
  | reverse d => ⟨"reverse", [writeInt32 d]⟩
  | left d => ⟨"left", [writeInt32 d]⟩
  | right d => ⟨"right", [writeInt32 d]⟩
  | penUp => ⟨"penup", []⟩
  | penDown => ⟨"pendown", []⟩
  | color c => ⟨c.name, []⟩
  | pen c => ⟨"pen", [writeInt32 c.red, writeInt32 c.green, writeInt32 c.blue]⟩
  | penWidth w => ⟨"penwidth", [writeUInt8 w]⟩
  | circle r => ⟨"circle", [writeInt32 r]⟩
  | reset => ⟨"reset", []⟩

theorem toList_text (p : Primitive) : p.text.toList = p.statement.written := by
  cases p <;> simp [text, statement, Statement.written, Rgb.text]

theorem isPlain_statement (p : Primitive) : p.statement.IsPlain := by
  have hverb : IsPlainWord p.statement.verb.toList := by
    cases p with
    | color c => cases c <;> exact isPlainWord_of_all (by decide) (by decide)
    | _ =>
      dsimp only [statement]
      exact isPlainWord_of_all (by decide) (by decide)
  have hargs (w : String) (hw : w ∈ p.statement.args) : IsPlainWord w.toList := by
    cases p with
    | move d | reverse d | left d | right d | circle d =>
      rw [List.mem_singleton.1 hw]
      exact isPlainWord_writeInt32 d
    | pen c =>
      simp only [statement, List.mem_cons, List.not_mem_nil, or_false] at hw
      rcases hw with rfl | rfl | rfl
      all_goals exact isPlainWord_writeInt32 _
    | penWidth width =>
      rw [List.mem_singleton.1 hw]
      exact isPlainWord_writeUInt8 width
    | penUp | penDown | reset | color c => exact absurd hw List.not_mem_nil
  intro w hw
  rcases List.mem_cons.1 hw with rfl | hw
  · exact hverb
  · exact hargs w hw

end Primitive

namespace Verb

/-- A number that stands as an argument is read. -/
theorem wholeNumber_of_read (verb : String) {args : List String} {i : Nat} {value : String}
    {n : Int32} (h : args[i]? = some value) (hread : readInt32? value = some n) :
    wholeNumber verb args i = .ok n := by
  rw [wholeNumber, h]
  dsimp only
  rw [hread]

theorem wholeNumber_writeInt32 (verb : String) {args : List String} {i : Nat} {n : Int32}
    (h : args[i]? = some (writeInt32 n)) : wholeNumber verb args i = .ok n :=
  wholeNumber_of_read verb h (readInt32?_writeInt32 n)

theorem ofDistance_writeInt32 (verb : String) (make : Int32 → Command) {n : Int32}
    (h : IsDistance n) : ofDistance verb make [writeInt32 n] = .ok (make n) := by
  have hread : wholeNumber verb [writeInt32 n] 0 = .ok n := wholeNumber_writeInt32 verb rfl
  have hcheck : checkDistance n = .ok n := if_pos h
  rw [ofDistance, distance, hread]
  show make <$> checkDistance n = _
  rw [hcheck]
  rfl

theorem ofDegrees_writeInt32 (verb : String) (make : Int32 → Primitive) (n : Int32) :
    ofDegrees verb make [writeInt32 n] = .ok (.primitive (make n)) := by
  have hread : wholeNumber verb [writeInt32 n] 0 = .ok n := wholeNumber_writeInt32 verb rfl
  show (fun n => Command.primitive (make n)) <$> wholeNumber verb [writeInt32 n] 0 = _
  rw [hread]
  rfl

theorem buildPen_writeInt32 (c : Rgb) :
    buildPen [writeInt32 c.red, writeInt32 c.green, writeInt32 c.blue] =
      .ok (.primitive (.pen c)) := by
  rw [buildPen, wholeNumber_writeInt32 (n := c.red) _ rfl,
    wholeNumber_writeInt32 (n := c.green) _ rfl, wholeNumber_writeInt32 (n := c.blue) _ rfl]
  rfl

theorem buildPenWidth_writeUInt8 {w : UInt8} (h : IsPenWidth w) :
    buildPenWidth [writeUInt8 w] = .ok (.primitive (.penWidth w)) := by
  have hread : wholeNumber "penwidth" [writeUInt8 w] 0 = .ok (Int32.ofInt w.toNat) :=
    wholeNumber_of_read "penwidth" rfl (readInt32?_writeUInt8 w)
  rw [buildPenWidth, hread]
  show (do let width ← checkWidth (Int32.ofInt w.toNat); return _) = _
  rw [checkWidth_ofInt h]
  rfl

end Verb

/-- The statement of a primitive in range is valid, and what it stands for on a line of a script
    is the primitive. -/
theorem Primitive.exists_validate {p : Primitive} (h : p.InRange) :
    ∃ c, p.statement.validate = .ok c ∧ c.canonical? = some p := by
  cases p with
  | move d => exact ⟨.primitive (.move d), Verb.ofDistance_writeInt32 _ _ h, rfl⟩
  | reverse d => exact ⟨.primitive (.reverse d), Verb.ofDistance_writeInt32 _ _ h, rfl⟩
  | left d => exact ⟨.primitive (.left d), Verb.ofDegrees_writeInt32 _ _ d, rfl⟩
  | right d => exact ⟨.primitive (.right d), Verb.ofDegrees_writeInt32 _ _ d, rfl⟩
  | penUp => exact ⟨.primitive .penUp, rfl, rfl⟩
  | penDown => exact ⟨.primitive .penDown, rfl, rfl⟩
  | color c => exact ⟨.primitive (.color c), by cases c <;> rfl, rfl⟩
  | pen c => exact ⟨.primitive (.pen c), Verb.buildPen_writeInt32 c, rfl⟩
  | penWidth w => exact ⟨.primitive (.penWidth w), Verb.buildPenWidth_writeUInt8 h, rfl⟩
  -- The text of a circle is also that of a shape, which only a user can draw.
  | circle r => exact ⟨.shape (.circle r), Verb.ofDistance_writeInt32 _ _ h, rfl⟩
  | reset => exact ⟨.primitive .reset, rfl, rfl⟩

/-- The commands that log entries are written as are permitted in a script. -/
theorem Command.checkInScript_of_canonical? {c : Command} {p : Primitive}
    (h : c.canonical? = some p) : c.checkInScript = .ok c := by
  cases c with
  | primitive q => rfl
  | shape shape => rfl
  | session request => cases h

/-! ## The text of a log -/

/-- The text of a log has the statement of a primitive on each line. -/
theorem Script.read_commandFile (ps : List Primitive) :
    Script.read (Session.commandFile ps) = (Text.numbered ps).map fun x =>
      ⟨x.1, x.2.text, [x.2.statement]⟩ := by
  have hlines : Text.lines (Session.commandFile ps).toList =
      ps.map fun p => p.statement.written := by
    have hflat : (ps.flatMap fun p => p.text.toList ++ ['\n']) =
        (ps.map fun p => p.statement.written).flatMap fun t => t ++ ['\n'] := by
      simp only [Primitive.toList_text, List.flatMap_map]
    rw [Session.commandFile, String.toList_ofList, hflat, lines_flatMap]
    intro t ht
    obtain ⟨p, -, rfl⟩ := List.mem_map.1 ht
    exact Statement.isPlainLine_written p.isPlain_statement
  have hline (x : Nat × Primitive) : ScriptLine.ofChars? x.1 x.2.statement.written =
      some ⟨x.1, x.2.text, [x.2.statement]⟩ := by
    rw [Statement.scriptLine_written x.2.isPlain_statement, ← x.2.toList_text,
      String.ofList_toList]
  rw [Script.read, hlines, Text.numbered_map, List.filterMap_map, ← List.filterMap_eq_map]
  exact congrArg (List.filterMap · _) (funext hline)

/-- There is nothing wrong with the text of a log in range. -/
theorem Script.check_commandFile {ps : List Primitive} (h : ∀ p ∈ ps, p.InRange) :
    Script.check (Script.read (Session.commandFile ps)) = [] := by
  rw [Script.read_commandFile, Script.check, List.flatMap_map, List.flatMap_eq_nil_iff]
  intro x hx
  have hmem : x.2 ∈ ps := Text.map_snd_numbered ps ▸ List.mem_map_of_mem hx
  obtain ⟨c, hc, hcanonical⟩ := Primitive.exists_validate (h x.2 hmem)
  have hvalid : x.2.statement.validateInScript = .ok c := by
    rw [Statement.validateInScript, hc]
    exact Command.checkInScript_of_canonical? hcanonical
  simp only [ScriptLine.check, List.filterMap_cons, hvalid, List.filterMap_nil]

end Turtle

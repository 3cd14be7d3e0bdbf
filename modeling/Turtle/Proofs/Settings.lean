import Mathlib.Data.List.Induction
import Turtle.Proofs.Command.Number
import Turtle.Proofs.Command.Range
import Turtle.Proofs.Text.Numbered
import Turtle.Proofs.Text.Runs
import Turtle.Proofs.Text.Trim
import Turtle.Settings

/-!
# What settings promise

Which lines a settings file may have, and what it comes to. What a line says is told by the shape of
the line alone; if every line says something, each field is what the last line about it says, and
otherwise the first line that says nothing is the one that is named, whatever comes behind it.

* `SettingsLine.Says` is what a line says, and `SettingsLine.read_eq_ok_iff` that it is read so;
* `LastSaid` is the last value for a field, `Settings.Sums` what all lines come to;
* `Settings.read_names_first_bad_line`: when a text has settings, which, and what is named if not.
-/

namespace Turtle

/-! ## Lines -/

namespace SettingsLine

/-- The keys that are known. -/
def keys : List String := ["canvas_width", "canvas_height", "pen_color", "pen_width", "pen_down"]

/-- What a key says with a value that is valid for it. -/
inductive Gives : String → String → SettingsLine → Prop
  | canvasWidth {value : String} {n : UInt16} (h : Spells value.toList n.toNat) (hn : n ≠ 0) :
      Gives "canvas_width" value (.canvasWidth n)
  | canvasHeight {value : String} {n : UInt16} (h : Spells value.toList n.toNat) (hn : n ≠ 0) :
      Gives "canvas_height" value (.canvasHeight n)
  | penColor {value : String} {r g b : List Char} {c : Rgb}
      (h : Text.Runs Text.isBlank value.toList [r, g, b]) (hr : Spells r c.red.toInt)
      (hg : Spells g c.green.toInt) (hb : Spells b c.blue.toInt) :
      Gives "pen_color" value (.penColor c)
  | penWidth {value : String} {n : UInt8} (h : Spells value.toList n.toNat) (hn : IsPenWidth n) :
      Gives "pen_width" value (.penWidth n)
  | penDown : Gives "pen_down" "true" (.penDown true)
  | penUp : Gives "pen_down" "false" (.penDown false)
  | unknown {key value : String} (h : key ∉ keys) : Gives key value (.unknown key)

/-- What a line says. In front of a comment it is blank, or it has a colon between a key and a
    value; there may be blanks around both. -/
inductive Says (line : List Char) : SettingsLine → Prop
  | nothing {code : List Char} (hcode : Text.UpTo '#' line code) (h : Text.Trims code []) :
      Says line .nothing
  | value {code text before behind key value : List Char} {l : SettingsLine}
      (hcode : Text.UpTo '#' line code) (htext : Text.Trims code text)
      (hcolon : text = before ++ ':' :: behind) (hfirst : ':' ∉ before)
      (hkey : Text.Trims before key) (hvalue : Text.Trims behind value)
      (h : Gives (String.ofList key) (String.ofList value) l) : Says line l

/-- A line of a settings file may be blank, or have a known key with a valid value, or a key that is
    not known. -/
def Acceptable (line : List Char) : Prop := ∃ l, Says line l

/-- A side is a positive number of 16 bits. -/
theorem readSide?_eq_some_iff {value : String} {n : UInt16} :
    readSide? value = some n ↔ Spells value.toList n.toNat ∧ n ≠ 0 := by
  rw [readSide?, Option.filter_eq_some_iff, decide_eq_true_eq]
  refine and_congr_left fun hn => readUInt16?_eq_some_iff ?_
  exact fun h => hn (UInt16.toNat_inj.1 h)

theorem readWidth?_eq_some_iff {value : String} {n : UInt8} :
    readWidth? value = some n ↔ Spells value.toList n.toNat ∧ IsPenWidth n := by
  rw [readWidth?, Option.filter_eq_some_iff, decide_eq_true_eq]
  refine and_congr_left fun hn => readUInt8?_eq_some_iff ?_
  have hpositive : 1 ≤ n.toNat := UInt8.le_iff_toNat_le.1 hn.1
  omega

/-- A color is three numbers with blanks between them. -/
theorem readColor_eq_ok_iff {value : String} {l : SettingsLine} :
    readColor value = .ok l ↔ Gives "pen_color" value l := by
  have hwords (numbers : List Int32) :
      ((Text.words value.toList).map String.ofList).mapM readInt32? = some numbers ↔
        List.Forall₂ (fun word n => Spells word n.toInt) (Text.words value.toList) numbers := by
    simp only [mapM_eq_some_iff, List.forall₂_map_left_iff, readInt32?_eq_some_iff,
      String.toList_ofList]
  constructor
  · intro h
    rw [readColor] at h
    split at h
    · cases h
    · next r g b hread =>
      cases h
      have hspells := (hwords _).1 hread
      have hruns := Text.runs_words value.toList
      revert hspells hruns
      generalize Text.words value.toList = words
      rintro (_ | ⟨hr, _ | ⟨hg, _ | ⟨hb, _ | _⟩⟩⟩) hruns
      exact .penColor hruns hr hg hb
    · cases h
  · intro h
    generalize hkey : "pen_color" = key at h
    cases h with
    | @penColor _ r g b c h hr hg hb =>
      have hread := (hwords [c.red, c.green, c.blue]).2 <|
        (Text.runs_words value.toList).unique h ▸ .cons hr (.cons hg (.cons hb .nil))
      rw [readColor, hread]
    | unknown h => exact absurd (by decide) (hkey ▸ h)
    | _ => exact absurd hkey (by decide)

theorem readValue_eq_ok_iff {key value : String} {l : SettingsLine} :
    readValue key value = .ok l ↔ Gives key value l := by
  constructor
  · intro h
    unfold readValue at h
    split at h
    · split at h
      · next n hread =>
        cases h
        obtain ⟨hspells, hn⟩ := readSide?_eq_some_iff.1 hread
        exact .canvasWidth hspells hn
      · cases h
    · split at h
      · next n hread =>
        cases h
        obtain ⟨hspells, hn⟩ := readSide?_eq_some_iff.1 hread
        exact .canvasHeight hspells hn
      · cases h
    · exact readColor_eq_ok_iff.1 h
    · split at h
      · next n hread =>
        cases h
        obtain ⟨hspells, hn⟩ := readWidth?_eq_some_iff.1 hread
        exact .penWidth hspells hn
      · cases h
    · split at h
      · cases h
        exact .penDown
      · cases h
        exact .penUp
      · cases h
    · next hwidth hheight hcolor hpen hdown =>
      cases h
      refine .unknown fun hmem => ?_
      simp only [keys, List.mem_cons, List.not_mem_nil, or_false] at hmem
      rcases hmem with h | h | h | h | h
      exacts [hwidth h, hheight h, hcolor h, hpen h, hdown h]
  · intro h
    cases h with
    | canvasWidth h hn => rw [readValue, readSide?_eq_some_iff.2 ⟨h, hn⟩]
    | canvasHeight h hn => rw [readValue, readSide?_eq_some_iff.2 ⟨h, hn⟩]
    | penColor h hr hg hb => exact readColor_eq_ok_iff.2 (.penColor h hr hg hb)
    | penWidth h hn => rw [readValue, readWidth?_eq_some_iff.2 ⟨h, hn⟩]
    | penDown => rfl
    | penUp => rfl
    | unknown h =>
      unfold readValue
      split <;> first | rfl | exact absurd (by decide) h

/-- A line is read as what it says. -/
theorem read_eq_ok_iff {line : List Char} {l : SettingsLine} : read line = .ok l ↔ Says line l := by
  have hcode := Text.takeWhile_ne_eq_iff.1 (rfl : line.takeWhile (· ≠ '#') = _)
  have htext := Text.trims_trim (line.takeWhile (· ≠ '#'))
  constructor
  · intro h
    rw [read] at h
    split at h
    · next hempty =>
      cases h
      rw [List.isEmpty_iff.1 hempty] at htext
      exact .nothing hcode htext
    · split at h
      · next hcolon =>
        obtain ⟨hsplit, hfirst⟩ := Text.eq_append_cons_iff.1 ⟨hcolon, rfl, rfl⟩
        exact .value hcode htext hsplit hfirst (Text.trims_trim _) (Text.trims_trim _)
          (readValue_eq_ok_iff.1 h)
      · cases h
  · intro h
    cases h with
    | nothing hcode h =>
      rw [read, Text.takeWhile_ne_eq_iff.2 hcode, Text.trim_eq_iff.2 h]
      rfl
    | @value code text before behind key value l hcode htext hcolon hfirst hkey hvalue h =>
      obtain ⟨hmem, hbefore, hbehind⟩ := Text.eq_append_cons_iff.2 ⟨hcolon, hfirst⟩
      have hne : ¬text.isEmpty = true := fun hempty => by
        rw [List.isEmpty_iff.1 hempty] at hmem
        cases hmem
      rw [read, Text.takeWhile_ne_eq_iff.2 hcode, Text.trim_eq_iff.2 htext]
      simp only [if_neg hne, if_pos hmem, hbefore, hbehind, Text.trim_eq_iff.2 hkey,
        Text.trim_eq_iff.2 hvalue]
      exact readValue_eq_ok_iff.2 h

/-- The numbers on a line are such as a session may begin with. -/
def InRange : SettingsLine → Prop
  | canvasWidth n | canvasHeight n => n ≠ 0
  | penWidth n => IsPenWidth n
  | nothing | unknown _ | penColor _ | penDown _ => True

theorem Gives.inRange {key value : String} {l : SettingsLine} (h : Gives key value l) :
    l.InRange := by
  cases h with
  | canvasWidth _ hn | canvasHeight _ hn | penWidth _ hn => exact hn
  | penColor | penDown | penUp | unknown => trivial

theorem Says.inRange {line : List Char} {l : SettingsLine} (h : Says line l) : l.InRange := by
  cases h with
  | nothing => trivial
  | value _ _ _ _ _ _ h => exact h.inRange

/-- The number of a line matters only when something is wrong with it. -/
theorem readNumbered_eq_ok_iff {line : Nat × List Char} {l : SettingsLine} :
    readNumbered line = .ok l ↔ Says line.2 l := by
  rw [readNumbered, ← read_eq_ok_iff]
  cases read line.2 with
  | ok said =>
    constructor
    · rintro ⟨⟩
      rfl
    · rintro ⟨⟩
      rfl
  | error message => exact ⟨nofun, nofun⟩

theorem readNumbered_eq_error_iff {line : Nat × List Char} {e : LineError} :
    readNumbered line = .error e ↔
      ∃ message, read line.2 = .error message ∧ e = ⟨line.1, String.ofList line.2, message⟩ := by
  rw [readNumbered]
  cases read line.2 with
  | ok l => exact ⟨nofun, nofun⟩
  | error message =>
    constructor
    · intro h
      exact ⟨message, rfl, (Except.error.inj h).symm⟩
    · rintro ⟨_, ⟨⟩, rfl⟩
      rfl

/-- Either a line is acceptable or something is wrong with it. -/
theorem acceptable_iff {line : List Char} :
    Acceptable line ↔ ∀ message, read line ≠ .error message := by
  constructor
  · rintro ⟨l, hl⟩ message h
    cases (read_eq_ok_iff.2 hl).symm.trans h
  · intro h
    cases hread : read line with
    | ok l => exact ⟨l, read_eq_ok_iff.1 hread⟩
    | error message => exact absurd hread (h message)

end SettingsLine

/-! ## Fields -/

/-- The last value that lines give to a field, or a given one if none of them gives any. -/
inductive LastSaid {α : Type} (field : α → SettingsLine) (standard : α) :
    List SettingsLine → α → Prop
  | never {said : List SettingsLine} (h : ∀ v, field v ∉ said) :
      LastSaid field standard said standard
  | last {before after : List SettingsLine} {v : α} (h : ∀ u, field u ∉ after) :
      LastSaid field standard (before ++ field v :: after) v

namespace LastSaid

variable {α : Type} {field : α → SettingsLine} {standard v : α} {said : List SettingsLine}

theorem eq_or_mem (h : LastSaid field standard said v) : v = standard ∨ field v ∈ said := by
  cases h with
  | never => exact .inl rfl
  | last => exact .inr (List.mem_append_right _ List.mem_cons_self)

/-- A line about something else changes nothing. -/
theorem concat (h : LastSaid field standard said v) {l : SettingsLine} (hl : ∀ u, l ≠ field u) :
    LastSaid field standard (said ++ [l]) v := by
  have hbehind {lines : List SettingsLine} (h : ∀ u, field u ∉ lines) (u : α) :
      field u ∉ lines ++ [l] := by
    intro hmem
    rcases List.mem_append.1 hmem with hmem | hmem
    · exact h u hmem
    · exact hl u (List.mem_singleton.1 hmem).symm
  cases h with
  | never h => exact .never (hbehind h)
  | last h =>
    rw [List.append_assoc, List.cons_append]
    exact .last (hbehind h)

/-- A field that only its own lines change has the last value that they give to it. -/
theorem foldl_apply (get : Settings → α) (hset : ∀ s v, get (SettingsLine.apply s (field v)) = v)
    (hkeep : ∀ s l, (∀ v, l ≠ field v) → get (SettingsLine.apply s l) = get s)
    (said : List SettingsLine) (s : Settings) :
    LastSaid field (get s) said (get (said.foldl SettingsLine.apply s)) := by
  induction said using List.reverseRecOn with
  | nil => exact .never fun _ => List.not_mem_nil
  | append_singleton said l ih =>
    rw [List.foldl_append, List.foldl_cons, List.foldl_nil]
    by_cases hl : ∃ v, l = field v
    · obtain ⟨v, rfl⟩ := hl
      rw [hset]
      exact .last fun _ => List.not_mem_nil
    · have hother : ∀ v, l ≠ field v := fun v h => hl ⟨v, h⟩
      rw [hkeep _ l hother]
      exact ih.concat hother

end LastSaid

namespace Settings

/-- What the lines of a settings file come to. -/
structure Sums (said : List SettingsLine) (s : Settings) : Prop where
  canvasWidth : LastSaid .canvasWidth 800 said s.canvasWidth
  canvasHeight : LastSaid .canvasHeight 600 said s.canvasHeight
  penDown : LastSaid .penDown true said s.pen.down
  penColor : LastSaid .penColor Rgb.ofNewPen said s.pen.color
  penWidth : LastSaid .penWidth 1 said s.pen.width

theorem isPenWidth_standard : IsPenWidth standard.pen.width := ⟨by decide, by decide⟩

theorem sums_foldl_apply (said : List SettingsLine) :
    Sums said (said.foldl SettingsLine.apply standard) where
  canvasWidth := by
    refine .foldl_apply (fun s => s.canvasWidth) (fun _ _ => rfl) (fun s l h => ?_) said standard
    cases l with
    | canvasWidth n => exact absurd rfl (h n)
    | _ => rfl
  canvasHeight := by
    refine .foldl_apply (fun s => s.canvasHeight) (fun _ _ => rfl) (fun s l h => ?_) said standard
    cases l with
    | canvasHeight n => exact absurd rfl (h n)
    | _ => rfl
  penDown := by
    refine .foldl_apply (fun s => s.pen.down) (fun _ _ => rfl) (fun s l h => ?_) said standard
    cases l with
    | penDown b => exact absurd rfl (h b)
    | _ => rfl
  penColor := by
    refine .foldl_apply (fun s => s.pen.color) (fun _ _ => rfl) (fun s l h => ?_) said standard
    cases l with
    | penColor c => exact absurd rfl (h c)
    | _ => rfl
  penWidth := by
    refine .foldl_apply (fun s => s.pen.width) (fun _ _ => rfl) (fun s l h => ?_) said standard
    cases l with
    | penWidth n => exact absurd rfl (h n)
    | _ => rfl

/-! ## Texts -/

/-- A text is read if every line says something, and comes to what the lines say in turn. -/
theorem read_eq_ok_iff {text : String} {s : Settings} :
    read text = .ok s ↔ ∃ said, List.Forall₂ SettingsLine.Says (Text.lines text.toList) said ∧
      said.foldl SettingsLine.apply standard = s := by
  have hlines (said : List SettingsLine) :
      (linesOf text).mapM SettingsLine.readNumbered = .ok said ↔
        List.Forall₂ SettingsLine.Says (Text.lines text.toList) said := by
    rw [mapM_eq_ok_iff, ← Text.map_snd_numbered (Text.lines text.toList),
      List.forall₂_map_left_iff]
    simp only [SettingsLine.readNumbered_eq_ok_iff, linesOf]
  constructor
  · intro h
    obtain ⟨said, hsaid, h⟩ := bind_eq_ok_iff.1 h
    exact ⟨said, (hlines said).1 hsaid, Except.ok.inj h⟩
  · rintro ⟨said, hsaid, rfl⟩
    exact bind_eq_ok_iff.2 ⟨said, (hlines said).2 hsaid, rfl⟩

/-- What is wrong with a text is what is wrong with its first bad line. -/
theorem read_eq_error_iff {text : String} {e : LineError} :
    read text = .error e ↔ ∃ before line after message,
      Text.lines text.toList = before ++ line :: after ∧
      (∀ earlier ∈ before, SettingsLine.Acceptable earlier) ∧
      SettingsLine.read line = .error message ∧
      e = ⟨before.length + 1, String.ofList line, message⟩ := by
  have hread : read text = .error e ↔
      (linesOf text).mapM SettingsLine.readNumbered = .error e :=
    bind_eq_error_iff.trans (or_iff_left fun ⟨_, _, h⟩ => nomatch h)
  rw [hread, mapM_eq_error_iff]
  simp only [SettingsLine.readNumbered_eq_ok_iff, SettingsLine.readNumbered_eq_error_iff]
  constructor
  · rintro ⟨before, ⟨n, line⟩, after, hsplit, hbefore, message, hmessage, rfl⟩
    obtain ⟨hlines, rfl⟩ := Text.eq_of_numbered_eq_append_cons hsplit
    refine ⟨_, line, _, message, hlines, List.forall_mem_map.2 hbefore, hmessage, ?_⟩
    rw [List.length_map]
  · rintro ⟨before, line, after, message, hlines, hbefore, hmessage, rfl⟩
    obtain ⟨rest, hrest⟩ := Text.exists_numbered_append_cons before line after
    refine ⟨Text.numbered before, (before.length + 1, line), rest, ?_, fun x hx => ?_, message,
      hmessage, rfl⟩
    · rw [linesOf, hlines, hrest]
    · exact hbefore x.2 (Text.map_snd_numbered before ▸ List.mem_map_of_mem hx)

/-- Settings that are read have numbers with which a session may begin. -/
theorem inRange_of_read {text : String} {s : Settings} (h : read text = .ok s) :
    IsPenWidth s.pen.width ∧ s.canvasWidth ≠ 0 ∧ s.canvasHeight ≠ 0 := by
  obtain ⟨said, hsaid, rfl⟩ := read_eq_ok_iff.1 h
  have hvalid (l : SettingsLine) (hl : l ∈ said) : l.InRange := by
    obtain ⟨line, -, hline⟩ := exists_of_mem_results hsaid hl
    exact hline.inRange
  have hsums := sums_foldl_apply said
  refine ⟨?_, ?_, ?_⟩
  · rcases hsums.penWidth.eq_or_mem with heq | hmem
    · rw [heq]
      exact isPenWidth_standard
    · exact hvalid _ hmem
  · rcases hsums.canvasWidth.eq_or_mem with heq | hmem
    · rw [heq]
      decide
    · exact hvalid _ hmem
  · rcases hsums.canvasHeight.eq_or_mem with heq | hmem
    · rw [heq]
      decide
    · exact hvalid _ hmem

/-- A text has settings if every line is acceptable. Then each field has the last value that a line
    gives to it, or the one it begins with, and all of them are in range. Otherwise the first line
    that is not acceptable is named, with its number and as it stands, whatever follows it. -/
theorem read_names_first_bad_line (text : String) :
    ((∃ s, read text = .ok s) ↔
      ∀ line ∈ Text.lines text.toList, SettingsLine.Acceptable line) ∧
    (∀ s, read text = .ok s →
      (∃ said, List.Forall₂ SettingsLine.Says (Text.lines text.toList) said ∧ Sums said s) ∧
      IsPenWidth s.pen.width ∧ s.canvasWidth ≠ 0 ∧ s.canvasHeight ≠ 0) ∧
    ∀ e, read text = .error e ↔ ∃ before line after message,
      Text.lines text.toList = before ++ line :: after ∧
      (∀ earlier ∈ before, SettingsLine.Acceptable earlier) ∧ ¬SettingsLine.Acceptable line ∧
      SettingsLine.read line = .error message ∧
      e = ⟨before.length + 1, String.ofList line, message⟩ := by
  refine ⟨⟨?_, fun h => ?_⟩, fun s h => ⟨?_, inRange_of_read h⟩, ?_⟩
  · rintro ⟨s, h⟩ line hline
    obtain ⟨said, hsaid, -⟩ := read_eq_ok_iff.1 h
    obtain ⟨l, -, hl⟩ := exists_of_mem_results hsaid.flip hline
    exact ⟨l, hl⟩
  · cases hread : read text with
    | ok s => exact ⟨s, rfl⟩
    | error e =>
      obtain ⟨before, line, after, message, hlines, -, hmessage, -⟩ := read_eq_error_iff.1 hread
      have hline := h line (hlines ▸ List.mem_append_right _ List.mem_cons_self)
      exact absurd hmessage (SettingsLine.acceptable_iff.1 hline message)
  · obtain ⟨said, hsaid, rfl⟩ := read_eq_ok_iff.1 h
    exact ⟨said, hsaid, sums_foldl_apply said⟩
  · intro e
    rw [read_eq_error_iff]
    refine exists_congr fun before => exists_congr fun line => exists_congr fun after =>
      exists_congr fun message => and_congr_right fun _ => and_congr_right fun _ => ?_
    -- With a complaint about it a line cannot be acceptable.
    refine ⟨fun ⟨hmessage, he⟩ => ⟨fun h => ?_, hmessage, he⟩, And.right⟩
    exact SettingsLine.acceptable_iff.1 h message hmessage

/-- Two widths are set, and the last of them stays; with a color of two numbers on the third line,
    that line is named. -/
theorem read_names_first_bad_line_color :
    let good := "pen_width: 4\n# wide\nk : v\r\npen_width : +10 # wider\npen_color: 1 -2\t3"
    let bad := "pen_width: 4\n\n pen_color: 1 2 # 3\nfly"
    (∃ s, read good = .ok s ∧ s.pen.width = 10 ∧ s.canvasWidth ≠ 0 ∧ IsPenWidth s.pen.width) ∧
    read bad = .error ⟨3, " pen_color: 1 2 # 3",
      "pen_color needs three components, got '1 2'"⟩ ∧
    ∃ line ∈ Text.lines bad.toList, ¬SettingsLine.Acceptable line := by
  intro good bad
  let s : Settings := ⟨800, 600, ⟨true, ⟨1, -2, 3⟩, 10⟩⟩
  have hgood : read good = .ok s := by decide +kernel
  obtain ⟨hwidth, hside, -⟩ := ((read_names_first_bad_line good).2.1 s hgood).2
  have hbad : read bad = .error ⟨3, " pen_color: 1 2 # 3",
      "pen_color needs three components, got '1 2'"⟩ := by decide +kernel
  obtain ⟨before, line, after, _, hlines, -, hline, -⟩ :=
    ((read_names_first_bad_line bad).2.2 _).1 hbad
  exact ⟨⟨s, hgood, rfl, hside, hwidth⟩, hbad, line,
    hlines ▸ List.mem_append_right before List.mem_cons_self, hline⟩

theorem isPenWidth_of_read {text : String} {s : Settings} (h : read text = .ok s) :
    IsPenWidth s.pen.width := (inRange_of_read h).1

theorem isPenWidth_of_load {disk : Disk} {path : Path} {s : Settings}
    (h : load disk path = .ok s) : IsPenWidth s.pen.width := by
  rw [load] at h
  split at h
  · cases h
  · split at h
    · cases h
    · next settings hread =>
      cases h
      exact isPenWidth_of_read hread

end Settings

end Turtle

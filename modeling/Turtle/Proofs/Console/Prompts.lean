import Mathlib.Tactic.Common
import Turtle.Proofs.Text.Encoded
import Turtle.Proofs.World.Answers

/-!
# Prompts on a console

A console has its input line by line. Every question takes the next line, whatever is in it, and
gets its answer from that line alone; a message takes nothing. So after any calls the lines that
were taken and the bytes that are unread make up the input, and what is written, or cannot be
written, has no part in it.

* `Console.lines` are the lines of an input with their ends, `Console.takeLine_eq` says that they
  are taken one by one;
* `Console.Call` is a call of the console, `Console.perform` makes calls one after the other;
* `Console.lines_perform`: what is unread after some calls;
* `Console.prompts_read_lines`: what each call in a sequence takes and answers.
-/

namespace Turtle

namespace Console

/-! ## Lines -/

/-- The lines of an input, each with the line feed at its end. What follows the last line feed is a
    line too, unless nothing follows it. -/
def lines (input : Bytes) : List Bytes :=
  let pieces := input.splitOn 0x0A
  pieces.dropLast.map (fun piece => piece ++ [0x0A]) ++
    pieces.getLast?.toList.filter fun piece => !piece.isEmpty

@[simp]
theorem lines_nil : lines [] = [] := by
  simp [lines]

theorem lines_feed_cons (input : Bytes) : lines (0x0A :: input) = [0x0A] :: lines input := by
  have hne := List.splitOn_ne_nil (0x0A : UInt8) input
  rw [lines, lines, List.splitOn_cons_eq_if_modifyHead, if_pos (beq_self_eq_true _),
    List.dropLast_cons_of_ne_nil hne, List.getLast?_cons, List.getLast?_eq_some_getLast hne]
  rfl

/-- A byte that is no line feed belongs to the line of the next byte, if there is one. -/
theorem lines_cons_of_ne {b : UInt8} (hb : b ≠ 0x0A) (input : Bytes) :
    lines (b :: input) = (b :: (lines input).head?.getD []) :: (lines input).tail := by
  obtain ⟨piece, pieces, hpieces⟩ :=
    List.exists_cons_of_ne_nil (List.splitOn_ne_nil (0x0A : UInt8) input)
  rw [lines, lines, List.splitOn_cons_eq_if_modifyHead, if_neg (by simpa using hb), hpieces,
    List.modifyHead_cons]
  -- The byte goes in front of the first piece, which is the last one if there is no line feed.
  cases pieces with
  | nil => cases piece <;> rfl
  | cons next pieces => rfl

/-- Nothing of an input is lost in its lines. -/
theorem flatten_lines (input : Bytes) : (lines input).flatten = input := by
  induction input with
  | nil => rw [lines_nil, List.flatten_nil]
  | cons b input ih =>
    by_cases hb : b = 0x0A
    · rw [hb, lines_feed_cons, List.flatten_cons, ih, List.singleton_append]
    · rw [lines_cons_of_ne hb, List.flatten_cons, List.cons_append]
      congr 1
      cases h : lines input with
      | nil => rw [h] at ih; exact ih
      | cons line more => rw [h] at ih; exact ih

/-- The first line is what is split off. -/
theorem lines_eq_splitLine {input : Bytes} (h : input ≠ []) :
    lines input = (splitLine input).1 :: lines (splitLine input).2 := by
  induction input with
  | nil => exact absurd rfl h
  | cons b input ih =>
    rw [splitLine]
    split
    · next hb => rw [hb, lines_feed_cons]
    · next hb =>
      rw [lines_cons_of_ne hb]
      cases input with
      | nil => rw [lines_nil, splitLine, lines_nil]; rfl
      | cons next input => rw [ih (List.cons_ne_nil _ _)]; rfl

/-- The next line is taken, and the others are left. -/
theorem takeLine_eq (c : Console) :
    c.takeLine = ((lines c.input).head?, { c with input := (lines c.input).tail.flatten }) := by
  rw [takeLine]
  split
  · next h =>
    have hnil : c.input = [] := List.isEmpty_iff.1 h
    rw [hnil, lines_nil]
    exact congrArg (fun input => (none, { c with input := input })) hnil
  · next h =>
    rw [lines_eq_splitLine fun hnil => h (List.isEmpty_iff.2 hnil), List.tail_cons, flatten_lines]
    rfl

/-- A line gives an answer if it is the text of something in UTF-8, and the answer is that text
    without the blanks around it. -/
theorem answer?_eq_some_iff {line : Bytes} {text : String} :
    answer? line = some text ↔ ∃ s, Text.encode s = line ∧ Text.trimmed s = text := by
  simp only [answer?, Option.map_eq_some_iff, Text.decode?_eq_some_iff]

/-! ## Calls -/

/-- A call of a console. -/
inductive Call where
  | report (message : String)
  | confirm (question : String)
  | pick (dialog : Dialog)
  deriving DecidableEq, Repr

/-- What comes back from a call. -/
inductive Answer where
  | nothing
  | decision (yes : Bool)
  | choice (path : Option Path)
  deriving DecidableEq, Repr

namespace Call

/-- A call that asks for a line. -/
def asks : Call → Bool
  | report _ => false
  | confirm _ | pick _ => true

/-- What comes back from a call with a text for an answer, or without one. -/
def answer : Call → Option String → Answer
  | report _, _ => .nothing
  | confirm _, text => .decision (text.any isYes)
  | pick _, text => .choice ((text.filter fun s => !s.isEmpty).map Path.ofText)

/-- Makes a call. -/
def make : Call → Console → Answer × Console
  | report message, c => (.nothing, Host.report message c)
  | confirm question, c =>
    let (yes, c) := Host.confirm question c
    (.decision yes, c)
  | pick dialog, c =>
    let (path, c) := Host.pick dialog c
    (.choice path, c)

end Call

/-- Makes calls, one after the other. -/
def perform : List Call → Console → List Answer × Console
  | [], c => ([], c)
  | call :: calls, c =>
    let (answer, c) := call.make c
    let (answers, c) := perform calls c
    (answer :: answers, c)

/-- How many of the calls ask for a line. -/
def prompts (calls : List Call) : Nat :=
  calls.countP Call.asks

/-! ### One call -/

theorem fst_ask (c : Console) (prompt : String) :
    (c.ask prompt).1 = (lines c.input).head?.bind answer? := by
  rw [ask, takeLine_eq, input_write]

theorem input_ask (c : Console) (prompt : String) :
    (c.ask prompt).2.input = (lines c.input).tail.flatten := by
  rw [ask, takeLine_eq, input_write]

namespace Call

variable (call : Call) (c : Console)

/-- The answer comes from the next line. -/
theorem fst_make : (call.make c).1 = call.answer ((lines c.input).head?.bind answer?) := by
  cases call with
  | report message => rfl
  | confirm question =>
    show Answer.decision (Option.any isYes (c.ask (question ++ " [y/N]")).1) = _
    rw [fst_ask]
    rfl
  | pick dialog =>
    show Answer.choice (((c.ask (dialog.title ++ ":")).1.filter _).map _) = _
    rw [fst_ask]
    rfl

/-- Only a question takes a line, and it takes one. -/
theorem input_make :
    (call.make c).2.input = if call.asks then (lines c.input).tail.flatten else c.input := by
  cases call with
  | report message => exact c.input_write _
  | confirm question => exact c.input_ask _
  | pick dialog => exact c.input_ask _

/-- The line that is taken and the bytes that are left are those that there were. -/
theorem taken_append_input_make :
    (if call.asks then (lines c.input).head?.getD [] else []) ++ (call.make c).2.input =
      c.input := by
  rw [input_make]
  split
  · conv => rhs; rw [← flatten_lines c.input]
    cases lines c.input <;> rfl
  · rfl

end Call

/-! ### All calls -/

theorem perform_cons (call : Call) (calls : List Call) (c : Console) :
    perform (call :: calls) c = ((call.make c).1 :: (perform calls (call.make c).2).1,
      (perform calls (call.make c).2).2) :=
  rfl

theorem perform_append (before after : List Call) (c : Console) :
    perform (before ++ after) c = ((perform before c).1 ++ (perform after (perform before c).2).1,
      (perform after (perform before c).2).2) := by
  induction before generalizing c with
  | nil => rfl
  | cons call before ih =>
    rw [List.cons_append, perform_cons, perform_cons, ih]
    rfl

theorem length_perform (calls : List Call) (c : Console) :
    (perform calls c).1.length = calls.length := by
  induction calls generalizing c with
  | nil => rfl
  | cons call calls ih =>
    rw [perform_cons, List.length_cons, List.length_cons, ih]

/-- The lines of what is left are those behind the first one. -/
theorem lines_flatten_tail (input : Bytes) :
    lines (lines input).tail.flatten = (lines input).tail := by
  by_cases h : input = []
  · rw [h, lines_nil]
    rfl
  · rw [lines_eq_splitLine h, List.tail_cons, flatten_lines]

/-- The calls take as many lines as there are questions among them. -/
theorem lines_perform (calls : List Call) (c : Console) :
    lines (perform calls c).2.input = (lines c.input).drop (prompts calls) := by
  induction calls generalizing c with
  | nil => rfl
  | cons call calls ih =>
    rw [perform_cons, ih, call.input_make, prompts, prompts, List.countP_cons]
    split
    · rw [lines_flatten_tail, List.drop_tail]
    · rfl

/-- What is written makes no difference, and neither does output that is lost. -/
theorem perform_eq {c c' : Console} (h : c'.input = c.input) (calls : List Call) :
    (perform calls c').1 = (perform calls c).1 ∧
      (perform calls c').2.input = (perform calls c).2.input := by
  induction calls generalizing c c' with
  | nil => exact ⟨rfl, h⟩
  | cons call calls ih =>
    have hmake : (call.make c').1 = (call.make c).1 := by rw [call.fst_make, call.fst_make, h]
    have hinput : (call.make c').2.input = (call.make c).2.input := by
      rw [call.input_make, call.input_make, h]
    obtain ⟨hanswers, hrest⟩ := ih hinput
    rw [perform_cons, perform_cons, hmake, hanswers]
    exact ⟨rfl, hrest⟩

/-- Every call in a sequence gets its answer from one line: a question from the next one, which it
    takes, also if it is not UTF-8 and so gives no answer; a message takes nothing. The lines that
    were taken and the bytes that are unread make up the input. All this is so as well if nothing
    can be written. -/
theorem prompts_read_lines (c : Console) (before : List Call) (call : Call) (after : List Call) :
    let line := (lines c.input)[prompts before]?
    let calls := before ++ call :: after
    (perform calls c).1[before.length]? = some (call.answer (line.bind answer?)) ∧
      (perform before c).2.input =
        (if call.asks then line.getD [] else []) ++ (perform (before ++ [call]) c).2.input ∧
      ((lines c.input).take (prompts calls)).flatten ++ (perform calls c).2.input = c.input ∧
      (∀ bytes text, answer? bytes = some text ↔
        ∃ s, Text.encode s = bytes ∧ Text.trimmed s = text) ∧
      ∀ broken, (perform calls { c with broken := broken }).1 = (perform calls c).1 ∧
        (perform calls { c with broken := broken }).2.input = (perform calls c).2.input := by
  intro line calls
  -- What is waiting when the call is made begins with the line.
  have hline : (lines (perform before c).2.input).head? = line := by
    rw [lines_perform, List.head?_drop]
  refine ⟨?_, ?_, ?_, fun _ _ => answer?_eq_some_iff, fun broken => ?_⟩
  · have hlength := length_perform before c
    rw [perform_append, perform_cons, List.getElem?_append_right (Nat.le_of_eq hlength), hlength,
      Nat.sub_self, List.getElem?_cons_zero, call.fst_make, hline]
  · have htaken := call.taken_append_input_make (perform before c).2
    rw [hline] at htaken
    rw [perform_append]
    exact htaken.symm
  · rw [← flatten_lines (perform calls c).2.input, lines_perform, ← List.flatten_append,
      List.take_append_drop, flatten_lines]
  · exact perform_eq (show ({ c with broken := broken } : Console).input = c.input from rfl) calls

/-- The first line is not UTF-8, the second one is `y` with a space, and there is no third one. -/
example : (perform [.confirm "Clear?", .confirm "Quit?", .pick .saveImage]
    ⟨[0xFF, 0x0A, 0x79, 0x20], "", false⟩).1 =
      [.decision false, .decision true, .choice none] := by decide

end Console

end Turtle

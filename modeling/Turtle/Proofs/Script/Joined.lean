import Mathlib.Tactic.Common
import Turtle.Proofs.Text.Numbered
import Turtle.Proofs.Text.Trim
import Turtle.Verb

/-!
# Scripts that are joined

A script behind a line feed is read as by itself, only that its lines are counted on from those in
front of it. Lines that are left out count as well, so that the number of line feeds in front says
by how much the numbers are raised.

* `Script.read_eq_pieces`: the lines of a script are read off the pieces between its line feeds,
  whether they end in a carriage return or not;
* `Script.read_joined`: what two scripts with a line feed between them are read as;
* `Script.check_joined`: what is wrong with them;
* `Script.pairwise_read`: the numbers of the lines increase.
-/

namespace Turtle

/-- How many lines a text takes up in front of another one. -/
def Text.height (a : String) : Nat := 1 + a.toList.count '\n'

/-- The line as it is counted behind `k` others. -/
def ScriptLine.raise (k : Nat) (line : ScriptLine) : ScriptLine :=
  { line with number := k + line.number }

/-- The fault as it is counted behind `k` other lines. -/
def LineError.raise (k : Nat) (e : LineError) : LineError :=
  { e with number := k + e.number }

/-! ## Pieces -/

namespace Text

/-- There is one piece more than there are separators. -/
theorem length_splitOn (c : Char) (s : List Char) : (s.splitOn c).length = 1 + s.count c := by
  induction s with
  | nil => rw [List.splitOn_nil, List.count_nil, List.length_singleton]
  | cons d s ih =>
    rw [List.splitOn_cons_eq_if_modifyHead, List.count_cons]
    split
    · next h =>
      rw [List.length_cons, ih]
      omega
    · next h =>
      rw [List.length_modifyHead, ih]
      rfl

/-- The blank behind a text is trimmed. -/
theorem trim_concat (s : List Char) {c : Char} (hc : isBlank c = true) :
    trim (s ++ [c]) = trim s := by
  obtain ⟨⟨before, behind, hs, hbefore, hbehind⟩, hfirst, hlast⟩ := trims_trim s
  refine trim_eq_iff.2 ⟨⟨before, behind ++ [c], ?_, hbefore, fun d hd => ?_⟩, hfirst, hlast⟩
  · rw [← List.append_assoc, ← hs]
  · rcases List.mem_append.1 hd with hd | hd
    · exact hbehind d hd
    · exact List.mem_singleton.1 hd ▸ hc

theorem trim_stripReturn (s : List Char) : trim (stripReturn s) = trim s := by
  rw [stripReturn]
  split
  · next h =>
    obtain ⟨line, rfl⟩ := List.getLast?_eq_some_iff.1 h
    rw [List.dropLast_concat, trim_concat line (by decide)]
  · rfl

end Text

namespace ScriptLine

variable {n k : Nat} {piece : List Char}

/-- The carriage return at the end of a line is no part of it. -/
theorem ofChars?_stripReturn (n : Nat) (piece : List Char) :
    ofChars? n (Text.stripReturn piece) = ofChars? n piece := by
  rw [ofChars?, ofChars?, Text.trim_stripReturn]

theorem ofChars?_nil (n : Nat) : ofChars? n [] = none := by
  simp [ofChars?, Text.trim, Text.trimStart, Text.trimEnd, Statement.ofLine, Statement.ofChars?,
    Statement.ofWords?]

/-- The number of a line is no matter to what is on it. -/
theorem ofChars?_add (k n : Nat) (piece : List Char) :
    ofChars? (k + n) piece = (ofChars? n piece).map (raise k) := by
  rw [ofChars?, ofChars?]
  split
  · rfl
  · cases Statement.ofLine (Text.trim piece) <;> rfl

theorem number_eq_of_ofChars? {line : ScriptLine} (h : ofChars? n piece = some line) :
    line.number = n := by
  rw [ofChars?] at h
  split at h
  · cases h
  · split at h
    · cases h
    · rw [← Option.some.inj h]

/-- What is wrong with a line is wrong with it wherever it stands. -/
theorem check_raise (k : Nat) (line : ScriptLine) :
    (line.raise k).check = line.check.map (LineError.raise k) := by
  rw [check, check, List.map_filterMap]
  refine congrArg (List.filterMap · line.statements) (funext fun statement => ?_)
  cases statement.validateInScript <;> rfl

end ScriptLine

namespace Script

/-- The lines of a script are read off the pieces between its line feeds. -/
theorem read_eq_pieces (text : String) :
    read text = (Text.numbered (text.toList.splitOn '\n')).filterMap fun piece =>
      ScriptLine.ofChars? piece.1 piece.2 := by
  have hpieces := List.dropLast_concat_getLast (List.splitOn_ne_nil '\n' text.toList)
  rw [read, Text.lines]
  rw [List.getLast?_eq_some_getLast (List.splitOn_ne_nil '\n' text.toList)]
  generalize (text.toList.splitOn '\n').getLast _ = last at hpieces ⊢
  rw [← hpieces, List.dropLast_concat]
  generalize (text.toList.splitOn '\n').dropLast = pieces
  rw [Text.numbered_append, Text.numbered_append, List.filterMap_append, List.filterMap_append,
    Text.numbered_map, List.filterMap_map, List.length_map]
  congr 1
  · exact congrArg (List.filterMap · _)
      (funext fun piece => ScriptLine.ofChars?_stripReturn piece.1 piece.2)
  · -- Behind the last line feed there may be nothing, and then there is no line.
    cases last with
    | nil =>
      have hnone := ScriptLine.ofChars?_nil (pieces.length + 1)
      show [] = List.filterMap _ [(pieces.length + 1, [])]
      rw [List.filterMap_cons, hnone, List.filterMap_nil]
    | cons c last => rfl

/-- Two scripts with a line feed between them have the lines of the first and those of the second,
    counted on from the first. -/
theorem read_joined (a b : String) :
    read (a ++ "\n" ++ b) = read a ++ (read b).map (ScriptLine.raise (Text.height a)) := by
  have hjoined : (a ++ "\n" ++ b).toList.splitOn '\n' =
      a.toList.splitOn '\n' ++ b.toList.splitOn '\n' := by
    rw [String.toList_append, String.toList_append, List.append_assoc]
    exact List.splitOn_append_cons_self _ _
  rw [read_eq_pieces, hjoined, Text.numbered_append, List.filterMap_append, ← read_eq_pieces,
    List.filterMap_map, Text.length_splitOn, read_eq_pieces b, List.map_filterMap]
  congr 1
  exact congrArg (List.filterMap · _) (funext fun piece => ScriptLine.ofChars?_add _ _ _)

theorem check_append (lines more : List ScriptLine) :
    check (lines ++ more) = check lines ++ check more := List.flatMap_append

theorem check_raise (k : Nat) (lines : List ScriptLine) :
    check (lines.map (ScriptLine.raise k)) = (check lines).map (LineError.raise k) := by
  rw [check, check, List.flatMap_map, List.map_flatMap]
  exact congrArg (List.flatMap · lines) (funext fun line => ScriptLine.check_raise k line)

/-- What is wrong with two scripts with a line feed between them. -/
theorem check_joined (a b : String) :
    check (read (a ++ "\n" ++ b)) =
      check (read a) ++ (check (read b)).map (LineError.raise (Text.height a)) := by
  rw [read_joined, check_append, check_raise]

/-- The lines of a script have larger and larger numbers. -/
theorem pairwise_read (text : String) :
    (read text).Pairwise fun line next => line.number < next.number := by
  refine (Text.pairwise_numbered _).filterMap _ fun piece next hlt line hline line' hline' => ?_
  rw [ScriptLine.number_eq_of_ofChars? hline, ScriptLine.number_eq_of_ofChars? hline']
  exact hlt

end Script

end Turtle

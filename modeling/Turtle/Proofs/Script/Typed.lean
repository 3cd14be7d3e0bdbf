import Turtle.Proofs.Script.Pieces

/-!
# Scripts that are typed

The lines of a script can also be typed, one after the other. A comment would be taken for a
statement then, so that comments are left out; the blanks around a line make no difference, for
they are no part of its statements.

* `Statement.ofLine_trim`: a line has the same statements without the blanks around it;
* `Script.flatMap_readAll_typedLines`: the lines of a script that are typed have the statements of
  the script.
-/

namespace Turtle

namespace Statement

/-- A line without semicolons has the statement of its words. -/
theorem ofLine_of_not_mem {s : List Char} (h : ';' ∉ s) : ofLine s = (ofChars? s).toList := by
  rw [ofLine, List.splitOn_eq_singleton h]
  cases hread : ofChars? s with
  | none => simp [hread]
  | some statement => simp [hread]

/-- A blank in front of a line changes none of its statements. -/
theorem ofLine_blank_cons (s : List Char) {c : Char} (hc : Text.isBlank c = true) :
    ofLine (c :: s) = ofLine s := by
  have hne : c ≠ ';' := by
    rintro rfl
    exact absurd hc (by decide)
  have first {piece : List Char} (h : ';' ∉ piece) : ofLine (c :: piece) = ofLine piece := by
    rw [ofLine_of_not_mem h, ofLine_of_not_mem (by simp [h, hne.symm]), ofChars?, ofChars?,
      Text.words_blank_cons piece hc]
  -- The blank belongs to the first piece, which ends at the first semicolon.
  by_cases h : ';' ∈ s
  · obtain ⟨piece, rest, rfl, hpiece⟩ := List.eq_append_cons_of_mem h
    rw [← List.cons_append, ofLine_append_semicolon, ofLine_append_semicolon, first hpiece]
  · exact first h

/-- A blank behind a line changes none of its statements. -/
theorem ofLine_append_blank (s : List Char) {c : Char} (hc : Text.isBlank c = true) :
    ofLine (s ++ [c]) = ofLine s := by
  have hne : c ≠ ';' := by
    rintro rfl
    exact absurd hc (by decide)
  -- The blank belongs to the last piece, so that the pieces before it are taken off.
  induction hlength : s.length using Nat.strongRecOn generalizing s with
  | ind n ih =>
    by_cases h : ';' ∈ s
    · obtain ⟨piece, rest, rfl⟩ := List.append_of_mem h
      have hrest := ih rest.length (by simp at hlength; omega) rest rfl
      rw [List.append_assoc, List.cons_append, ofLine_append_semicolon, ofLine_append_semicolon,
        hrest]
    · have hwords : Text.words (s ++ [c]) = Text.words s := by
        simpa using Text.words_append_blank_cons s [] hc
      rw [ofLine_of_not_mem h, ofLine_of_not_mem (by simp [h, hne.symm]), ofChars?, ofChars?,
        hwords]

/-- The blanks around a line are no part of its statements. -/
theorem ofLine_trim (s : List Char) : ofLine (Text.trim s) = ofLine s := by
  have front (blanks s : List Char) (h : ∀ c ∈ blanks, Text.isBlank c = true) :
      ofLine (blanks ++ s) = ofLine s := by
    induction blanks with
    | nil => rfl
    | cons c blanks ih =>
      rw [List.cons_append, ofLine_blank_cons _ (h c List.mem_cons_self)]
      exact ih fun d hd => h d (List.mem_cons_of_mem _ hd)
  have behind (s blanks : List Char) (h : ∀ c ∈ blanks, Text.isBlank c = true) :
      ofLine (s ++ blanks) = ofLine s := by
    induction blanks generalizing s with
    | nil => rw [List.append_nil]
    | cons c blanks ih =>
      rw [List.append_cons, ih (s ++ [c]) fun d hd => h d (List.mem_cons_of_mem _ hd),
        ofLine_append_blank s (h c List.mem_cons_self)]
  obtain ⟨before, after, hs, hbefore, hafter⟩ := (Text.trims_trim s).surrounded
  have hline : ofLine s = ofLine (before ++ Text.trim s ++ after) := congrArg ofLine hs
  rw [hline, behind _ _ hafter, front _ _ hbefore]

end Statement

namespace Script

/-- A line that is a comment in a script. -/
def isComment (line : List Char) : Bool :=
  (Text.trim line).head? = some '#'

/-- The lines of a script that can be typed: all but comments. -/
def typedLines (text : String) : List String :=
  ((Text.lines text.toList).filter fun line => !isComment line).map String.ofList

/-- The statements that a line has in a script. -/
theorem statements_ofChars? (n : Nat) (line : List Char) :
    (ScriptLine.ofChars? n line).toList.flatMap ScriptLine.statements =
      if isComment line then [] else Statement.ofLine line := by
  rw [ScriptLine.ofChars?, isComment, Statement.ofLine_trim]
  by_cases h : (Text.trim line).head? = some '#'
  · simp [h]
  · rw [if_neg h, decide_eq_false h, if_neg Bool.false_ne_true]
    cases Statement.ofLine line with
    | nil => rfl
    | cons statement statements => simp

/-- What is typed line by line has the statements of the script. -/
theorem flatMap_readAll_typedLines (text : String) :
    (typedLines text).flatMap Statement.readAll = allStatements text := by
  have all (lines : List (Nat × List Char)) :
      (lines.filterMap fun line => ScriptLine.ofChars? line.1 line.2).flatMap
          ScriptLine.statements =
        ((lines.map Prod.snd).filter fun line => !isComment line).flatMap Statement.ofLine := by
    induction lines with
    | nil => rfl
    | cons line lines ih =>
      have hline := statements_ofChars? line.1 line.2
      have hrest : ((line :: lines).filterMap fun line =>
            ScriptLine.ofChars? line.1 line.2).flatMap ScriptLine.statements =
          (ScriptLine.ofChars? line.1 line.2).toList.flatMap ScriptLine.statements ++
            (lines.filterMap fun line => ScriptLine.ofChars? line.1 line.2).flatMap
              ScriptLine.statements := by
        rw [List.filterMap_cons]
        cases ScriptLine.ofChars? line.1 line.2 <;> simp
      rw [hrest, hline, ih, List.map_cons, List.filter_cons]
      cases isComment line.2 <;> simp
  have hread : Statement.readAll ∘ String.ofList = Statement.ofLine := by
    funext line
    simp [Statement.readAll]
  rw [typedLines, List.flatMap_map, allStatements, read, all, Text.map_snd_numbered]
  exact congrArg (List.flatMap · _) hread

end Script

end Turtle

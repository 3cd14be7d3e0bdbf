import Turtle.Proofs.Script.Typed
import Turtle.Proofs.Text.Runs

/-!
# Tokens

Reading a line undoes writing it. A line is written in segments with semicolons between them; a
segment is blank, or has the verb and the arguments of a statement with blanks between them. And
whatever a line is, what is read from it are its tokens, the runs of characters between blanks and
semicolons: none is lost, none is split, and no two are merged.

* `Statement.Segments`: the segments in which statements can be written;
* `Statement.readAll_undoes_writing`: statements are read back from such segments, and the tokens of
  any line are its maximal runs.
-/

namespace Turtle

namespace Statement

/-- The characters that are no part of a token. -/
def separates (c : Char) : Bool :=
  Text.isBlank c || c == ';'

/-- A verb or an argument as it stands in a line. -/
def IsToken (w : List Char) : Prop :=
  w ≠ [] ∧ ∀ c ∈ w, separates c = false

instance (w : List Char) : Decidable (IsToken w) :=
  decidable_of_iff (w ≠ [] ∧ w.all (fun c => !separates c) = true) (by simp [IsToken])

/-- The tokens of a statement. -/
def tokens (s : Statement) : List (List Char) :=
  (s.verb :: s.args).map String.toList

/-- A statement that can be written: its verb is in lower case. -/
structure Writable (s : Statement) : Prop where
  isToken : ∀ token ∈ s.tokens, IsToken token
  lower : Text.lowercase s.verb = s.verb

/-- A text has the tokens of a statement, with blanks between them and maybe around them. -/
def Writes (segment : List Char) (s : Statement) : Prop :=
  ∃ before body after, (∀ c ∈ before, Text.isBlank c = true) ∧
    (∀ c ∈ after, Text.isBlank c = true) ∧ Text.Spaced s.tokens body ∧
    segment = before ++ body ++ after

/-- The segments of statements, in their order, with any number of blank segments. -/
inductive Segments : List Statement → List (List Char) → Prop
  | nil : Segments [] []
  | blank {statements : List Statement} {gap : List Char} {segments : List (List Char)}
      (hgap : ∀ c ∈ gap, Text.isBlank c = true) (hrest : Segments statements segments) :
      Segments statements (gap :: segments)
  | statement {s : Statement} {statements : List Statement} {segment : List Char}
      {segments : List (List Char)} (hs : Writes segment s)
      (hrest : Segments statements segments) :
      Segments (s :: statements) (segment :: segments)

/-! ## From statements to a line and back -/

theorem isBlank_of_separates {c : Char} (h : separates c = false) : Text.isBlank c = false :=
  (Bool.or_eq_false_iff.1 h).1

theorem not_mem_of_isToken {w : List Char} (h : IsToken w) : ';' ∉ w :=
  fun hmem => absurd (h.2 _ hmem) (by decide)

theorem not_mem_of_blank {gap : List Char} (h : ∀ c ∈ gap, Text.isBlank c = true) : ';' ∉ gap :=
  fun hmem => absurd (h _ hmem) (by decide)

theorem not_mem_of_spaced {written : List (List Char)} {s : List Char}
    (h : Text.Spaced written s) (htokens : ∀ token ∈ written, IsToken token) : ';' ∉ s := by
  induction h with
  | one => exact not_mem_of_isToken (htokens _ List.mem_cons_self)
  | cons _ hgap _ ih =>
    obtain ⟨hfirst, hrest⟩ := List.forall_mem_cons.1 htokens
    rw [List.mem_append, List.mem_append]
    rintro ((hmem | hmem) | hmem)
    exacts [not_mem_of_isToken hfirst hmem, not_mem_of_blank hgap hmem, ih hrest hmem]

variable {s : Statement} {segment : List Char}

theorem Writes.not_mem (h : Writes segment s) (hs : s.Writable) : ';' ∉ segment := by
  obtain ⟨before, body, after, hbefore, hafter, hbody, rfl⟩ := h
  rw [List.mem_append, List.mem_append]
  rintro ((hmem | hmem) | hmem)
  exacts [not_mem_of_blank hbefore hmem, not_mem_of_spaced hbody hs.isToken hmem,
    not_mem_of_blank hafter hmem]

/-- What is written for a statement is read as the statement. -/
theorem Writes.ofChars? (h : Writes segment s) (hs : s.Writable) :
    ofChars? segment = some s := by
  obtain ⟨before, body, after, hbefore, hafter, hbody, rfl⟩ := h
  have hwords : Text.words (before ++ body ++ after) = s.tokens := by
    rw [Text.words_append_blanks hafter, Text.words_blanks_append hbefore]
    refine Text.words_of_spaced hbody fun token hmem => ?_
    obtain ⟨hne, hchars⟩ := hs.isToken token hmem
    exact ⟨hne, fun c hc => isBlank_of_separates (hchars c hc)⟩
  have hargs : (s.args.map String.toList).map String.ofList = s.args := by
    rw [List.map_map]
    simp [Function.comp_def]
  have hlower := hs.lower
  rw [Statement.ofChars?, hwords, tokens, List.map_cons, ofWords?, hargs]
  rw [Text.lowercase] at hlower
  rw [hlower]

theorem ofChars?_of_blank {gap : List Char} (h : ∀ c ∈ gap, Text.isBlank c = true) :
    Statement.ofChars? gap = none := by
  have hwords := Text.words_blanks_append (s := []) h
  rw [List.append_nil, Text.words_nil] at hwords
  rw [Statement.ofChars?, hwords, ofWords?]

/-- What segments without semicolons are read as, with semicolons between them. -/
theorem ofLine_intercalate {segments : List (List Char)} (h : ∀ segment ∈ segments, ';' ∉ segment) :
    ofLine ([';'].intercalate segments) = segments.filterMap Statement.ofChars? := by
  rcases eq_or_ne segments [] with rfl | hne
  · rfl
  · rw [ofLine, List.splitOn_intercalate _ h hne]

theorem Segments.read {statements : List Statement} {segments : List (List Char)}
    (h : Segments statements segments) (hwritable : ∀ s ∈ statements, s.Writable) :
    (∀ segment ∈ segments, ';' ∉ segment) ∧
      segments.filterMap Statement.ofChars? = statements := by
  induction h with
  | nil => exact ⟨List.forall_mem_nil _, rfl⟩
  | blank hgap _ ih =>
    obtain ⟨hnot, hread⟩ := ih hwritable
    refine ⟨List.forall_mem_cons.2 ⟨not_mem_of_blank hgap, hnot⟩, ?_⟩
    rw [List.filterMap_cons_none (ofChars?_of_blank hgap), hread]
  | statement hs _ ih =>
    obtain ⟨hfirst, hrest⟩ := List.forall_mem_cons.1 hwritable
    obtain ⟨hnot, hread⟩ := ih hrest
    refine ⟨List.forall_mem_cons.2 ⟨hs.not_mem hfirst, hnot⟩, ?_⟩
    rw [List.filterMap_cons_some (hs.ofChars? hfirst), hread]

/-! ## From a line to its tokens -/

/-- The words of a segment, the first of them apart. -/
def phrase? : List (List Char) → Option (String × List String)
  | [] => none
  | verb :: args => some (String.ofList verb, args.map String.ofList)

/-- The statement of a verb, in any case, and its arguments. -/
def ofPhrase (phrase : String × List String) : Statement :=
  ⟨Text.lowercase phrase.1, phrase.2⟩

theorem ofChars?_eq_map_phrase? (segment : List Char) :
    Statement.ofChars? segment = (phrase? (Text.words segment)).map ofPhrase := by
  rw [Statement.ofChars?]
  cases Text.words segment with
  | nil => rfl
  | cons verb args => simp [ofWords?, phrase?, ofPhrase, Text.lowercase]

/-- The tokens of the phrases in some segments are the words of the segments. -/
theorem flatMap_phrases (segments : List (List Char)) :
    ((segments.filterMap fun segment => phrase? (Text.words segment)).flatMap
        fun phrase => phrase.1 :: phrase.2).map String.toList =
      segments.flatMap Text.words := by
  induction segments with
  | nil => rfl
  | cons segment segments ih =>
    rw [List.flatMap_cons, ← ih]
    cases hwords : Text.words segment with
    | nil => rw [List.filterMap_cons_none (by rw [hwords, phrase?])]; rfl
    | cons verb args =>
      rw [List.filterMap_cons_some (by rw [hwords, phrase?])]
      simp [Function.comp_def]

/-- The words between the semicolons of a line are its maximal runs. -/
theorem runs_flatMap_words (line : List Char) :
    Text.Runs separates line ((line.splitOn ';').flatMap Text.words) := by
  have whole (s : List Char) (h : ∀ c ∈ s, (c == ';') = false) :
      Text.Runs separates s (Text.words s) :=
    (Text.runs_words s).congr fun c hc => by rw [separates, h c hc, Bool.or_false]
  have hsplit (s : List Char) (h : ∀ c ∈ s, (c == ';') = false) : s.splitOn ';' = [s] :=
    List.splitOn_eq_singleton fun hmem => absurd (h _ hmem) (by decide)
  induction line using Text.cut_induction (p := (· == ';')) with
  | whole s h =>
    rw [hsplit s h, List.flatMap_singleton]
    exact whole s h
  | cut s c t h hc ih =>
    cases eq_of_beq hc
    rw [List.splitOn_append_cons_self, List.flatMap_append, hsplit s h, List.flatMap_singleton]
    exact (whole s h).append_cons (by decide) ih

/-- Statements are read back from the segments that they are written in. And the tokens of any line,
    from which its statements are made, are its maximal runs of characters that are neither blank
    nor a semicolon. -/
theorem readAll_undoes_writing :
    (∀ statements segments, (∀ s ∈ statements, s.Writable) → Segments statements segments →
      readAll (String.ofList ([';'].intercalate segments)) = statements) ∧
    ∀ line, (∀ s ∈ readAll line, ∀ arg ∈ s.args,
        arg.toList <:+: line.toList ∧ IsToken arg.toList) ∧
      ∃ phrases : List (String × List String), readAll line = phrases.map ofPhrase ∧
        ∀ runs, Text.Runs separates line.toList runs ↔
          runs = (phrases.flatMap fun phrase => phrase.1 :: phrase.2).map String.toList := by
  constructor
  · intro statements segments hwritable hsegments
    obtain ⟨hnot, hread⟩ := hsegments.read hwritable
    rw [readAll, String.toList_ofList, ofLine_intercalate hnot, hread]
  · intro line
    let phrases := (line.toList.splitOn ';').filterMap fun segment => phrase? (Text.words segment)
    have hread : readAll line = phrases.map ofPhrase := by
      rw [List.map_filterMap, readAll, ofLine]
      exact congrArg (List.filterMap · _) (funext ofChars?_eq_map_phrase?)
    have hruns : Text.Runs separates line.toList
        ((phrases.flatMap fun phrase => phrase.1 :: phrase.2).map String.toList) := by
      rw [flatMap_phrases]
      exact runs_flatMap_words line.toList
    refine ⟨fun s hs arg harg => ?_, phrases, hread,
      fun runs => ⟨fun h => h.unique hruns, fun h => h ▸ hruns⟩⟩
    rw [hread] at hs
    obtain ⟨phrase, hphrase, rfl⟩ := List.mem_map.1 hs
    exact hruns.of_mem (List.mem_map_of_mem
      (List.mem_flatMap.2 ⟨phrase, hphrase, List.mem_cons_of_mem _ harg⟩))

/-- A turn and an undo, with a blank segment between them. -/
theorem readAll_undoes_writing_undo :
    readAll (String.ofList ([';'].intercalate
      [['\t'] ++ (['l', 'e', 'f', 't'] ++ [' ', '\u00A0'] ++ ['4', '5']) ++ [], [' '],
        [] ++ ['u', 'n', 'd', 'o'] ++ ['\n']])) = [⟨"left", ["45"]⟩, ⟨"undo", []⟩] := by
  refine readAll_undoes_writing.1 _ _ ?_ ?_
  · exact List.forall_mem_cons.2 ⟨⟨by decide, by decide⟩, List.forall_mem_singleton.2
      ⟨by decide, by decide⟩⟩
  · have blank {gap : List Char} (h : gap.all Text.isBlank = true) :
        ∀ c ∈ gap, Text.isBlank c = true := List.all_eq_true.1 h
    refine .statement ⟨_, _, _, blank rfl, blank rfl, ?_, rfl⟩
      (.blank (blank rfl) (.statement ⟨_, _, _, blank rfl, blank rfl, .one, rfl⟩ .nil))
    exact .cons (List.cons_ne_nil _ _) (blank rfl) .one

end Statement

end Turtle

import Mathlib.Tactic.Common
import Turtle.Text.Blank

/-!
# Runs

What is left of a text between its separators, and how a text is put together of words and blanks.

* `Runs`: the maximal runs of characters that do not separate;
* `Runs.unique` and `Runs.append_cons`: a text has its runs and no others, and a separator between
  two texts separates their runs;
* `runs_words`: the words of a text are its runs of characters that are not blank;
* `words_of_spaced`: words with blanks between them are read as they were written.
-/

namespace Turtle.Text

/-- The maximal runs of characters of a text that do not separate, in their order. Every separator
    is passed over, and behind a run the text ends or a separator follows. -/
inductive Runs (separates : Char → Bool) : List Char → List (List Char) → Prop
  | nil : Runs separates [] []
  | separator {c : Char} {s : List Char} {runs : List (List Char)} (hc : separates c = true)
      (hs : Runs separates s runs) : Runs separates (c :: s) runs
  | run {run s : List Char} {runs : List (List Char)} (hne : run ≠ [])
      (hrun : ∀ c ∈ run, separates c = false) (hend : ∀ c ∈ s.head?, separates c = true)
      (hs : Runs separates s runs) : Runs separates (run ++ s) (run :: runs)

namespace Runs

variable {p q : Char → Bool} {s t : List Char} {runs runs' : List (List Char)} {c : Char}

/-- A text without separators is one run. -/
theorem of_forall (hne : s ≠ []) (h : ∀ c ∈ s, p c = false) : Runs p s [s] := by
  have hrun : Runs p (s ++ []) [s] := .run hne h (fun _ hc => nomatch hc) .nil
  rwa [List.append_nil] at hrun

/-- A separator between two texts separates their runs. -/
theorem append_cons (h : Runs p s runs) (hc : p c = true) (h' : Runs p t runs') :
    Runs p (s ++ c :: t) (runs ++ runs') := by
  induction h with
  | nil => exact .separator hc h'
  | separator hd _ ih => exact .separator hd ih
  | @run run s runs hne hrun hend _ ih =>
    rw [List.append_assoc]
    refine .run hne hrun (fun d hd => ?_) ih
    cases s with
    | nil => cases hd; exact hc
    | cons d s => exact hend _ hd

/-- Only the characters of a text matter. -/
theorem congr (h : Runs p s runs) (hpq : ∀ c ∈ s, p c = q c) : Runs q s runs := by
  induction h with
  | nil => exact .nil
  | @separator c s runs hc _ ih =>
    refine .separator ?_ (ih fun d hd => hpq d (List.mem_cons_of_mem _ hd))
    rw [← hpq c List.mem_cons_self, hc]
  | @run run s runs hne hrun hend _ ih =>
    refine .run hne (fun d hd => ?_) (fun d hd => ?_)
      (ih fun d hd => hpq d (List.mem_append_right _ hd))
    · rw [← hpq d (List.mem_append_left _ hd), hrun d hd]
    · rw [← hpq d (List.mem_append_right _ (List.mem_of_head? hd)), hend d hd]

/-- A run is a piece of the text, is not empty, and has no separators. -/
theorem of_mem (h : Runs p s runs) {run : List Char} (hmem : run ∈ runs) :
    run <:+: s ∧ run ≠ [] ∧ ∀ c ∈ run, p c = false := by
  induction h with
  | nil => exact absurd hmem List.not_mem_nil
  | separator _ _ ih =>
    obtain ⟨hpiece, hrest⟩ := ih hmem
    exact ⟨List.infix_cons hpiece, hrest⟩
  | @run first s runs hne hrun _ _ ih =>
    rcases List.mem_cons.1 hmem with rfl | hmem
    · exact ⟨(List.prefix_append _ s).isInfix, hne, hrun⟩
    · obtain ⟨hpiece, hrest⟩ := ih hmem
      exact ⟨hpiece.trans (List.suffix_append first s).isInfix, hrest⟩

/-- Where the first run ends is determined. -/
theorem eq_of_append_eq {run run' : List Char} (h : run ++ s = run' ++ t)
    (hrun : ∀ c ∈ run, p c = false) (hrun' : ∀ c ∈ run', p c = false)
    (hend : ∀ c ∈ s.head?, p c = true) (hend' : ∀ c ∈ t.head?, p c = true) :
    run = run' ∧ s = t := by
  induction run generalizing run' with
  | nil =>
    cases run' with
    | nil => exact ⟨rfl, h⟩
    | cons c run' =>
      have hc := hend c (by rw [← List.nil_append s, h]; rfl)
      cases (hrun' c List.mem_cons_self).symm.trans hc
  | cons c run ih =>
    cases run' with
    | nil =>
      have hc := hend' c (by rw [← List.nil_append t, ← h]; rfl)
      cases (hrun c List.mem_cons_self).symm.trans hc
    | cons d run' =>
      obtain ⟨rfl, hbehind⟩ := List.cons.inj h
      obtain ⟨-, hrun⟩ := List.forall_mem_cons.1 hrun
      obtain ⟨-, hrun'⟩ := List.forall_mem_cons.1 hrun'
      obtain ⟨rfl, rfl⟩ := ih hbehind hrun hrun'
      exact ⟨rfl, rfl⟩

/-- A text has its runs and no others. -/
theorem unique (h : Runs p s runs) (h' : Runs p s runs') : runs = runs' := by
  induction h generalizing runs' with
  | nil =>
    generalize hs : [] = s at h'
    cases h' with
    | nil => rfl
    | separator => cases hs
    | run hne => exact absurd (List.append_eq_nil_iff.1 hs.symm).1 hne
  | @separator c s runs hc _ ih =>
    generalize hs : c :: s = s' at h'
    cases h' with
    | nil => cases hs
    | separator _ hs' =>
      cases hs
      exact ih hs'
    | @run run s' runs' hne hrun =>
      obtain ⟨d, run, rfl⟩ := List.exists_cons_of_ne_nil hne
      cases hs
      cases hc.symm.trans (hrun c List.mem_cons_self)
  | @run run s runs hne hrun hend _ ih =>
    generalize hs : run ++ s = s' at h'
    cases h' with
    | nil => exact absurd (List.append_eq_nil_iff.1 hs).1 hne
    | separator hc =>
      obtain ⟨d, run, rfl⟩ := List.exists_cons_of_ne_nil hne
      have hd := hrun d List.mem_cons_self
      rw [(List.cons.inj hs).1, hc] at hd
      cases hd
    | run _ hrun' hend' hs' =>
      obtain ⟨rfl, rfl⟩ := eq_of_append_eq hs hrun hrun' hend hend'
      rw [ih hs']

end Runs

/-- A text has no separators, or else comes apart at the first one. -/
theorem cut_induction {p : Char → Bool} {motive : List Char → Prop}
    (whole : ∀ s, (∀ c ∈ s, p c = false) → motive s)
    (cut : ∀ s c t, (∀ d ∈ s, p d = false) → p c = true → motive t → motive (s ++ c :: t))
    (s : List Char) : motive s := by
  -- The induction is on what is behind a text without separators.
  have behind (s before : List Char) (h : ∀ c ∈ before, p c = false) : motive (before ++ s) := by
    induction s generalizing before with
    | nil => exact whole _ (by rwa [List.append_nil])
    | cons c s ih =>
      cases hc : p c with
      | true => exact cut before c s h hc (ih [] fun _ hd => absurd hd List.not_mem_nil)
      | false =>
        rw [List.append_cons]
        exact ih _ (List.forall_mem_append.2 ⟨h, List.forall_mem_singleton.2 hc⟩)
  exact behind s [] fun _ hc => absurd hc List.not_mem_nil

/-! ## Words -/

variable {s t gap : List Char}

/-- A text without blanks is one word. -/
theorem words_of_forall (hne : s ≠ []) (h : ∀ c ∈ s, isBlank c = false) : words s = [s] := by
  rw [words, List.splitOnP_eq_singleton h]
  simp [hne]

/-- The words of a text are its maximal runs of characters that are not blank. -/
theorem runs_words (s : List Char) : Runs isBlank s (words s) := by
  have whole (s : List Char) (h : ∀ c ∈ s, isBlank c = false) : Runs isBlank s (words s) := by
    rcases eq_or_ne s [] with rfl | hne
    · rw [words_nil]
      exact .nil
    · rw [words_of_forall hne h]
      exact .of_forall hne h
  induction s using cut_induction (p := isBlank) with
  | whole s h => exact whole s h
  | cut s c t h hc ih =>
    rw [words_append_blank_cons s t hc]
    exact (whole s h).append_cons hc ih

theorem words_blanks_append (hgap : ∀ c ∈ gap, isBlank c = true) : words (gap ++ s) = words s := by
  induction gap with
  | nil => rfl
  | cons c gap ih =>
    obtain ⟨hc, hgap⟩ := List.forall_mem_cons.1 hgap
    rw [List.cons_append, words_blank_cons _ hc, ih hgap]

/-- Blanks between two texts separate their words. -/
theorem words_append_blanks_append (hne : gap ≠ []) (hgap : ∀ c ∈ gap, isBlank c = true) :
    words (s ++ gap ++ t) = words s ++ words t := by
  obtain ⟨c, gap, rfl⟩ := List.exists_cons_of_ne_nil hne
  obtain ⟨hc, hgap⟩ := List.forall_mem_cons.1 hgap
  rw [List.append_assoc, List.cons_append, words_append_blank_cons _ _ hc, words_blanks_append hgap]

theorem words_append_blanks (hgap : ∀ c ∈ gap, isBlank c = true) : words (s ++ gap) = words s := by
  rcases eq_or_ne gap [] with rfl | hne
  · rw [List.append_nil]
  · simpa using words_append_blanks_append (s := s) (t := []) hne hgap

/-- Words with one blank or more between any two of them. -/
inductive Spaced : List (List Char) → List Char → Prop
  | one {word : List Char} : Spaced [word] word
  | cons {word gap s : List Char} {rest : List (List Char)} (hne : gap ≠ [])
      (hgap : ∀ c ∈ gap, isBlank c = true) (hs : Spaced rest s) :
      Spaced (word :: rest) (word ++ gap ++ s)

/-- Words with blanks between them are read as they were written. -/
theorem words_of_spaced {written : List (List Char)} (h : Spaced written s)
    (hwords : ∀ word ∈ written, word ≠ [] ∧ ∀ c ∈ word, isBlank c = false) :
    words s = written := by
  induction h with
  | one =>
    obtain ⟨hword, hblank⟩ := hwords _ List.mem_cons_self
    exact words_of_forall hword hblank
  | cons hne hgap _ ih =>
    obtain ⟨⟨hword, hblank⟩, hrest⟩ := List.forall_mem_cons.1 hwords
    rw [words_append_blanks_append hne hgap, words_of_forall hword hblank, ih hrest,
      List.singleton_append]

end Turtle.Text

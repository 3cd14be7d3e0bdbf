import Mathlib.Data.List.TakeWhile
import Mathlib.Tactic.Common
import Turtle.Text.Blank

/-!
# Trimming and cutting

What is left of a text when it is trimmed, and when it is cut at the first of some mark: said by
what was dropped, and not by how it was found.

* `Trims` and `trim_eq_iff`: the text without the blanks at its two ends;
* `UpTo` and `takeWhile_ne_eq_iff`: the text in front of the first mark, or all of it;
* `eq_append_cons_iff`: the texts in front of the first mark and behind it.
-/

namespace Turtle.Text

variable {s t : List Char}

/-! ## Trimming -/

/-- A text is what is left of another without the blanks at its two ends. -/
structure Trims (s t : List Char) : Prop where
  surrounded : ∃ before behind, s = before ++ t ++ behind ∧
    (∀ c ∈ before, isBlank c = true) ∧ ∀ c ∈ behind, isBlank c = true
  first : ∀ c ∈ t.head?, isBlank c = false
  last : ∀ c ∈ t.getLast?, isBlank c = false

/-- Behind the blanks that were dropped there is none. -/
theorem isBlank_of_mem_head?_dropWhile {c : Char} (h : c ∈ (s.dropWhile isBlank).head?) :
    isBlank c = false := by
  have hnot := List.head?_dropWhile_not isBlank s
  rw [Option.mem_def.1 h] at hnot
  exact hnot

/-- Without a blank in front nothing is dropped. -/
theorem dropWhile_isBlank_of_head? (h : ∀ c ∈ s.head?, isBlank c = false) :
    s.dropWhile isBlank = s := by
  cases s with
  | nil => rfl
  | cons c s =>
    rw [List.dropWhile_cons_of_neg]
    rw [h c rfl]
    exact Bool.false_ne_true

theorem trims_trim (s : List Char) : Trims s (trim s) := by
  -- Behind the text that is left stand the last of the characters that were not dropped in front.
  have hend : trim s ++ ((trimStart s).reverse.takeWhile isBlank).reverse = trimStart s := by
    rw [trim, trimEnd, ← List.reverse_append, List.takeWhile_append_dropWhile, List.reverse_reverse]
  refine ⟨⟨s.takeWhile isBlank, ((trimStart s).reverse.takeWhile isBlank).reverse, ?_,
    fun c hc => List.all_eq_true.1 List.all_takeWhile c hc,
    fun c hc => List.all_eq_true.1 List.all_takeWhile c (List.mem_reverse.1 hc)⟩,
    fun c hc => ?_, fun c hc => ?_⟩
  · rw [List.append_assoc, hend, trimStart, List.takeWhile_append_dropWhile]
  · have hstart : c ∈ (trimStart s).head? := by
      rw [← hend, List.head?_append, Option.mem_def.1 hc]
      rfl
    exact isBlank_of_mem_head?_dropWhile hstart
  · rw [trim, trimEnd, List.getLast?_reverse] at hc
    exact isBlank_of_mem_head?_dropWhile hc

/-- What a text is trimmed to. -/
theorem trim_eq_iff : trim s = t ↔ Trims s t := by
  constructor
  · rintro rfl
    exact trims_trim s
  · rintro ⟨⟨before, behind, rfl, hbefore, hbehind⟩, hfirst, hlast⟩
    rw [trim, trimStart, List.append_assoc, List.dropWhile_append_of_pos hbefore]
    rcases eq_or_ne t [] with rfl | hne
    · rw [List.nil_append, List.dropWhile_eq_nil_iff.2 hbehind]
      rfl
    · have hhead : ∀ c ∈ (t ++ behind).head?, isBlank c = false := by
        obtain ⟨c, t, rfl⟩ := List.exists_cons_of_ne_nil hne
        exact hfirst
      have hblanks : ∀ c ∈ behind.reverse, isBlank c = true :=
        fun c hc => hbehind c (List.mem_reverse.1 hc)
      have hreverse : ∀ c ∈ t.reverse.head?, isBlank c = false := by
        rwa [List.head?_reverse]
      rw [dropWhile_isBlank_of_head? hhead, trimEnd, List.reverse_append,
        List.dropWhile_append_of_pos hblanks, dropWhile_isBlank_of_head? hreverse,
        List.reverse_reverse]

/-! ## Cutting -/

variable {mark : Char}

/-- A text is what another one has in front of its first mark; without a mark it is all of it. -/
inductive UpTo (mark : Char) : List Char → List Char → Prop
  | whole {s : List Char} (h : mark ∉ s) : UpTo mark s s
  | cut {s : List Char} (h : mark ∉ s) (behind : List Char) : UpTo mark (s ++ mark :: behind) s

theorem takeWhile_ne_of_not_mem (h : mark ∉ s) : s.takeWhile (· ≠ mark) = s :=
  List.takeWhile_eq_self_iff.2 fun _ hc => decide_eq_true (ne_of_mem_of_not_mem hc h)

theorem takeWhile_ne_append_cons (h : mark ∉ s) (behind : List Char) :
    (s ++ mark :: behind).takeWhile (· ≠ mark) = s := by
  rw [List.takeWhile_append_of_pos fun c hc => decide_eq_true (ne_of_mem_of_not_mem hc h),
    List.takeWhile_cons_of_neg (by simp), List.append_nil]

theorem dropWhile_ne_append_cons (h : mark ∉ s) (behind : List Char) :
    (s ++ mark :: behind).dropWhile (· ≠ mark) = mark :: behind := by
  rw [List.dropWhile_append_of_pos fun c hc => decide_eq_true (ne_of_mem_of_not_mem hc h),
    List.dropWhile_cons_of_neg (by simp)]

/-- What is in front of the first mark. -/
theorem takeWhile_ne_eq_iff : s.takeWhile (· ≠ mark) = t ↔ UpTo mark s t := by
  constructor
  · rintro rfl
    by_cases h : mark ∈ s
    · obtain ⟨before, behind, rfl, hbefore⟩ := List.eq_append_cons_of_mem h
      rw [takeWhile_ne_append_cons hbefore]
      exact .cut hbefore behind
    · rw [takeWhile_ne_of_not_mem h]
      exact .whole h
  · intro h
    cases h with
    | whole h => exact takeWhile_ne_of_not_mem h
    | cut h behind => exact takeWhile_ne_append_cons h behind

/-- What is in front of the first mark and behind it. -/
theorem eq_append_cons_iff {before behind : List Char} :
    (mark ∈ s ∧ s.takeWhile (· ≠ mark) = before ∧ (s.dropWhile (· ≠ mark)).drop 1 = behind) ↔
      s = before ++ mark :: behind ∧ mark ∉ before := by
  constructor
  · rintro ⟨h, rfl, rfl⟩
    obtain ⟨before, behind, rfl, hbefore⟩ := List.eq_append_cons_of_mem h
    rw [takeWhile_ne_append_cons hbefore, dropWhile_ne_append_cons hbefore]
    exact ⟨rfl, hbefore⟩
  · rintro ⟨rfl, hbefore⟩
    rw [takeWhile_ne_append_cons hbefore, dropWhile_ne_append_cons hbefore]
    exact ⟨List.mem_append_right _ List.mem_cons_self, rfl, rfl⟩

end Turtle.Text

import Turtle.Proofs.Text.Runs
import Turtle.Proofs.Text.Trim
import Turtle.Script

/-!
# Plain text

The log is written in small letters, digits and minus signs, in words with a space between them and
a line feed behind each line. Such a text comes apart as it was put together: its lines are the
lines, its words the words, and nothing in it is trimmed, lowered or taken for a comment.

* `Text.words_intercalate`: the words of words with spaces between them;
* `Text.lines_flatMap`: the lines of lines with line feeds behind them;
* `Text.IsPlainLine` is a line of such a text, and has nothing in it that a reader passes over.
-/

namespace Turtle.Text

/-- A character of the words that the log is written in. -/
def isPlain (c : Char) : Bool :=
  c.isLower || c.isDigit || c == '-'

/-- A word of plain characters. -/
def IsPlainWord (w : List Char) : Prop :=
  w ≠ [] ∧ ∀ c ∈ w, isPlain c = true

theorem isPlainWord_of_all {w : List Char} (hne : w ≠ []) (h : w.all isPlain = true) :
    IsPlainWord w :=
  ⟨hne, List.all_eq_true.1 h⟩

/-- Where the plain characters are. -/
theorem toNat_of_isPlain {c : Char} (h : isPlain c = true) :
    c.toNat = 45 ∨ (48 ≤ c.toNat ∧ c.toNat ≤ 57) ∨ (97 ≤ c.toNat ∧ c.toNat ≤ 122) := by
  rw [isPlain, Bool.or_eq_true, Bool.or_eq_true] at h
  rcases h with (h | h) | h
  · have hlower : (decide ('a'.val ≤ c.val) && decide (c.val ≤ 'z'.val)) = true := h
    rw [Bool.and_eq_true, decide_eq_true_eq, decide_eq_true_eq, UInt32.le_iff_toNat_le,
      UInt32.le_iff_toNat_le] at hlower
    exact .inr (.inr hlower)
  · have hdigit : 48 ≤ c.toNat ∧ c.toNat ≤ 57 := Char.isDigit_iff_toNat.1 h
    exact .inr (.inl hdigit)
  · rw [eq_of_beq h]
    exact .inl rfl

theorem isBlank_of_isPlain {c : Char} (h : isPlain c = true) : isBlank c = false := by
  have hc := toNat_of_isPlain h
  simp only [isBlank, Bool.or_eq_false_iff, Bool.and_eq_false_iff, decide_eq_false_iff_not,
    beq_eq_false_iff_ne]
  omega

theorem toLower_of_isPlain {c : Char} (h : isPlain c = true) : c.toLower = c := by
  have hc := toNat_of_isPlain h
  have hupper : ¬ (c.val ≥ 'A'.val ∧ c.val ≤ 'Z'.val) := by
    rw [ge_iff_le, UInt32.le_iff_toNat_le, UInt32.le_iff_toNat_le]
    show ¬ (65 ≤ c.toNat ∧ c.toNat ≤ 90)
    omega
  exact dif_neg hupper

/-- Plain words are in lower case. -/
theorem lowerChars_of_isPlain {w : List Char} (h : ∀ c ∈ w, isPlain c = true) :
    lowerChars w = w := by
  have hascii (c : Char) (hc : c ∈ w) : c.toNat < 0x80 := by
    have hplain := toNat_of_isPlain (h c hc)
    omega
  rw [lowerChars_of_ascii hascii]
  exact (List.map_congr_left fun c hc => toLower_of_isPlain (h c hc)).trans (List.map_id _)

/-! ## Words -/

/-- A text without blanks is one word. -/
theorem words_of_isPlainWord {w : List Char} (h : IsPlainWord w) : words w = [w] := by
  obtain ⟨hne, hplain⟩ := h
  exact words_of_forall hne fun c hc => isBlank_of_isPlain (hplain c hc)

/-- The words of plain words with spaces between them are those words. -/
theorem words_intercalate {ws : List (List Char)} (h : ∀ w ∈ ws, IsPlainWord w) :
    words ([' '].intercalate ws) = ws := by
  induction ws with
  | nil => exact words_nil
  | cons w ws ih =>
    have hw := words_of_isPlainWord (h w List.mem_cons_self)
    cases ws with
    | nil => rw [List.intercalate_singleton, hw]
    | cons v ws =>
      rw [List.intercalate_cons_cons, List.append_assoc, List.singleton_append,
        words_append_blank_cons _ _ (by decide), hw,
        ih fun w hw => h w (List.mem_cons_of_mem _ hw)]
      rfl

/-! ## Lines -/

/-- Without blanks at its two ends there is nothing to trim in a text. -/
theorem trim_eq_self {t s s' : List Char} {c c' : Char} (hfirst : t = c :: s)
    (hc : isBlank c = false) (hlast : t = s' ++ [c']) (hc' : isBlank c' = false) :
    trim t = t := by
  refine trim_eq_iff.2 ⟨⟨[], [], (List.append_nil t).symm, by simp, by simp⟩,
    fun d hd => ?_, fun d hd => ?_⟩
  · rw [hfirst] at hd
    exact Option.some.inj hd ▸ hc
  · rw [hlast, List.getLast?_concat] at hd
    exact Option.some.inj hd ▸ hc'

/-- A text of plain characters and spaces, with plain characters at both ends. -/
structure IsPlainLine (t : List Char) : Prop where
  chars : ∀ c ∈ t, isPlain c = true ∨ c = ' '
  first : ∃ c s, t = c :: s ∧ isPlain c = true
  last : ∃ s c, t = s ++ [c] ∧ isPlain c = true

namespace IsPlainLine

theorem of_word {w : List Char} (h : IsPlainWord w) : IsPlainLine w := by
  obtain ⟨hne, hplain⟩ := h
  refine ⟨fun c hc => .inl (hplain c hc), ?_, ?_⟩
  · obtain ⟨c, s, rfl⟩ := List.exists_cons_of_ne_nil hne
    exact ⟨c, s, rfl, hplain c List.mem_cons_self⟩
  · have hlast := List.dropLast_concat_getLast hne
    exact ⟨w.dropLast, w.getLast hne, hlast.symm, hplain _ (List.getLast_mem hne)⟩

/-- A plain word and a space may come in front of a plain line. -/
theorem word_append {w t : List Char} (hw : IsPlainWord w) (ht : IsPlainLine t) :
    IsPlainLine (w ++ ' ' :: t) := by
  obtain ⟨hchars, ⟨c, s, hfirst, hc⟩, -⟩ := of_word hw
  obtain ⟨hchars', -, ⟨s', c', hlast, hc'⟩⟩ := ht
  refine ⟨fun d hd => ?_, ?_, ?_⟩
  · rcases List.mem_append.1 hd with hd | hd
    · exact hchars d hd
    · rcases List.mem_cons.1 hd with hd | hd
      · exact .inr hd
      · exact hchars' d hd
  · exact ⟨c, s ++ ' ' :: t, by rw [hfirst, List.cons_append], hc⟩
  · exact ⟨w ++ ' ' :: s', c', by rw [hlast, List.append_assoc, List.cons_append], hc'⟩

/-- Plain words with spaces between them are a plain line. -/
theorem intercalate {ws : List (List Char)} (hne : ws ≠ []) (h : ∀ w ∈ ws, IsPlainWord w) :
    IsPlainLine ([' '].intercalate ws) := by
  induction ws with
  | nil => exact absurd rfl hne
  | cons w ws ih =>
    have hw := h w List.mem_cons_self
    cases ws with
    | nil =>
      rw [List.intercalate_singleton]
      exact of_word hw
    | cons v ws =>
      rw [List.intercalate_cons_cons, List.append_assoc, List.singleton_append]
      exact word_append hw (ih (List.cons_ne_nil _ _) fun w hw => h w (List.mem_cons_of_mem _ hw))

variable {t : List Char} (h : IsPlainLine t)
include h

/-- Whatever is neither plain nor a space does not occur. -/
theorem not_mem {c : Char} (hplain : isPlain c = false) (hspace : c ≠ ' ') : c ∉ t := by
  intro hc
  rcases h.chars c hc with hc | hc
  · rw [hplain] at hc
    cases hc
  · exact hspace hc

/-- There is nothing to trim. -/
theorem trim_eq : trim t = t := by
  obtain ⟨-, ⟨c, s, hfirst, hc⟩, ⟨s', c', hlast, hc'⟩⟩ := h
  exact trim_eq_self hfirst (isBlank_of_isPlain hc) hlast (isBlank_of_isPlain hc')

theorem head?_ne {c : Char} (hplain : isPlain c = false) : t.head? ≠ some c := by
  obtain ⟨-, ⟨d, s, rfl, hd⟩, -⟩ := h
  rintro ⟨⟩
  rw [hd] at hplain
  cases hplain

theorem stripReturn_eq : stripReturn t = t := by
  obtain ⟨-, -, ⟨s, c, rfl, hc⟩⟩ := h
  rw [stripReturn, List.getLast?_concat, if_neg]
  rintro ⟨⟩
  exact absurd hc (by decide)

/-- The first line of a text that begins with a plain line. -/
theorem lines_append (rest : List Char) : lines (t ++ '\n' :: rest) = t :: lines rest := by
  -- The line feed behind the line is the first one, so that a piece ends there.
  have hpieces : (t ++ '\n' :: rest).splitOn '\n' = t :: rest.splitOn '\n' := by
    rw [List.splitOn_append_cons_self,
      List.splitOn_eq_singleton (h.not_mem (by decide) (by decide)), List.singleton_append]
  have hne := List.splitOn_ne_nil '\n' rest
  rw [lines, lines, hpieces, List.dropLast_cons_of_ne_nil hne, List.map_cons, h.stripReturn_eq,
    List.getLast?_cons, List.getLast?_eq_some_getLast hne]
  rfl

end IsPlainLine

/-- The lines of plain lines with line feeds behind them are those lines. -/
theorem lines_flatMap {ts : List (List Char)} (h : ∀ t ∈ ts, IsPlainLine t) :
    lines (ts.flatMap fun t => t ++ ['\n']) = ts := by
  induction ts with
  | nil => exact lines_nil
  | cons t ts ih =>
    rw [List.flatMap_cons, List.append_assoc, List.singleton_append,
      (h t List.mem_cons_self).lines_append, ih fun t ht => h t (List.mem_cons_of_mem _ ht)]

end Turtle.Text

import Mathlib.Tactic.Common
import Turtle.Terminal

/-!
# Messages of a terminal

A terminal keeps the last two hundred messages, and a screen shows the last lines of them. A message
that is not empty has a line at least, so on a screen of up to two hundred rows the messages that
were dropped would not be seen anyway.

* `Terminal.Reported` are the messages that were reported to a terminal, among whatever prompts;
* `Terminal.Reported.messages_eq`: it keeps the last of them;
* `Terminal.dropped_messages_are_invisible`: the screen shows the last lines of all of them.
-/

namespace Turtle

/-- A text that is not empty has a line. -/
theorem Text.linesOf_ne_nil {s : String} (h : s ≠ "") : linesOf s ≠ [] := by
  intro hlines
  obtain ⟨hfront, hlast⟩ := List.append_eq_nil_iff.1 (List.map_eq_nil_iff.1 hlines)
  -- The text is all one piece, and that piece is empty.
  obtain ⟨first, rest, hpieces⟩ := List.exists_cons_of_ne_nil (List.splitOn_ne_nil '\n' s.toList)
  rw [hpieces] at hfront hlast
  have hs : ['\n'].intercalate (s.toList.splitOn '\n') = s.toList := List.intercalate_splitOn '\n'
  cases rest with
  | cons next rest => cases hfront
  | nil =>
    rw [hpieces, List.intercalate_singleton] at hs
    rw [hs] at hlast
    have hnil : s.toList = [] := by simpa using hlast
    exact h (String.toList_eq_nil_iff.1 hnil)

namespace Terminal

/-! ## The last items of a list -/

section LastOf

variable {α : Type} {n : Nat} {xs ys : List α}

theorem lastOf_suffix (n : Nat) (xs : List α) : lastOf n xs <:+ xs :=
  List.drop_suffix _ xs

theorem length_lastOf (n : Nat) (xs : List α) : (lastOf n xs).length = min n xs.length := by
  rw [lastOf, List.length_drop]
  omega

/-- What is dropped leaves as many items as there may be. -/
theorem exists_eq_append_lastOf (n : Nat) (xs : List α) :
    ∃ dropped, xs = dropped ++ lastOf n xs ∧ (dropped = [] ∨ (lastOf n xs).length = n) := by
  obtain ⟨dropped, hdropped⟩ := lastOf_suffix n xs
  refine ⟨dropped, hdropped.symm, ?_⟩
  have hlength := congrArg List.length hdropped
  rw [List.length_append] at hlength
  rw [length_lastOf] at hlength ⊢
  rw [← List.length_eq_zero_iff]
  omega

/-- Items in front are of no concern if there are enough behind them. -/
theorem lastOf_append (h : n ≤ ys.length) : lastOf n (xs ++ ys) = lastOf n ys := by
  have hle : xs.length ≤ (xs ++ ys).length - n := by
    rw [List.length_append]
    omega
  rw [lastOf, List.drop_append, List.drop_eq_nil_of_le hle, List.nil_append, lastOf,
    List.length_append]
  congr 1
  omega

/-- What was dropped once may be dropped before. -/
theorem lastOf_lastOf_append (n : Nat) (xs ys : List α) :
    lastOf n (lastOf n xs ++ ys) = lastOf n (xs ++ ys) := by
  obtain ⟨dropped, hxs, hdropped⟩ := exists_eq_append_lastOf n xs
  rcases hdropped with rfl | hfull
  · rw [← List.nil_append (lastOf n xs), ← hxs]
  · have hle : n ≤ (lastOf n xs ++ ys).length := by
      rw [List.length_append, hfull]
      exact Nat.le_add_right n _
    conv_rhs => rw [hxs, List.append_assoc, lastOf_append hle]

end LastOf

/-! ## Messages -/

/-- A terminal to which just these messages were reported, in order. In between it may have asked
    at prompts, and keys may have come and gone. -/
inductive Reported : List String → Terminal → Prop
  | begin (keys : List Key) : Reported [] { keys := keys }
  | report {all : List String} {t : Terminal} (h : Reported all t) (message : String) :
      Reported (all ++ [message]) (t.report message)
  | ask {all : List String} {t : Terminal} (h : Reported all t) (question : String) :
      Reported all (t.ask question).2
  | keys {all : List String} {t : Terminal} (h : Reported all t) (keys : List Key) :
      Reported all { t with keys := keys }

theorem messages_report (message : String) (t : Terminal) :
    (t.report message).messages = lastOf maxMessages (t.messages ++ [message]) := by
  rw [report]

theorem messages_ask (question : String) (t : Terminal) :
    (t.ask question).2.messages = t.messages := rfl

/-- The last messages are kept. -/
theorem Reported.messages_eq {all : List String} {t : Terminal} (h : Reported all t) :
    t.messages = lastOf maxMessages all := by
  induction h with
  | begin keys => rfl
  | report _ message ih => rw [messages_report, ih, lastOf_lastOf_append]
  | ask _ question ih => rw [messages_ask, ih]
  | keys _ keys ih => exact ih

/-- More messages may be reported, one after the other. -/
theorem Reported.foldl {before : List String} {t : Terminal} (h : Reported before t)
    (all : List String) :
    Reported (before ++ all) (all.foldl (fun t message => t.report message) t) := by
  induction all generalizing before t with
  | nil => rwa [List.append_nil]
  | cons message all ih =>
    rw [List.append_cons, List.foldl_cons]
    exact ih (h.report message)

/-- Messages that are not empty have as many lines as there are messages, or more. -/
theorem length_le_length_lines {messages : List String} (h : ∀ m ∈ messages, m ≠ "") :
    messages.length ≤ (messages.flatMap Text.linesOf).length := by
  induction messages with
  | nil => exact Nat.le_refl 0
  | cons m messages ih =>
    have hline := List.length_pos_iff.2 (Text.linesOf_ne_nil (h m List.mem_cons_self))
    have hrest := ih fun m hm => h m (List.mem_cons_of_mem _ hm)
    rw [List.flatMap_cons, List.length_append, List.length_cons]
    omega

/-- No line is missed that a screen has room for. -/
theorem messageTail_lastOf {all : List String} (h : ∀ m ∈ all, m ≠ "") {n rows : Nat}
    (hrows : rows ≤ n) : messageTail (lastOf n all) rows = messageTail all rows := by
  obtain ⟨dropped, hall, hdropped⟩ := exists_eq_append_lastOf n all
  rcases hdropped with rfl | hfull
  · rw [← List.nil_append (lastOf n all), ← hall]
  · have hkept := length_le_length_lines fun m hm => h m ((lastOf_suffix n all).subset hm)
    rw [hfull] at hkept
    have hle := Nat.le_trans hrows hkept
    conv_rhs => rw [hall, messageTail, List.flatMap_append, lastOf_append hle]
    rw [messageTail]

/-- Whatever is reported to a terminal, it keeps the last two hundred messages, or all of them if
    there are not so many. What is shown of messages are their last lines, as many as there are
    rows. And if no message is empty, it makes no difference to a screen of up to two hundred rows
    that the others are not kept. -/
theorem dropped_messages_are_invisible {all : List String} {t : Terminal} (h : Reported all t) :
    (t.messages <:+ all ∧ t.messages.length = min all.length 200) ∧
      (∀ rows, messageTail all rows <:+ all.flatMap Text.linesOf ∧
        (messageTail all rows).length = min rows (all.flatMap Text.linesOf).length) ∧
      ((∀ m ∈ all, m ≠ "") →
        ∀ rows ≤ 200, messageTail t.messages rows = messageTail all rows) := by
  rw [h.messages_eq]
  refine ⟨⟨lastOf_suffix _ _, ?_⟩, fun rows => ⟨lastOf_suffix _ _, length_lastOf _ _⟩,
    fun hne rows hrows => messageTail_lastOf hne hrows⟩
  rw [length_lastOf, maxMessages, Nat.min_comm]

/-- A greeting, a question that is answered by Enter, and two hundred messages of two lines each:
    the greeting is dropped, and the last two hundred lines are there. -/
theorem dropped_greeting_is_invisible :
    let rest := List.replicate 200 "saved\n  x"
    let asked := ((Terminal.report "hello" { keys := [Key.press .enter] }).ask "Go on?").2
    let t := rest.foldl (fun t message => t.report message) asked
    t.messages = rest ∧ messageTail t.messages 200 = messageTail ("hello" :: rest) 200 := by
  intro rest asked t
  have ht : Reported ("hello" :: rest) t :=
    (((Reported.begin [Key.press .enter]).report "hello").ask "Go on?").foldl rest
  obtain ⟨⟨hsuffix, hlength⟩, -, htail⟩ := dropped_messages_are_invisible ht
  refine ⟨?_, htail ?_ 200 (Nat.le_refl 200)⟩
  · rw [List.suffix_iff_eq_drop.1 hsuffix, hlength, List.length_cons, List.length_replicate]
    rfl
  · intro m hm
    rcases List.mem_cons.1 hm with rfl | hm
    · decide
    · rw [List.eq_of_mem_replicate hm]
      decide

end Terminal

end Turtle

import Turtle.Console
import Turtle.Proofs.World.Frame
import Turtle.Terminal

/-!
# What a host answers

A host gives its answers without regard to what it has shown before: they come from its input,
the lines of a console or the keys of a terminal, and only questions take from it. So two worlds
that differ in nothing but what was shown and recorded give the same answers, and whatever is shown
or recorded in them, they go on to.

* `Host.AnswersFrom` says what the answers of a host come from; `Console.answersFrom_input` and
  `Terminal.answersFrom_keys` say it of the two hosts that there are;
* `World.Matches` says that two worlds differ in what was shown and recorded at most.
-/

namespace Turtle

/-! ## Hosts -/

namespace Host

variable {H U : Type} [Host H]

/-- The answers of a host come from what it has to be read, and nothing else takes from that. -/
structure AnswersFrom (input : H → U) : Prop where
  report : ∀ (message : String) (h : H), input (Host.report message h) = input h
  note : ∀ (line : String) (h : H), input (Host.note line h) = input h
  confirm : ∀ (question : String) {h h' : H}, input h' = input h →
    (Host.confirm question h').1 = (Host.confirm question h).1 ∧
      input (Host.confirm question h').2 = input (Host.confirm question h).2
  pick : ∀ (dialog : Dialog) {h h' : H}, input h' = input h →
    (Host.pick dialog h').1 = (Host.pick dialog h).1 ∧
      input (Host.pick dialog h').2 = input (Host.pick dialog h).2

end Host

/-! ## Worlds -/

namespace World

variable {H U : Type} [Host H]

/-- Of two worlds the second differs from the first in what was shown and recorded at most. -/
structure Matches (input : H → U) (w w' : World H) : Prop where
  undisturbed : w.Undisturbed w'
  input : input w'.host = input w.host

variable {input : H → U} (hin : Host.AnswersFrom input)
include hin

theorem input_record (w : World H) (e : Event) : input (w.record e).host = input w.host := by
  rw [record]
  split
  · split
    · rfl
    · exact hin.note _ _
    · rfl
  · rfl

theorem input_report (w : World H) (message : String) :
    input (w.report message).host = input w.host := by
  rw [report]
  split
  · exact (hin.report _ _).trans (input_record hin w _)
  · exact hin.report _ _

namespace Matches

variable {w w' : World H}

theorem record_left (h : w.Matches input w') (e : Event) : (w.record e).Matches input w' :=
  ⟨(Undisturbed.record w e).symm.trans h.undisturbed, h.input.trans (input_record hin w e).symm⟩

theorem report_left (h : w.Matches input w') (message : String) :
    (w.report message).Matches input w' :=
  ⟨(Undisturbed.report w message).symm.trans h.undisturbed,
    h.input.trans (input_report hin w message).symm⟩

theorem record (h : w.Matches input w') (e e' : Event) :
    (w.record e).Matches input (w'.record e') := by
  obtain ⟨hundisturbed, hinput⟩ := h.record_left hin e
  exact ⟨hundisturbed.trans (.record w' e'), (input_record hin w' e').trans hinput⟩

theorem report (h : w.Matches input w') (message message' : String) :
    (w.report message).Matches input (w'.report message') := by
  obtain ⟨hundisturbed, hinput⟩ := h.report_left hin message
  exact ⟨hundisturbed.trans (.report w' message'), (input_report hin w' message').trans hinput⟩

theorem confirm (h : w.Matches input w') (question : String) :
    (w'.confirm question).1 = (w.confirm question).1 ∧
      (w.confirm question).2.Matches input (w'.confirm question).2 := by
  obtain ⟨hanswer, hinput⟩ := hin.confirm question h.input
  refine ⟨hanswer, ?_, hinput⟩
  exact ((Undisturbed.confirm w question).symm.trans h.undisturbed).trans (.confirm w' question)

theorem pick (h : w.Matches input w') (dialog : Dialog) :
    (w'.pick dialog).1 = (w.pick dialog).1 ∧
      (w.pick dialog).2.Matches input (w'.pick dialog).2 := by
  obtain ⟨hanswer, hinput⟩ := hin.pick dialog h.input
  refine ⟨hanswer, ?_, hinput⟩
  exact ((Undisturbed.pick w dialog).symm.trans h.undisturbed).trans (.pick w' dialog)

end Matches

end World

/-! ## The console and the terminal -/

namespace Console

theorem input_write (c : Console) (s : String) : (c.write s).input = c.input := by
  rw [write]
  split <;> rfl

/-- A question is answered from the input. -/
theorem ask_eq {c c' : Console} (h : c'.input = c.input) (prompt : String) :
    (c'.ask prompt).1 = (c.ask prompt).1 ∧ (c'.ask prompt).2.input = (c.ask prompt).2.input := by
  rw [ask, ask, takeLine, takeLine, input_write, input_write, h]
  by_cases hempty : c.input.isEmpty = true
  · rw [if_pos hempty, if_pos hempty]
    exact ⟨rfl, by rw [input_write, input_write, h]⟩
  · rw [if_neg hempty, if_neg hempty]
    exact ⟨rfl, rfl⟩

theorem answersFrom_input : Host.AnswersFrom Console.input where
  report message c := c.input_write _
  note _ _ := rfl
  confirm question {c c'} h := by
    obtain ⟨hanswer, hinput⟩ := ask_eq h (question ++ " [y/N]")
    exact ⟨congrArg (Option.any isYes) hanswer, hinput⟩
  pick dialog {c c'} h := by
    obtain ⟨hanswer, hinput⟩ := ask_eq h (dialog.title ++ ":")
    refine ⟨?_, hinput⟩
    show (pick dialog c').1 = (pick dialog c).1
    simp only [pick, hanswer]

end Console

namespace Terminal

/-- A question is answered from the keys. -/
theorem ask_eq {t t' : Terminal} (h : t'.keys = t.keys) (question : String) :
    (t'.ask question).1 = (t.ask question).1 ∧
      (t'.ask question).2.keys = (t.ask question).2.keys := by
  rw [ask, ask, h]
  exact ⟨rfl, rfl⟩

/-- A message takes no key. -/
theorem keys_report (message : String) (t : Terminal) : (t.report message).keys = t.keys := by
  rw [report]

theorem answersFrom_keys : Host.AnswersFrom Terminal.keys where
  report message t := t.keys_report message
  note _ _ := rfl
  confirm question {t t'} h := by
    obtain ⟨hanswer, hkeys⟩ := ask_eq h (confirmQuestion question)
    exact ⟨congrArg (Option.any isYes) hanswer, hkeys⟩
  pick dialog {t t'} h := by
    obtain ⟨hanswer, hkeys⟩ := ask_eq h (pickQuestion dialog)
    refine ⟨?_, hkeys⟩
    show (pick dialog t').1 = (pick dialog t).1
    simp only [pick, hanswer]

end Terminal

end Turtle

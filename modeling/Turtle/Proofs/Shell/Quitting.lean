import Turtle.Binary64.Scalar
import Turtle.Proofs.Shell.Presses

/-!
# When a shell quits

A shell quits when it is asked to and nothing is lost: because nothing has changed since it was
saved, or because the user says so at the prompt that is shown otherwise. No other key does more to
the session than to have it run the line of input, when Enter is pressed and the line is not blank.

* `Press.MayQuit` says when a key may end the shell, and `Press.Lawful` what a key does;
* `Shell.quits_only_when_it_may`: every key does that, in every run.
-/

namespace Turtle

/-- A session whose terminal has other keys waiting, and maybe a prompt that they did not end. -/
def Session.waitingFor {R : Type} (s : Session R Terminal) (keys : List Key)
    (prompt : Option Prompt) : Session R Terminal :=
  { s with world := { s.world with host := { s.world.host with keys := keys, prompt := prompt } } }

namespace Press

variable {R : Type}

/-- A key that asks the shell to quit, which it may: nothing is unsaved, or the keys that come next
    are an answer at the prompt, ended by Enter, that says yes. -/
def MayQuit (press : Press R) : Prop :=
  press.key.quits = true ∧
    (press.before.session.dirty = false ∨
      ∃ answer rest, Reply.Reads press.before.waiting (.answered answer) rest ∧
        (Text.trimmed answer = "y" ∨ Text.trimmed answer = "Y"))

variable [Scalar R]

/-- What a key does, and what it does not. -/
structure Lawful (press : Press R) : Prop where
  awake : press.before.quitting = false
  quits_iff : press.after.quitting = true ↔ press.MayQuit
  /-- The line of input is run, and is the next line of the history. -/
  submitted : press.before.submits press.key = true →
    press.after.session = (press.before.session.runLine press.before.input).2 ∧
      press.after.history = press.before.history ++ [press.before.input]
  /-- Without a line that is entered, all that a session loses is the keys of a prompt. -/
  kept : press.before.submits press.key = false →
    (∃ keys prompt, press.after.session = press.before.session.waitingFor keys prompt) ∧
      (press.key.quits = false → press.after.session = press.before.session) ∧
      press.after.history = press.before.history

end Press

namespace Shell

variable {R : Type} [Scalar R]

omit [Scalar R] in
theorem quitting_requestQuit_iff {s : Shell R} (h : s.quitting = false) :
    s.requestQuit.quitting = true ↔ s.session.dirty = false ∨
      ∃ answer rest, Reply.Reads s.waiting (.answered answer) rest ∧
        (Text.trimmed answer = "y" ∨ Text.trimmed answer = "Y") := by
  rw [requestQuit]
  cases hdirty : s.session.dirty with
  | false => simp
  | true =>
    show (s.quitting || (s.session.world.host.confirm quitQuestion).1) = true ↔ _
    rw [h, Bool.false_or, Terminal.fst_confirm_iff, or_iff_right Bool.noConfusion]
    rfl

omit [Scalar R] in
theorem exists_session_requestQuit (s : Shell R) :
    ∃ keys prompt, s.requestQuit.session = s.session.waitingFor keys prompt := by
  rw [requestQuit]
  split
  · exact ⟨_, _, rfl⟩
  · exact ⟨s.waiting, s.session.world.host.prompt, rfl⟩

omit [Scalar R] in
theorem history_requestQuit (s : Shell R) : s.requestQuit.history = s.history := by
  rw [requestQuit]
  split <;> rfl

/-- Every key does what it may. -/
theorem lawful_press {s : Shell R} (h : s.quitting = false) (key : Key) :
    Press.Lawful ⟨key, s, s.press key⟩ := by
  have never {P : Prop} {b : Bool} (hb : b = false) (hb' : b = true) : P := by
    cases hb.symm.trans hb'
  cases hquits : key.quits with
  | true =>
    have hsubmits := s.submits_eq_false_of_quits hquits
    rw [s.press_of_quits hquits]
    exact {
      awake := h
      quits_iff := (quitting_requestQuit_iff h).trans (and_iff_right hquits).symm
      submitted := never hsubmits
      kept _ := ⟨s.exists_session_requestQuit, fun hquits' => never hquits' hquits,
        s.history_requestQuit⟩ }
  | false =>
    have hquits_iff {t : Shell R} (ht : t.quitting = s.quitting) :
        t.quitting = true ↔ Press.MayQuit ⟨key, s, t⟩ :=
      ⟨never (ht.trans h), fun hmay => never hquits hmay.1⟩
    cases hsubmits : s.submits key with
    | true =>
      rw [s.press_of_submits hsubmits]
      exact {
        awake := h
        quits_iff := hquits_iff rfl
        submitted _ := ⟨rfl, rfl⟩
        kept hsubmits' := never hsubmits' hsubmits }
    | false =>
      obtain ⟨input, cursor, hpress⟩ := s.exists_press_eq hquits hsubmits
      rw [hpress]
      exact {
        awake := h
        quits_iff := hquits_iff rfl
        submitted := never hsubmits
        kept _ := ⟨⟨s.waiting, s.session.world.host.prompt, rfl⟩, fun _ => rfl, rfl⟩ }

/-- All keys of a run do what they may, and it ends with one that makes the shell quit, if any. -/
theorem Run.lawful {s t : Shell R} {presses : List (Press R)} (run : Run s presses t) :
    (∀ press ∈ presses, press.Lawful) ∧
      (t.quitting = true ↔ s.quitting = true ∨ ∃ press ∈ presses, press.MayQuit) := by
  induction run with
  | done => simp
  | @step s taken t key presses hquitting htake rest ih =>
    obtain ⟨hlawful, hquits⟩ := ih
    have hkey := lawful_press ((takeKey?_eq_some htake).2.1.trans hquitting) key
    have hnext : (taken.press key).quitting = true ↔ _ := hkey.quits_iff
    refine ⟨List.forall_mem_cons.2 ⟨hkey, hlawful⟩, ?_⟩
    rw [hquits, hnext, hquitting]
    simp

/-- A shell quits only when it may. Whatever keys are waiting, and in whatever order prompts take
    some of them, each key that the shell takes itself makes it quit just when it is Esc or a `c`
    with the control key, and nothing is unsaved or a y is typed and entered at the prompt; if it
    enters a line that is not blank, the session runs just that line, and it is the next one of
    the history; and otherwise the session keeps all but the keys of a prompt. -/
theorem quits_only_when_it_may (s : Shell R) :
    Run s s.presses s.run ∧ (∀ press ∈ s.presses, press.Lawful) ∧
      (s.run.quitting = true ↔ s.quitting = true ∨ ∃ press ∈ s.presses, press.MayQuit) :=
  ⟨s.run_presses, s.run_presses.lawful⟩

end Shell

end Turtle

import Turtle.Proofs.Terminal.Prompt
import Turtle.Shell

/-!
# The keys that a shell takes

A shell takes one key after the other from the queue of its terminal, until it is quitting or no
key is left. What a key means may end in prompts, which take keys from the same queue. So the keys
that the shell takes itself are those that no prompt has taken before.

* `Shell.presses` are these keys, each with the shell before and behind it, and `Shell.Run` is a
  run through them;
* `Shell.press_of_quits`, `Shell.press_of_submits` and `Shell.exists_press_eq`: a key is a request
  to quit, enters the line of input, or edits it.
-/

namespace Turtle

/-- Esc, or a `c` typed with the control key, going down. -/
def Key.quits (key : Key) : Bool :=
  key.pressed && (key.code == .esc || key.code == .char 'c' && key.control)

/-- A key that a shell takes: the shell without it, and behind what it means. -/
structure Press (R : Type) where
  key : Key
  before : Shell R
  after : Shell R

namespace Shell

variable {R : Type} [Scalar R]

omit [Scalar R] in
/-- The keys that are waiting. -/
def waiting (s : Shell R) : List Key :=
  s.session.world.host.keys

omit [Scalar R] in
/-- A key that enters the line of input, which is not blank. -/
def submits (s : Shell R) (key : Key) : Bool :=
  key.enters && !(Text.trim s.input.toList).isEmpty

/-! ## Runs -/

/-- At most so many of the keys that a shell takes. -/
def pressesFor : Nat → Shell R → List (Press R)
  | 0, _ => []
  | count + 1, s =>
    if s.quitting then []
    else
      match s.takeKey? with
      | none => []
      | some (key, taken) =>
        ⟨key, taken, taken.press key⟩ :: pressesFor count (taken.press key)

/-- The keys that a shell takes until it is quitting or none is left. -/
def presses (s : Shell R) : List (Press R) :=
  pressesFor s.waiting.length s

/-- A shell that is not quitting takes keys, one after the other. -/
inductive Run : Shell R → List (Press R) → Shell R → Prop
  | done {s : Shell R} : Run s [] s
  | step {s taken t : Shell R} {key : Key} {presses : List (Press R)}
      (hquitting : s.quitting = false) (htake : s.takeKey? = some (key, taken))
      (rest : Run (taken.press key) presses t) :
      Run s (⟨key, taken, taken.press key⟩ :: presses) t

theorem run_pressesFor (count : Nat) (s : Shell R) :
    Run s (pressesFor count s) (runFor count s) := by
  induction count generalizing s with
  | zero => exact .done
  | succ count ih =>
    rw [pressesFor, runFor]
    split
    · exact .done
    · next hquitting =>
      cases htake : s.takeKey? with
      | none => exact .done
      | some taken => exact .step (Bool.eq_false_iff.2 hquitting) htake (ih _)

/-- A shell runs through its keys. -/
theorem run_presses (s : Shell R) : Run s s.presses s.run :=
  run_pressesFor _ s

omit [Scalar R] in
/-- Taking a key changes nothing but the queue. -/
theorem takeKey?_eq_some {s taken : Shell R} {key : Key} (h : s.takeKey? = some (key, taken)) :
    s.waiting = key :: taken.waiting ∧ taken.quitting = s.quitting ∧
      taken.input = s.input ∧ taken.history = s.history := by
  rw [takeKey?] at h
  split at h
  · cases h
  · next hkeys =>
    cases h
    exact ⟨hkeys, rfl, rfl, rfl⟩

/-! ## What keys mean -/

variable {key : Key} (s : Shell R)

theorem press_of_quits (h : key.quits = true) : s.press key = s.requestQuit := by
  obtain ⟨code, control, _ | _⟩ := key
  · cases h
  · cases code with
    | esc => rfl
    | char c =>
      have hc : c = 'c' ∧ control = true := by simpa [Key.quits] using h
      exact if_pos hc
    | _ => cases h

omit [Scalar R] in
theorem submits_eq_false_of_quits (h : key.quits = true) : s.submits key = false := by
  obtain ⟨code, control, _ | _⟩ := key
  · rfl
  · cases code with
    | enter => cases h
    | _ => rfl

theorem press_of_submits (h : s.submits key = true) : s.press key = { s with
    input := ""
    cursor := none
    history := s.history ++ [s.input]
    session := (s.session.runLine s.input).2 } := by
  obtain ⟨henters, hblank⟩ := (Bool.and_eq_true _ _).mp h
  obtain ⟨code, control, _ | _⟩ := key
  · cases henters
  · cases code with
    | enter =>
      have hblank : ¬(Text.trim s.input.toList).isEmpty = true := by
        simpa using hblank
      exact if_neg hblank
    | _ => cases henters

omit [Scalar R] in
theorem exists_older_eq :
    ∃ input cursor, s.older = { s with input := input, cursor := cursor } := by
  rw [older]
  split
  · exact ⟨_, _, rfl⟩
  · split <;> exact ⟨_, _, rfl⟩

omit [Scalar R] in
theorem exists_newer_eq :
    ∃ input cursor, s.newer = { s with input := input, cursor := cursor } := by
  rw [newer]
  split
  · exact ⟨_, _, rfl⟩
  · split <;> exact ⟨_, _, rfl⟩

/-- All other keys edit the line of input, drop it, or do nothing. -/
theorem exists_press_eq (hquits : key.quits = false) (hsubmits : s.submits key = false) :
    ∃ input cursor, s.press key = { s with input := input, cursor := cursor } := by
  obtain ⟨code, control, _ | _⟩ := key
  · exact ⟨_, _, rfl⟩
  · cases code with
    | esc => cases hquits
    | enter =>
      have hblank : (Text.trim s.input.toList).isEmpty = true := by
        simpa [submits, Key.enters] using hsubmits
      exact ⟨_, _, if_pos hblank⟩
    | up => exact s.exists_older_eq
    | down => exact s.exists_newer_eq
    | backspace => exact ⟨_, _, rfl⟩
    | char c =>
      have hc : ¬(c = 'c' ∧ control = true) := by
        simpa [Key.quits] using hquits
      exact ⟨_, _, if_neg hc⟩
    | other => exact ⟨_, _, rfl⟩

end Shell

end Turtle

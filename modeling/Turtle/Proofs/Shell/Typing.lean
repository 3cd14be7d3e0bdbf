import Turtle.Proofs.Session.History
import Turtle.Proofs.Shell.Presses

/-!
# What a shell does to its session

The keys that are pressed in a shell ask something of its session: the one that enters a line has
the session run it, and all others take at most an answer. So the session of a shell is one of
which these operations were asked, while the world changed around it.

* `Shell.asked` are the operations that one key asks for, `Shell.askedFor` those of several;
* `Shell.session_press` and `Shell.session_runFor`: they are what becomes of the session.
-/

namespace Turtle

namespace Session

variable {R H : Type} [Scalar R] [Host H]

theorem performAll_append (s : Session R H) (ops more : List (Operation H)) :
    s.performAll (ops ++ more) = (s.performAll ops).performAll more :=
  List.foldl_append

end Session

namespace Shell

variable {R : Type}

/-- What a request to quit asks of the session: an answer is taken from the terminal, if something
    has not been saved. -/
def askedToQuit (s : Shell R) : List (Operation Terminal) :=
  if s.session.dirty then [.meanwhile (s.session.world.confirm quitQuestion).2] else []

/-- What a key asks of the session. -/
def asked (s : Shell R) (key : Key) : List (Operation Terminal) :=
  if key.pressed then
    match key.code with
    | .esc => s.askedToQuit
    | .enter => if (Text.trim s.input.toList).isEmpty then [] else [.line s.input]
    | .char c => if c = 'c' ∧ key.control then s.askedToQuit else []
    | .up | .down | .backspace | .other => []
  else []

/-- What so many keys ask of the session. Each of them first leaves the queue of the terminal. -/
def askedFor [Scalar R] : Nat → Shell R → List (Operation Terminal)
  | 0, _ => []
  | count + 1, s =>
    if s.quitting then []
    else
      match s.takeKey? with
      | none => []
      | some (key, taken) =>
        .meanwhile taken.session.world :: taken.asked key ++ askedFor count (taken.press key)

theorem session_older (s : Shell R) : s.older.session = s.session := by
  obtain ⟨_, _, holder⟩ := s.exists_older_eq
  rw [holder]

theorem session_newer (s : Shell R) : s.newer.session = s.session := by
  obtain ⟨_, _, hnewer⟩ := s.exists_newer_eq
  rw [hnewer]

variable [Scalar R]

theorem session_submit (s : Shell R) :
    s.submit.session = s.session.performAll
      (if (Text.trim s.input.toList).isEmpty then [] else [.line s.input]) := by
  rw [submit]
  dsimp only
  split <;> rfl

theorem session_requestQuit (s : Shell R) :
    s.requestQuit.session = s.session.performAll s.askedToQuit := by
  rw [requestQuit, askedToQuit]
  split <;> rfl

/-- One key does to the session what it asks for. -/
theorem session_press (s : Shell R) (key : Key) :
    (s.press key).session = s.session.performAll (s.asked key) := by
  rw [press, asked]
  split
  · cases key.code with
    | esc => exact s.session_requestQuit
    | enter => exact s.session_submit
    | up => exact s.session_older
    | down => exact s.session_newer
    | backspace => rfl
    | char c =>
      dsimp only
      split
      · exact s.session_requestQuit
      · rfl
    | other => rfl
  · rfl

/-- A key that is taken changes the world alone. -/
theorem session_takeKey? {s taken : Shell R} {key : Key} (h : s.takeKey? = some (key, taken)) :
    taken.session = s.session.perform (.meanwhile taken.session.world) := by
  rw [takeKey?] at h
  split at h
  · cases h
  · cases h
    rfl

/-- After any number of keys the session of a shell is one of which lines were asked. -/
theorem session_runFor (count : Nat) (s : Shell R) :
    (runFor count s).session = s.session.performAll (askedFor count s) := by
  induction count generalizing s with
  | zero => rfl
  | succ count ih =>
    rw [runFor, askedFor]
    split
    · rfl
    · cases htake : s.takeKey? with
      | none => rfl
      | some taken =>
        obtain ⟨key, taken⟩ := taken
        show (runFor count (taken.press key)).session =
          s.session.performAll (_ :: taken.asked key ++ askedFor count (taken.press key))
        rw [ih, session_press, session_takeKey? htake, List.cons_append, ← List.singleton_append,
          Session.performAll_append, Session.performAll_append]
        rfl

end Shell

end Turtle

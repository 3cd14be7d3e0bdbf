import Mathlib.Logic.Function.Iterate
import Turtle.Binary64.Scalar
import Turtle.Proofs.Shell.Presses
import Turtle.Terminal.Input

/-!
# Recalling lines

The lines that were entered are recalled from the last one back to the first, and forward again. A
place in the history is best told by how many lines back it is: the key up goes one line further
back, as far as there are lines, and the key down one line less, until none is recalled.

* `Shell.Reached` are the shells that keys lead to, whatever else happens in the world;
* `Shell.InRange.older_iterate` and `Shell.InRange.newer_iterate` are what several presses come to;
* `Shell.recall_stays_in_range`: every line that is recalled is one of the history;
* `Shell.draft_survives_iff`: the key down may drop a line that is being typed.
-/

namespace Turtle

namespace Shell

variable {R : Type} {s : Shell R}

/-- The line at a place of a history is recalled, and stands in the line of input. -/
structure Recalls (s : Shell R) (history : List String) (i : Nat) : Prop where
  history_eq : s.history = history
  cursor_eq : s.cursor = some i
  input_eq : history[i]? = some s.input

/-- The cursor is at a line of the history, if it is anywhere. -/
def InRange (s : Shell R) : Prop :=
  ∀ i, s.cursor = some i → i < s.history.length

theorem inRange_of_none (h : s.cursor = none) : s.InRange :=
  fun _ hi => nomatch h.symm.trans hi

theorem InRange.history_ne_nil (hs : s.InRange) {i : Nat} (hi : s.cursor = some i) :
    s.history ≠ [] :=
  List.length_pos_iff.1 (Nat.zero_lt_of_lt (hs i hi))

/-! ## Places in the history -/

/-- How many lines back the recalled line is: one for the last line, and nought for none. -/
def linesBack (s : Shell R) : Nat :=
  (s.cursor.map (s.history.length - ·)).getD 0

/-- Recalls the line that is so many lines back. -/
def goBack (s : Shell R) (back : Nat) : Shell R :=
  s.recallAt (if back = 0 then none else some (s.history.length - back))

variable {back : Nat}

theorem goBack_zero (s : Shell R) : s.goBack 0 = { s with cursor := none, input := "" } := rfl

theorem goBack_of_pos (h : 1 ≤ back) :
    s.goBack back = s.recallAt (some (s.history.length - back)) := by
  rw [goBack, if_neg (Nat.ne_of_gt h)]

theorem goBack_goBack (s : Shell R) (back back' : Nat) :
    (s.goBack back).goBack back' = s.goBack back' := rfl

theorem history_goBack (s : Shell R) (back : Nat) : (s.goBack back).history = s.history := rfl

theorem linesBack_goBack (h : back ≤ s.history.length) : (s.goBack back).linesBack = back := by
  cases back with
  | zero => rfl
  | succ back => exact Nat.sub_sub_self h

/-- The line that is so many lines back stands in the line of input. -/
theorem recalls_goBack (hpos : 1 ≤ back) (h : back ≤ s.history.length) :
    (s.goBack back).Recalls s.history (s.history.length - back) := by
  have hentry : s.history[s.history.length - back]? = some _ :=
    List.getElem?_eq_getElem (by omega)
  rw [goBack_of_pos hpos]
  refine ⟨rfl, rfl, ?_⟩
  rw [recallAt, Option.bind_some, hentry, Option.getD_some]

theorem recalls_of_cursor_goBack {i : Nat} (h : back ≤ s.history.length)
    (hi : (s.goBack back).cursor = some i) : (s.goBack back).Recalls s.history i := by
  cases back with
  | zero => cases hi
  | succ back =>
    have hrecalls := recalls_goBack (Nat.succ_pos back) h
    have hplace := hrecalls.cursor_eq.symm.trans hi
    rwa [Option.some.inj hplace] at hrecalls

theorem inRange_goBack (h : s.history ≠ []) (back : Nat) : (s.goBack back).InRange := by
  have hlength := List.length_pos_iff.2 h
  intro i hi
  cases back with
  | zero => cases hi
  | succ back =>
    cases hi
    exact Nat.sub_lt hlength (Nat.succ_pos back)

theorem linesBack_of_none (h : s.cursor = none) : s.linesBack = 0 := by
  rw [linesBack, h]
  rfl

theorem linesBack_of_some {i : Nat} (h : s.cursor = some i) :
    s.linesBack = s.history.length - i := by
  rw [linesBack, h]
  rfl

theorem linesBack_le (s : Shell R) : s.linesBack ≤ s.history.length := by
  rcases hcursor : s.cursor with _ | i
  · simp [linesBack_of_none hcursor]
  · simp [linesBack_of_some hcursor]

/-! ## Steps -/

theorem older_of_nil (h : s.history = []) : s.older = s := by
  rw [older, h]
  rfl

theorem newer_of_nil (h : s.history = []) : s.newer = s := by
  rw [newer, h]
  rfl

/-- One line further back, but not in front of the first one. -/
theorem InRange.older_eq (hs : s.InRange) (h : s.history ≠ []) :
    s.older = s.goBack (min (s.linesBack + 1) s.history.length) := by
  have hlength := List.length_pos_iff.2 h
  rw [goBack_of_pos (by omega), older, if_neg (by simpa using h)]
  rcases hcursor : s.cursor with _ | i
  · have hplace : s.history.length - 1 = s.history.length - min (0 + 1) s.history.length := by
      omega
    rw [linesBack_of_none hcursor, ← hplace]
  · have hi := hs i hcursor
    have hplace : i - 1 = s.history.length -
        min (s.history.length - i + 1) s.history.length := by
      omega
    rw [linesBack_of_some hcursor, ← hplace]

/-- One line less. -/
theorem InRange.newer_eq (hs : s.InRange) (h : s.history ≠ []) :
    s.newer = s.goBack (s.linesBack - 1) := by
  rw [newer, if_neg (by simpa using h)]
  rcases hcursor : s.cursor with _ | i
  · rw [linesBack_of_none hcursor]
    rfl
  · have hi := hs i hcursor
    rw [linesBack_of_some hcursor]
    dsimp only
    split
    · next hlt =>
      have hplace : i + 1 = s.history.length - (s.history.length - i - 1) := by omega
      rw [goBack_of_pos (by omega), ← hplace]
    · next hlast =>
      have hback : s.history.length - i - 1 = 0 := by omega
      rw [hback]
      rfl

/-- Several presses of the key up. -/
theorem InRange.older_iterate (hs : s.InRange) (h : s.history ≠ []) (j : Nat) :
    older^[j + 1] s = s.goBack (min (s.linesBack + (j + 1)) s.history.length) := by
  induction j with
  | zero => exact hs.older_eq h
  | succ j ih =>
    have hback : min (min (s.linesBack + (j + 1)) s.history.length + 1) s.history.length =
        min (s.linesBack + (j + 1 + 1)) s.history.length := by
      omega
    rw [Function.iterate_succ_apply', ih, (inRange_goBack h _).older_eq h,
      linesBack_goBack (Nat.min_le_right _ _), goBack_goBack, history_goBack, hback]

/-- Several presses of the key down. -/
theorem InRange.newer_iterate (hs : s.InRange) (h : s.history ≠ []) (k : Nat) :
    newer^[k + 1] s = s.goBack (s.linesBack - (k + 1)) := by
  have hle := s.linesBack_le
  induction k with
  | zero => exact hs.newer_eq h
  | succ k ih =>
    rw [Function.iterate_succ_apply', ih, (inRange_goBack h _).newer_eq h,
      linesBack_goBack (by omega), goBack_goBack, Nat.sub_sub]

theorem inRange_older (hs : s.InRange) : s.older.InRange := by
  by_cases h : s.history = []
  · rwa [older_of_nil h]
  · rw [hs.older_eq h]
    exact inRange_goBack h _

theorem inRange_newer (hs : s.InRange) : s.newer.InRange := by
  by_cases h : s.history = []
  · rwa [newer_of_nil h]
  · rw [hs.newer_eq h]
    exact inRange_goBack h _

theorem inRange_requestQuit (hs : s.InRange) : s.requestQuit.InRange := by
  rw [requestQuit]
  split <;> exact hs

/-! ## What is recalled -/

/-- A line that the key up recalls stands in the line of input. -/
theorem recalls_older (hs : s.InRange) {i : Nat} (hi : s.older.cursor = some i) :
    s.older.Recalls s.history i := by
  by_cases h : s.history = []
  · rw [older_of_nil h] at hi
    exact absurd h (hs.history_ne_nil hi)
  · rw [hs.older_eq h] at hi ⊢
    exact recalls_of_cursor_goBack (Nat.min_le_right _ _) hi

/-- A line that the key down recalls stands in the line of input. -/
theorem recalls_newer (hs : s.InRange) {i : Nat} (hi : s.newer.cursor = some i) :
    s.newer.Recalls s.history i := by
  by_cases h : s.history = []
  · rw [newer_of_nil h] at hi
    exact absurd h (hs.history_ne_nil hi)
  · rw [hs.newer_eq h] at hi ⊢
    exact recalls_of_cursor_goBack (Nat.le_trans (Nat.sub_le _ _) s.linesBack_le) hi

/-- From the line of input, `j` presses of the key up recall the line that is `j` lines back. -/
theorem recalls_older_iterate (hcursor : s.cursor = none) (h : s.history ≠ []) {j : Nat}
    (hj : 1 ≤ j) :
    (older^[j] s).Recalls s.history (s.history.length - min j s.history.length) := by
  have hlength := List.length_pos_iff.2 h
  obtain ⟨j, rfl⟩ := Nat.exists_eq_add_of_le' hj
  rw [(inRange_of_none hcursor).older_iterate h, linesBack_of_none hcursor, Nat.zero_add]
  exact recalls_goBack (by omega) (Nat.min_le_right _ _)

/-- From a recalled line, presses of the key down go through the lines behind it. -/
theorem cursor_newer_iterate (hs : s.InRange) {i : Nat} (hi : s.cursor = some i) (k : Nat) :
    (newer^[k] s).cursor = if k < s.history.length - i then some (i + k) else none := by
  have hlt := hs i hi
  cases k with
  | zero =>
    rw [if_pos (Nat.sub_pos_of_lt hlt)]
    exact hi
  | succ k =>
    rw [hs.newer_iterate (hs.history_ne_nil hi), linesBack_of_some hi]
    split
    · have hplace : i + (k + 1) = s.history.length - (s.history.length - i - (k + 1)) := by omega
      rw [goBack_of_pos (by omega), hplace]
      rfl
    · have hback : s.history.length - i - (k + 1) = 0 := by omega
      rw [hback]
      rfl

/-- Without a recalled line, presses of the key down empty the line of input. -/
theorem newer_iterate_of_none (hcursor : s.cursor = none) (k : Nat) :
    newer^[k] s = if k = 0 ∨ s.history = [] then s else { s with input := "" } := by
  split
  · next hkept =>
    rcases hkept with rfl | hnil
    · rfl
    · exact Function.iterate_fixed (newer_of_nil hnil) k
  · next hdropped =>
    obtain ⟨hk, h⟩ := not_or.1 hdropped
    obtain ⟨k, rfl⟩ := Nat.exists_eq_add_one_of_ne_zero hk
    rw [(inRange_of_none hcursor).newer_iterate h, linesBack_of_none hcursor, Nat.zero_sub,
      goBack_zero, ← hcursor]

/-! ## Shells that are reached -/

variable [Scalar R]

theorem cursor_submit (s : Shell R) : s.submit.cursor = none := by
  rw [submit]
  dsimp only
  split <;> rfl

/-- Typing leaves the cursor and the history alone, and a line that is entered takes the cursor
    away while the history grows. -/
theorem InRange.press (hs : s.InRange) (key : Key) : (s.press key).InRange := by
  rw [Shell.press]
  split
  · cases key.code with
    | esc => exact inRange_requestQuit hs
    | enter => exact inRange_of_none s.cursor_submit
    | up => exact inRange_older hs
    | down => exact inRange_newer hs
    | backspace => exact hs
    | char c =>
      dsimp only
      split
      · exact inRange_requestQuit hs
      · exact hs
    | other => exact hs
  · exact hs

/-- A shell that keys lead to from the start. In between keys may come, prompts may take some, and
    anything else may happen in the world. -/
inductive Reached : Shell R → Prop
  | start (session : Session R Terminal) : Reached (start session)
  | press {s : Shell R} (h : Reached s) (key : Key) : Reached (s.press key)
  | meanwhile {s : Shell R} (h : Reached s) (world : World Terminal) :
      Reached { s with session := { s.session with world := world } }

theorem Reached.inRange (h : s.Reached) : s.InRange := by
  induction h with
  | start session => exact inRange_of_none rfl
  | press _ key ih => exact ih.press key
  | meanwhile _ world ih => exact ih

theorem Reached.takeKey? {key : Key} {taken : Shell R} (h : s.Reached)
    (htake : s.takeKey? = some (key, taken)) : taken.Reached := by
  rw [Shell.takeKey?] at htake
  split at htake
  · cases htake
  · cases htake
    exact h.meanwhile _

/-- Runs lead from one such shell to another. -/
theorem Run.reached {t : Shell R} {presses : List (Press R)} (run : Run s presses t)
    (h : s.Reached) : t.Reached := by
  induction run with
  | done => exact h
  | step _ htake _ ih => exact ih ((h.takeKey? htake).press _)

/-- Recalling stays within the history. The cursor, if there is one, is at a line that was entered,
    whatever keys were pressed before; and a line that is recalled stands in the line of input, just
    as it was entered. Without one, the key up pressed `j` times recalls the line that is `j` lines
    back, or the first line if there are no more than `j` lines; from line `i` on, the key down goes
    through the lines behind it and ends after as many presses as there are lines from `i` to the
    end. With no history neither key does anything. -/
theorem recall_stays_in_range (h : s.Reached) :
    (∀ i, s.cursor = some i → i < s.history.length) ∧
      (∀ i, s.older.cursor = some i → s.older.Recalls s.history i) ∧
      (∀ i, s.newer.cursor = some i → s.newer.Recalls s.history i) ∧
      (s.history = [] → s.older = s ∧ s.newer = s) ∧
      (s.cursor = none → s.history ≠ [] → ∀ j, 1 ≤ j →
        (j ≤ s.history.length → (older^[j] s).Recalls s.history (s.history.length - j)) ∧
        (s.history.length ≤ j → (older^[j] s).Recalls s.history 0)) ∧
      (∀ i, s.cursor = some i → ∀ k,
        (k < s.history.length - i → (newer^[k] s).cursor = some (i + k)) ∧
        (s.history.length - i ≤ k → (newer^[k] s).cursor = none)) := by
  have hs := h.inRange
  refine ⟨hs, fun i hi => recalls_older hs hi, fun i hi => recalls_newer hs hi,
    fun hnil => ⟨older_of_nil hnil, newer_of_nil hnil⟩, ?_, ?_⟩
  · intro hcursor hne j hj
    have hrecalls := recalls_older_iterate hcursor hne hj
    constructor
    · intro hle
      rwa [Nat.min_eq_left hle] at hrecalls
    · intro hge
      rwa [Nat.min_eq_right hge, Nat.sub_self] at hrecalls
  · intro i hi k
    rw [cursor_newer_iterate hs hi]
    exact ⟨fun hlt => if_pos hlt, fun hge => if_neg (Nat.not_lt.2 hge)⟩

/-- Two lines are entered and the first of them is recalled and edited, a question is answered in
    between. It takes two presses of the key down to get out again. -/
theorem recall_stays_in_range_edited :
    let keys := Key.ofChars "about\rmove 5\r\x1b[A\x1b[A\x1b[A!\x1bn\r".toList
    let w : World Terminal := ⟨⟨keys, [], none⟩, ⟨[], [], []⟩, Journal.silent⟩
    let begin : Shell Float := start (Session.ofSettings Settings.standard w)
    let s := begin.run
    s.Reached ∧ s.history = ["about", "move 5"] ∧ s.cursor = some 0 ∧ s.input = "about!" ∧
      s.newer.Recalls ["about", "move 5"] 1 ∧ (newer^[2] s).cursor = none := by
  intro keys w begin s
  have hs : s.Reached := begin.run_presses.reached (.start _)
  have hcursor : s.cursor = some 0 := by decide +kernel
  have hhistory : s.history = ["about", "move 5"] := by decide +kernel
  have hinput : s.input = "about!" := by decide +kernel
  have hnewer : s.newer.cursor = some 1 := by decide +kernel
  obtain ⟨-, -, hrecalls, -, -, hends⟩ := recall_stays_in_range hs
  have hends := (hends 0 hcursor 2).2
  have hrecalls := hrecalls 1 hnewer
  rw [hhistory] at hrecalls hends
  exact ⟨hs, hhistory, hcursor, hinput, hrecalls, hends (Nat.le_refl 2)⟩

/-! ## Lines that are being typed -/

/-- A line was entered, and another one is being typed. The key down drops it. -/
theorem down_key_drops_draft :
    let keys := Key.ofChars "about\rrig".toList
    let w : World Terminal := ⟨⟨keys, [], none⟩, ⟨[], [], []⟩, Journal.silent⟩
    let begin : Shell Float := start (Session.ofSettings Settings.standard w)
    let s := begin.run
    s.Reached ∧ s.cursor = none ∧ s.input = "rig" ∧ s.newer.input = "" := by
  intro keys w begin s
  exact ⟨begin.run_presses.reached (.start _), by decide +kernel, by decide +kernel,
    by decide +kernel⟩

omit [Scalar R] in
/-- The key down, where no line is recalled, selects nothing. Yet it drops the line that is being
    typed, as soon as there is a history: however often it is pressed, the line is kept if and only
    if none was entered before, or nothing is typed. -/
theorem draft_survives_iff (hcursor : s.cursor = none) :
    (∀ k, newer^[k] s = if k = 0 ∨ s.history = [] then s else { s with input := "" }) ∧
      ((∀ k, newer^[k] s = s) ↔ s.history = [] ∨ s.input = "") := by
  have hpresses := newer_iterate_of_none hcursor
  refine ⟨hpresses, ?_⟩
  constructor
  · intro hkept
    by_contra hlost
    obtain ⟨h, hinput⟩ := not_or.1 hlost
    have hdropped := hpresses 1
    rw [hkept 1, if_neg (by simp [h])] at hdropped
    exact hinput (congrArg input hdropped)
  · rintro (hnil | hinput) k
    · rw [hpresses, if_pos (.inr hnil)]
    · rw [hpresses, ← hinput]
      split <;> rfl

/-- The first line that is typed is kept. -/
theorem draft_survives_iff_first_line :
    let w : World Terminal := ⟨⟨Key.ofChars "rig".toList, [], none⟩, ⟨[], [], []⟩, Journal.silent⟩
    let s : Shell Float := (start (Session.ofSettings Settings.standard w)).run
    s.cursor = none ∧ s.input = "rig" ∧ ∀ k, newer^[k] s = s := by
  intro w s
  have hcursor : s.cursor = none := by decide +kernel
  have hhistory : s.history = [] := by decide +kernel
  exact ⟨hcursor, by decide +kernel, (draft_survives_iff hcursor).2.2 (.inl hhistory)⟩

end Shell

end Turtle

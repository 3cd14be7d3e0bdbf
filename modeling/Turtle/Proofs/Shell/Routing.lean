import Turtle.Binary64.Scalar
import Turtle.Proofs.Shell.Presses
import Turtle.Proofs.Terminal.Readings
import Turtle.Terminal.Input

/-!
# Which keys go where

The shell and the prompts that it shows take their keys from the same queue. Every key goes to one
of them, in the order in which they wait: first one to the shell, and then those to the prompts that
it leads to. And whoever gets it, a key that means nothing is passed over, so that the shell ends up
the same without all of these.

* `Shell.recording` is the session behind a key, with what was read at the prompts;
* `Shell.Run.waiting_eq` accounts for the keys of a run, and `Shell.Run.tidy` leaves out those that
  mean nothing;
* `Shell.keys_are_routed` is about the run to the end.
-/

namespace Turtle

namespace Shell

variable {R : Type} [Scalar R]

/-! ## Prompts behind a key -/

/-- The session behind a key, with a terminal that keeps what was read at the prompts. -/
def recording (s : Shell R) (key : Key) : Session R Recorded :=
  let session := s.session.mapHost Recorded.begin
  if key.quits then
    if s.session.dirty then { session with world := (session.world.confirm quitQuestion).2 }
    else session
  else if s.submits key then (session.runLine s.input).2
  else session

/-- It is the session behind the key. -/
theorem mapHost_recording (s : Shell R) (key : Key) :
    (s.recording key).mapHost Recorded.terminal = (s.press key).session := by
  have hbegin : (s.session.mapHost Recorded.begin).mapHost Recorded.terminal = s.session := rfl
  rw [recording]
  cases hquits : key.quits with
  | true =>
    rw [s.press_of_quits hquits, requestQuit, if_pos rfl]
    split <;> rfl
  | false =>
    rw [if_neg Bool.false_ne_true]
    cases hsubmits : s.submits key with
    | true =>
      have hrun := Session.runLine_mapHost Recorded.hom_terminal
        (s.session.mapHost Recorded.begin) s.input
      rw [hbegin] at hrun
      rw [s.press_of_submits hsubmits]
      exact (congrArg Prod.snd hrun).symm
    | false =>
      obtain ⟨input, cursor, hpress⟩ := s.exists_press_eq hquits hsubmits
      rw [hpress]
      rfl

/-- What is read at the prompts, and what is left, are the keys that were waiting. -/
theorem accounts_recording (s : Shell R) (key : Key) :
    Recorded.Accounts s.waiting (s.recording key).world.host := by
  have hkept := Recorded.kept_accounts s.waiting
  have hbegin : Recorded.Accounts s.waiting (s.session.mapHost Recorded.begin).world.host :=
    Recorded.accounts_begin s.session.world.host
  rw [recording]
  split
  · split
    · exact hkept.confirm quitQuestion hbegin
    · exact hbegin
  · split
    · exact Session.host_runLine hkept hbegin s.input
    · exact hbegin

end Shell

namespace Press

variable {R : Type} [Scalar R]

/-- What was read at the prompts that a key has led to. -/
def readings (press : Press R) : List Reading :=
  (press.before.recording press.key).world.host.readings

/-- The keys that were taken: first one by the shell, and then those by prompts. -/
def keys (press : Press R) : List Key :=
  press.key :: press.readings.flatMap Reading.keys

end Press

namespace Shell

variable {R : Type} [Scalar R]

theorem waiting_press (s : Shell R) (key : Key) :
    (s.press key).waiting = (s.recording key).world.host.terminal.keys := by
  rw [waiting, ← mapHost_recording]
  rfl

/-- The keys that were waiting were taken by prompts, or are waiting still. -/
theorem waiting_eq (s : Shell R) (key : Key) :
    s.waiting =
      (s.recording key).world.host.readings.flatMap Reading.keys ++ (s.press key).waiting := by
  rw [waiting_press]
  exact (s.accounts_recording key).keys_eq

/-- If a key makes the shell quit, the prompt has ended, if there was one. -/
theorem complete_of_quitting {s : Shell R} (h : s.quitting = false) {key : Key}
    (hquitting : (s.press key).quitting = true) :
    ∀ reading ∈ (s.recording key).world.host.readings, reading.Complete := by
  cases hquits : key.quits with
  | true =>
    rw [s.press_of_quits hquits, requestQuit] at hquitting
    rw [recording, if_pos hquits]
    cases hdirty : s.session.dirty with
    | false => exact List.forall_mem_nil _
    | true =>
      rw [hdirty] at hquitting
      let terminal := Recorded.begin s.session.world.host
      let question := Terminal.confirmQuestion quitQuestion
      obtain ⟨reading, hreadings, hanswer, -, hcomplete⟩ := terminal.exists_ask question
      have hyes : (s.quitting || (terminal.ask question).1.any Terminal.isYes) = true := hquitting
      show ∀ reading ∈ (terminal.ask question).2.readings, reading.Complete
      rw [hreadings]
      refine List.forall_mem_singleton.2 (hcomplete.resolve_right fun hnone => ?_)
      rw [h, hanswer, hnone.2] at hyes
      cases hyes
  | false =>
    exfalso
    cases hsubmits : s.submits key with
    | true =>
      rw [s.press_of_submits hsubmits] at hquitting
      cases h.symm.trans hquitting
    | false =>
      obtain ⟨input, cursor, hpress⟩ := s.exists_press_eq hquits hsubmits
      rw [hpress] at hquitting
      cases h.symm.trans hquitting

/-- All prompts behind a key have ended, or the keys have run out and the shell does not quit. -/
theorem complete_or_not_quitting {s : Shell R} (h : s.quitting = false) (key : Key) :
    (∀ reading ∈ (s.recording key).world.host.readings, reading.Complete) ∨
      (s.press key).waiting = [] ∧ (s.press key).quitting = false := by
  have haccounts := (s.accounts_recording key).complete
  rw [← waiting_press] at haccounts
  by_cases hwaiting : (s.press key).waiting = []
  · cases hquitting : (s.press key).quitting with
    | false => exact .inr ⟨hwaiting, rfl⟩
    | true => exact .inl (complete_of_quitting h hquitting)
  · exact .inl fun reading hmem => (haccounts reading hmem).resolve_right hwaiting

namespace Run

variable {s t : Shell R} {presses : List (Press R)}

/-- The keys of a run are those that were waiting, in order. -/
theorem waiting_eq (run : Run s presses t) :
    s.waiting = presses.flatMap Press.keys ++ t.waiting := by
  induction run with
  | done => rfl
  | @step s taken t key presses _ htake rest ih =>
    rw [(takeKey?_eq_some htake).1, taken.waiting_eq key, ih, List.flatMap_cons,
      List.append_assoc]
    rfl

/-- What was read at the prompts is what the session had for answers. -/
theorem recorded (run : Run s presses t) : ∀ press ∈ presses,
    (press.before.recording press.key).mapHost Recorded.terminal = press.after.session := by
  induction run with
  | done => exact List.forall_mem_nil _
  | step _ _ _ ih => exact List.forall_mem_cons.2 ⟨mapHost_recording _ _, ih⟩

/-- If a run ends by quitting, all prompts have ended. -/
theorem complete (run : Run s presses t) (hquitting : t.quitting = true) :
    ∀ press ∈ presses, ∀ reading ∈ press.readings, reading.Complete := by
  induction run with
  | done => exact List.forall_mem_nil _
  | @step s taken t key presses hawake htake rest ih =>
    refine List.forall_mem_cons.2 ⟨?_, ih hquitting⟩
    have htaken := (takeKey?_eq_some htake).2.1.trans hawake
    refine (complete_or_not_quitting htaken key).resolve_right fun ⟨hwaiting, hawake⟩ => ?_
    -- Without keys and without having quit, nothing can follow.
    cases rest with
    | done => cases hawake.symm.trans hquitting
    | step _ htake _ =>
      rw [(takeKey?_eq_some htake).1] at hwaiting
      cases hwaiting

end Run

/-! ## Runs to the end -/

omit [Scalar R] in
/-- A shell that takes no more keys. -/
def Finished (s : Shell R) : Prop :=
  s.quitting = true ∨ s.waiting = []

theorem length_waiting_press (s : Shell R) (key : Key) :
    (s.press key).waiting.length ≤ s.waiting.length := by
  have hlength := congrArg List.length (s.waiting_eq key)
  rw [List.length_append] at hlength
  omega

theorem runFor_of_finished {s : Shell R} (h : s.Finished) (count : Nat) : runFor count s = s := by
  cases count with
  | zero => rfl
  | succ count =>
    rw [runFor]
    split
    · rfl
    · next hquitting =>
      have hwaiting : s.session.world.host.keys = [] := h.resolve_left hquitting
      rw [takeKey?, hwaiting]

/-- With as many steps as there are keys, no key is left, unless the shell is quitting. -/
theorem finished_runFor {count : Nat} {s : Shell R} (h : s.waiting.length ≤ count) :
    (runFor count s).Finished := by
  induction count generalizing s with
  | zero => exact .inr (List.length_eq_zero_iff.1 (Nat.le_zero.1 h))
  | succ count ih =>
    rw [runFor]
    split
    · next hquitting => exact .inl hquitting
    · cases htake : s.takeKey? with
      | none =>
        rw [takeKey?] at htake
        split at htake
        · next hkeys => exact .inr hkeys
        · cases htake
      | some taken =>
        obtain ⟨key, taken⟩ := taken
        have hpress := taken.length_waiting_press key
        rw [(takeKey?_eq_some htake).1, List.length_cons] at h
        exact ih (by omega)

namespace Run

variable {s t : Shell R} {presses : List (Press R)}

theorem length_le (run : Run s presses t) : presses.length ≤ s.waiting.length := by
  induction run with
  | done => exact Nat.zero_le _
  | @step s taken t key presses _ htake _ ih =>
    have hpress := taken.length_waiting_press key
    rw [(takeKey?_eq_some htake).1, List.length_cons, List.length_cons]
    omega

/-- There is one run to the end only. -/
theorem run_eq (run : Run s presses t) (ht : t.Finished) : s.run = t := by
  have runFor_eq {count : Nat} (h : presses.length ≤ count) : runFor count s = t := by
    induction run generalizing count with
    | done => exact runFor_of_finished ht count
    | step hquitting htake _ ih =>
      cases count with
      | zero => exact absurd h (Nat.not_succ_le_zero _)
      | succ count =>
        rw [runFor, if_neg (Bool.eq_false_iff.1 hquitting), htake]
        exact ih ht (Nat.le_of_succ_le_succ h)
  exact runFor_eq run.length_le

end Run

end Shell

/-! ## Keys that mean nothing -/

namespace Terminal

/-- A terminal at which only keys are waiting that mean something. -/
def tidy (t : Terminal) : Terminal :=
  { t with keys := t.keys.filter Key.counts }

theorem ask_tidy (t : Terminal) (question : String) :
    t.tidy.ask question = Prod.map id tidy (t.ask question) := by
  have hread : Reply.read t.tidy.keys = _ := Reply.read_filter t.keys
  rw [ask, ask, hread]
  rfl

theorem hom_tidy : Host.Hom tidy where
  report message t := by
    have hmessages : t.tidy.messages = t.messages := rfl
    show t.tidy.report message = (t.report message).tidy
    rw [report, report, hmessages]
    generalize lastOf maxMessages _ = messages
    rfl
  note _ _ := rfl
  announces _ := rfl
  confirm question t := by
    show t.tidy.confirm question = Prod.map id tidy (t.confirm question)
    rw [confirm, confirm, ask_tidy]
    rfl
  pick dialog t := by
    show pick dialog t.tidy = Prod.map id tidy (pick dialog t)
    rw [pick, pick, ask_tidy]
    rfl

end Terminal

namespace Shell

variable {R : Type} [Scalar R]

omit [Scalar R] in
/-- The shell with the keys only that mean something. -/
def tidy (s : Shell R) : Shell R :=
  { s with session := s.session.mapHost Terminal.tidy }

omit [Scalar R] in
theorem requestQuit_tidy (s : Shell R) : s.tidy.requestQuit = s.requestQuit.tidy := by
  have hdirty : s.tidy.session.dirty = s.session.dirty := rfl
  have hconfirm : s.tidy.session.world.confirm quitQuestion =
      Prod.map id (World.mapHost Terminal.tidy) (s.session.world.confirm quitQuestion) :=
    World.confirm_mapHost Terminal.hom_tidy s.session.world quitQuestion
  rw [requestQuit, requestQuit, hdirty]
  split
  · rw [hconfirm]
    rfl
  · rfl

theorem submit_tidy (s : Shell R) : s.tidy.submit = s.submit.tidy := by
  have hrun : s.tidy.session.runLine s.input =
      Prod.map id (Session.mapHost Terminal.tidy) (s.session.runLine s.input) :=
    Session.runLine_mapHost Terminal.hom_tidy s.session s.input
  have hinput : s.tidy.input = s.input := rfl
  rw [submit, submit, hinput]
  dsimp only
  rw [hrun]
  split <;> rfl

omit [Scalar R] in
theorem older_tidy (s : Shell R) : s.tidy.older = s.older.tidy := by
  have hhistory : s.tidy.history = s.history := rfl
  have hcursor : s.tidy.cursor = s.cursor := rfl
  rw [older, older, hhistory, hcursor]
  split
  · rfl
  · split <;> rfl

omit [Scalar R] in
theorem newer_tidy (s : Shell R) : s.tidy.newer = s.newer.tidy := by
  have hhistory : s.tidy.history = s.history := rfl
  have hcursor : s.tidy.cursor = s.cursor := rfl
  rw [newer, newer, hhistory, hcursor]
  split
  · rfl
  · split <;> rfl

/-- Whatever a key means, it does not depend on keys that mean nothing. -/
theorem press_tidy (s : Shell R) (key : Key) : s.tidy.press key = (s.press key).tidy := by
  rw [press, press]
  split
  · cases key.code with
    | esc => exact s.requestQuit_tidy
    | enter => exact s.submit_tidy
    | up => exact s.older_tidy
    | down => exact s.newer_tidy
    | backspace => rfl
    | char c =>
      dsimp only
      split
      · exact s.requestQuit_tidy
      · rfl
    | other => rfl
  · rfl

theorem press_of_not_counts (s : Shell R) {key : Key} (h : key.counts = false) :
    s.press key = s := by
  obtain ⟨code, control, _ | _⟩ := key
  · rfl
  · cases code with
    | other => rfl
    | _ => cases h

omit [Scalar R] in
/-- A key that means something is the next one without the others as well. -/
theorem takeKey?_tidy {s taken : Shell R} {key : Key} (h : s.takeKey? = some (key, taken))
    (hcounts : key.counts = true) : s.tidy.takeKey? = some (key, taken.tidy) := by
  rw [takeKey?] at h
  split at h
  · cases h
  · next keys hkeys =>
    cases h
    have htidy : s.tidy.session.world.host.keys = key :: keys.filter Key.counts := by
      show s.session.world.host.keys.filter Key.counts = _
      rw [hkeys, List.filter_cons_of_pos hcounts]
    rw [takeKey?, htidy]
    rfl

omit [Scalar R] in
theorem tidy_eq_of_takeKey? {s taken : Shell R} {key : Key} (h : s.takeKey? = some (key, taken))
    (hcounts : key.counts = false) : s.tidy = taken.tidy := by
  rw [takeKey?] at h
  split at h
  · cases h
  · next keys hkeys =>
    cases h
    have htidy : s.session.world.host.keys.filter Key.counts = keys.filter Key.counts := by
      rw [hkeys, List.filter_cons_of_neg (Bool.eq_false_iff.1 hcounts)]
    exact congrArg (fun keys => { s with session := { s.session with world :=
      { s.session.world with host := { s.session.world.host with keys := keys } } } }) htidy

/-- What a run comes to, it comes to without the keys that mean nothing. -/
theorem Run.exists_tidy {s t : Shell R} {presses : List (Press R)} (run : Run s presses t) :
    ∃ presses', Run s.tidy presses' t.tidy := by
  induction run with
  | done => exact ⟨[], .done⟩
  | @step s taken t key presses hquitting htake _ ih =>
    obtain ⟨presses', hrest⟩ := ih
    cases hcounts : key.counts with
    | true =>
      rw [← press_tidy] at hrest
      exact ⟨_, .step hquitting (takeKey?_tidy htake hcounts) hrest⟩
    | false =>
      rw [taken.press_of_not_counts hcounts] at hrest
      rw [tidy_eq_of_takeKey? htake hcounts]
      exact ⟨presses', hrest⟩

omit [Scalar R] in
theorem Finished.tidy {s : Shell R} (h : s.Finished) : s.tidy.Finished := by
  refine h.imp_right fun hwaiting => ?_
  show s.waiting.filter Key.counts = []
  rw [hwaiting]
  rfl

/-- Keys are routed. A shell runs until it is quitting or no key is left. Of the keys that are
    waiting, it takes one after the other, each followed by those that the prompts behind it take,
    and the others are left when it ends; what was read at these prompts is what the session had
    for answers. If the shell ends by quitting, every prompt has taken keys up to the first Enter
    or Esc, and its answer is what was typed before Enter, or none. And without the keys that mean
    nothing, the shell ends up the same. -/
theorem keys_are_routed (s : Shell R) :
    Run s s.presses s.run ∧ s.run.Finished ∧
      s.waiting = s.presses.flatMap Press.keys ++ s.run.waiting ∧
      (∀ press ∈ s.presses,
        (press.before.recording press.key).mapHost Recorded.terminal = press.after.session) ∧
      (s.run.quitting = true →
        ∀ press ∈ s.presses, ∀ reading ∈ press.readings, reading.Complete) ∧
      s.tidy.run = s.run.tidy := by
  have hrun := s.run_presses
  obtain ⟨_, htidy⟩ := hrun.exists_tidy
  have hfinished : s.run.Finished := finished_runFor (Nat.le_refl _)
  exact ⟨hrun, hfinished, hrun.waiting_eq, hrun.recorded, hrun.complete,
    htidy.run_eq hfinished.tidy⟩

/-- A move is typed, with a tab in it and a key that comes up again, and is not cleared; then Esc is
    pressed and confirmed. The last key is left, and the shell ends up the same without the tab and
    the key that comes up. -/
theorem keys_are_routed_clear :
    let keys := Key.ofChars "mo\tve 5\r".toList ++ ⟨.enter, false, false⟩ ::
      Key.ofChars "clear\ry\x7f\x1b[An\r\x1bY\rz".toList
    let w : World Terminal := ⟨⟨keys, [], none⟩, ⟨[], [], []⟩, Journal.silent⟩
    let s : Shell Float := start (Session.ofSettings Settings.standard w)
    s.run.quitting = true ∧ s.run.waiting = Key.ofChars ['z'] ∧
      s.presses.flatMap Press.readings =
        [⟨"You have unsaved changes. Clear anyway? (y/n)",
            Key.ofChars "y\x7f\x1b[An\r".toList, some "n"⟩,
          ⟨"You have unsaved changes. Quit anyway? (y/n)", Key.ofChars "Y\r".toList, some "Y"⟩] ∧
      (∀ press ∈ s.presses, ∀ reading ∈ press.readings, reading.Complete) ∧
      s.tidy.run = s.run.tidy ∧ s.tidy.waiting.length + 2 = s.waiting.length := by
  intro keys w s
  have hquitting : s.run.quitting = true := by decide +kernel
  obtain ⟨-, -, -, -, hcomplete, htidy⟩ := s.keys_are_routed
  exact ⟨hquitting, by decide +kernel, by decide +kernel, hcomplete hquitting, htidy,
    by decide +kernel⟩

end Shell

end Turtle

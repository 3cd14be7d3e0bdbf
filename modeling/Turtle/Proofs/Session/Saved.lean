import Turtle.Binary64.Scalar
import Turtle.Console
import Turtle.Proofs.Disk.Written
import Turtle.Proofs.Script.Pieces
import Turtle.Proofs.Session.Moment
import Turtle.Proofs.World.Frame

/-!
# What has been saved

A session knows whether something has changed since it was saved, but not what was saved. Its
history does: the log that was written last counts as saved, until everything is thrown away, and
then, as at the beginning, the empty log does. In a session without changes the log is the saved
one.

* `Turn.savedLog` is the log that counts as saved after some turns, `Turn.Writes` says that a turn
  has written it to a file, and `Disk.HoldsLog` that it is read back from there;
* `Session.Filed` is the invariant, and `Session.Change.filed` its step;
* `Session.clean_log_is_saved`: it holds at every moment of a session.
-/

namespace Turtle

/-- A path leads to a script with the statements of a log, one after the other. -/
def Disk.HoldsLog (d : Disk) (path : Path) (log : List Primitive) : Prop :=
  ∃ text, d.readText path = .ok text ∧ Script.allStatements text = log.map Primitive.statement

namespace Turn

variable {R H : Type}

/-- This turn has saved the log. -/
def saves (turn : Turn R H) : Bool :=
  turn.command = some (.session .saveCommands) && turn.outcome = .fileDone

/-- The log that counts as saved after a turn. -/
def savedAfter (saved : List Primitive) (turn : Turn R H) : List Primitive :=
  if turn.outcome = .cleared then []
  else if turn.saves then turn.before.timeline.entries
  else saved

/-- The log that counts as saved after several turns. -/
def savedLog (turns : List (Turn R H)) : List Primitive :=
  turns.foldl savedAfter []

/-- This turn has written a log to the file that was asked for, and the log is read back from
    there. Behind it the disk is as it was written, but for the file of the journal, and unless
    that is the file that was asked for, the log is still there. -/
def Writes [Host H] (turn : Turn R H) (log : List Primitive) : Prop :=
  ∃ path disk, (turn.before.world.pick .saveCommands).1 = some path ∧
    turn.before.world.disk.write path (Text.encode (Session.commandFile log)) = .ok disk ∧
    disk.HoldsLog path log ∧
    { turn.before.world with disk := disk }.Undisturbed turn.after.world ∧
    ((∀ l, disk.target? path = some l → ¬turn.before.world.JournalAt l) →
      turn.after.world.disk.HoldsLog path log)

/-- A log that a turn has written is read back from the file, also behind the turn. -/
theorem writes_of_write [Host H] {turn : Turn R H} {log : List Primitive} {path : Path}
    {disk : Disk} (hpick : (turn.before.world.pick .saveCommands).1 = some path)
    (hwrite : turn.before.world.disk.write path (Text.encode (Session.commandFile log)) = .ok disk)
    (hafter : { turn.before.world with disk := disk }.Undisturbed turn.after.world) :
    turn.Writes log := by
  have hread := Disk.readText_write hwrite
  have hstatements := Script.allStatements_commandFile log
  refine ⟨path, disk, hpick, hwrite, ⟨_, hread, hstatements⟩, hafter, fun hother => ?_⟩
  exact ⟨_, (hafter.disk.readText_of_target? hother).trans hread, hstatements⟩

/-- A request that leaves the drawing as it is saves nothing. -/
theorem savedAfter_of_keeps {c : SessionCommand} {o : Outcome} (h : c.Keeps o)
    (saved : List Primitive) (s t : Session R H) :
    savedAfter saved ⟨s, some (.session c), o, t⟩ = saved := by
  cases c <;> cases o <;> first | rfl | exact h.elim

end Turn

namespace Session

variable {R H : Type} [Scalar R]

/-- If nothing has changed since it was saved, the log is the saved one. -/
def Filed (saved : List Primitive) (s : Session R H) : Prop :=
  s.dirty = false → s.timeline.entries = saved

variable [Host H]

/-- Every change keeps what is saved in step with the flag. -/
theorem Change.filed {s t : Session R H} {c : Option Command} {o : Outcome} (h : s.Change c o t)
    {saved : List Primitive} (hs : Filed saved s) :
    Filed (Turn.savedAfter saved ⟨s, c, o, t⟩) t := by
  cases h with
  | refused | nothingUndone | nothingRedone | declined => exact hs
  | kept h => exact (Turn.savedAfter_of_keeps h saved _ _).symm ▸ hs
  | saved | cleared => exact fun _ => rfl
  -- Whatever else changes the log or the canvas raises the flag.
  | drawn | undone | redone | imported => exact nofun

/-- Along a run what is saved is kept in step with the flag. -/
theorem Run.filed {s t : Session R H} {turns : List (Turn R H)} (run : Run s turns t)
    {saved : List Primitive} (hs : Filed saved s) :
    Filed (turns.foldl Turn.savedAfter saved) t := by
  have alike {s t : Session R H} {saved : List Primitive} (h : s.Alike t) (hs : Filed saved s) :
      Filed saved t := by
    obtain ⟨w, l, rfl⟩ := h
    exact hs
  induction run generalizing saved with
  | done h => exact alike h hs
  | step h hturn _ ih => exact ih (hturn.filed (alike h hs))

/-- At every moment of a session without unsaved changes the log is the one that counts as saved. -/
theorem Moment.entries_eq_savedLog {settings : Settings} {w : World H} {ops : List (Operation H)}
    {turns : List (Turn R H)} {s : Session R H}
    (h : (ofSettings settings w : Session R H).Moment ops turns s) (hclean : s.dirty = false) :
    s.timeline.entries = Turn.savedLog turns :=
  h.run.filed (fun _ => rfl) hclean

omit [Scalar R] in
/-- Saving the log is done when it has been written. -/
theorem writes_of_saveCommands {s t : Session R H} (h : s.saveCommands = (.fileDone, t)) :
    Turn.Writes ⟨s, some (.session .saveCommands), .fileDone, t⟩ s.timeline.entries := by
  rw [saveCommands, pick] at h
  dsimp only at h
  split at h
  · cases h
  · next path asked hpick =>
    obtain ⟨hpath, rfl⟩ := Prod.mk.inj hpick
    dsimp only at h
    split at h
    · cases h
    · next disk hwrite =>
      obtain ⟨-, rfl⟩ := Prod.mk.inj h
      refine Turn.writes_of_write hpath hwrite ?_
      -- Behind the disk that was written there are only the journal and a message.
      let written : World H := { (s.world.pick .saveCommands).2 with disk := disk }
      have hwritten : { s.world with disk := disk }.Undisturbed written :=
        ⟨rfl, .refl _⟩
      exact (hwritten.trans (.record written _)).trans (.report _ _)

/-- A turn that has saved the log has written it. -/
theorem writes_of_mem_history {s : Session R H} {ops : List (Operation H)} {turn : Turn R H}
    (hmem : turn ∈ s.history ops) (hsaves : turn.saves = true) :
    turn.Writes turn.before.timeline.entries := by
  have hdoes := does_of_mem_history hmem
  obtain ⟨s, c, o, t⟩ := turn
  rw [Turn.saves, Bool.and_eq_true, decide_eq_true_eq, decide_eq_true_eq] at hsaves
  obtain ⟨rfl, rfl⟩ := hsaves
  have hsave : s.saveCommands = (.fileDone, t) := hdoes _ rfl (by decide) loadCommands
  exact writes_of_saveCommands hsave

/-- At every moment of a session, also between two statements of a script, the log of a session
    without unsaved changes is the one that was written last since everything was thrown away, or
    else the empty one; and what counts as written has been written to the file that was asked
    for, where it is read back statement by statement. -/
theorem clean_log_is_saved (settings : Settings) (w : World H) (ops : List (Operation H)) :
    let fresh : Session R H := ofSettings settings w
    (∀ turns s, fresh.Moment ops turns s → s.dirty = false →
      s.timeline.entries = Turn.savedLog turns) ∧
    ∀ turn ∈ fresh.history ops, turn.saves = true → turn.Writes turn.before.timeline.entries := by
  intro fresh
  exact ⟨fun turns s h hclean => h.entries_eq_savedLog hclean,
    fun turn hmem hsaves => writes_of_mem_history hmem hsaves⟩

/-- A script that moves, saves and moves again, behind its second statement and in front of its
    third. The file that was asked for then holds the statement of the move. -/
theorem clean_log_is_saved_script :
    let w : World Console := ⟨⟨Text.encode "f\n", "", false⟩, ⟨[], [], []⟩, Journal.silent⟩
    let fresh : Session Float Console := ofSettings Settings.standard w
    let ops : List (Operation Console) := [.script "move 5\nsavecmd\nmove 6\n"]
    (∃ turns s, fresh.Moment ops turns s ∧ s.loading = true ∧ s.dirty = false ∧
      s.timeline.entries = [.move 5] ∧ s.timeline.entries = Turn.savedLog turns ∧
      s.world.disk.readText (Path.ofText "f") = .ok "move 5\n" ∧
      s.world.disk.HoldsLog (Path.ofText "f") [.move 5]) ∧
    ∃ turn ∈ fresh.history ops, turn.saves = true ∧ turn.Writes turn.before.timeline.entries := by
  intro w fresh ops
  obtain ⟨hclean, hwrites⟩ := clean_log_is_saved (R := Float) Settings.standard w ops
  have hlength : 2 < (fresh.history ops).length := by decide +kernel
  have hmoment : fresh.Moment ops ((fresh.history ops).take 2) (fresh.history ops)[2].before :=
    .before (by rw [← List.drop_eq_getElem_cons hlength, List.take_append_drop])
  have hbefore : ∀ _ : 2 < (fresh.history ops).length,
      (fresh.history ops)[2].before.loading = true ∧ (fresh.history ops)[2].before.dirty = false ∧
        (fresh.history ops)[2].before.timeline.entries = [.move 5] ∧
        (fresh.history ops)[2].before.world.disk.readText (Path.ofText "f") = .ok "move 5\n" := by
    decide +kernel
  have hstatements : Script.allStatements "move 5\n" =
      [Primitive.move 5].map Primitive.statement := by decide +kernel
  obtain ⟨hloading, hdirty, hentries, hread⟩ := hbefore hlength
  have hany : (fresh.history ops).any Turn.saves = true := by decide +kernel
  obtain ⟨turn, hmem, hsaves⟩ := List.any_eq_true.1 hany
  exact ⟨⟨_, _, hmoment, hloading, hdirty, hentries, hclean _ _ hmoment hdirty, hread, _,
    hread, hstatements⟩, turn, hmem, hsaves, hwrites turn hmem hsaves⟩

end Session

end Turtle

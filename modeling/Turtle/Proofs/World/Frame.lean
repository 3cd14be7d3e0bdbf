import Turtle.Proofs.Disk.Agreement
import Turtle.World

/-!
# What talking leaves alone

Messages, questions and the journal change the host, and one file at most: the one that the journal
is written to. Every other place on the disk holds what it held.

* `World.Undisturbed` says that of two worlds, and everything that is shown, asked or recorded
  leaves a world undisturbed;
* `World.Recorded` says of two worlds which events the journal was given between them, and
  `World.Recorded.lookup` what its file holds then.
-/

namespace Turtle

namespace Journal

/-- The disk after a journal was given an event. -/
def recorded (j : Journal) (d : Disk) (e : Event) : Disk :=
  if j.keeps e then
    match j.sink with
    | .nowhere | .messages => d
    | .file location => d.append location (Text.encode (j.line e))
  else d

/-- What a journal writes about events. -/
def lines (j : Journal) (events : List Event) : Bytes :=
  (events.filter j.keeps).flatMap fun e => Text.encode (j.line e)

end Journal

namespace World

variable {H : Type}

/-- The journal is written to the file at a location. -/
def JournalAt (w : World H) (l : Location) : Prop :=
  w.journal.sink = .file l

/-- Of two worlds the second differs from the first in its host at most, and in what is in the file
    that the journal is written to. -/
structure Undisturbed (w w' : World H) : Prop where
  journal : w'.journal = w.journal
  disk : w.disk.AgreesOff w.JournalAt w'.disk

namespace Undisturbed

theorem refl (w : World H) : w.Undisturbed w := ⟨rfl, .refl _⟩

theorem symm {w w' : World H} (h : w.Undisturbed w') : w'.Undisturbed w := by
  obtain ⟨hjournal, hdisk⟩ := h
  refine ⟨hjournal.symm, ?_⟩
  rw [show w'.JournalAt = w.JournalAt by unfold JournalAt; rw [hjournal]]
  exact hdisk.symm

theorem trans {w w' w'' : World H} (h : w.Undisturbed w') (h' : w'.Undisturbed w'') :
    w.Undisturbed w'' := by
  obtain ⟨hjournal, hdisk⟩ := h
  obtain ⟨hjournal', hdisk'⟩ := h'
  refine ⟨hjournal'.trans hjournal, hdisk.trans ?_⟩
  rw [show w'.JournalAt = w.JournalAt by unfold JournalAt; rw [hjournal]] at hdisk'
  exact hdisk'

end Undisturbed

/-! ## Events -/

/-- Of two worlds the second differs from the first in its host at most, and in that its journal was
    given these events, one after the other. -/
structure Recorded (w : World H) (events : List Event) (w' : World H) : Prop where
  journal : w'.journal = w.journal
  disk : w'.disk = events.foldl w.journal.recorded w.disk

/-- A message that is shown is an event or none, as the host will have it. -/
def Reports (message : String) (events : List Event) : Prop :=
  events = [] ∨ events = [.report message]

/-- Recording an event gives it to the journal. -/
theorem disk_record [Host H] (w : World H) (e : Event) :
    (w.record e).disk = w.journal.recorded w.disk e := by
  rw [record, Journal.recorded]
  split
  · cases w.journal.sink <;> rfl
  · rfl

namespace Recorded

variable {w w' w'' : World H} {events events' : List Event}

theorem append (h : w.Recorded events w') (h' : w'.Recorded events' w'') :
    w.Recorded (events ++ events') w'' := by
  refine ⟨h'.journal.trans h.journal, ?_⟩
  rw [h'.disk, h.disk, h.journal, List.foldl_append]

/-- The file of the journal is the only one that events reach. -/
theorem undisturbed (h : w.Recorded events w') : w.Undisturbed w' := by
  have one (d : Disk) (e : Event) : d.AgreesOff w.JournalAt (w.journal.recorded d e) := by
    rw [Journal.recorded]
    split
    · split
      · exact .refl d
      · exact .refl d
      · next hsink => exact .append d hsink _
    · exact .refl d
  have all (events : List Event) (d : Disk) :
      d.AgreesOff w.JournalAt (events.foldl w.journal.recorded d) := by
    induction events generalizing d with
    | nil => exact .refl d
    | cons e events ih => exact (one d e).trans (ih _)
  exact ⟨h.journal, h.disk ▸ all events w.disk⟩

/-- Behind what the file of the journal held come the lines of the events. -/
theorem lookup (h : w.Recorded events w') {l : Location} (hl : w.JournalAt l) {old : Bytes}
    (hold : w.disk.lookup l = some (.file old)) :
    w'.disk.lookup l = some (.file (old ++ w.journal.lines events)) := by
  have hsink : w.journal.sink = .file l := hl
  have all (events : List Event) (d : Disk) (old : Bytes)
      (hold : d.lookup l = some (.file old)) :
      (events.foldl w.journal.recorded d).lookup l =
        some (.file (old ++ w.journal.lines events)) := by
    induction events generalizing d old with
    | nil => rw [Journal.lines, List.filter_nil, List.flatMap_nil, List.append_nil]; exact hold
    | cons e events ih =>
      rw [List.foldl_cons, Journal.recorded, Journal.lines, hsink]
      cases hkeeps : w.journal.keeps e with
      | false =>
        rw [List.filter_cons_of_neg (by rw [hkeeps]; exact Bool.false_ne_true)]
        exact ih d old hold
      | true =>
        rw [List.filter_cons_of_pos hkeeps, List.flatMap_cons, ← List.append_assoc]
        refine ih (d.append l _) _ ?_
        rw [Disk.append, hold]
        exact d.lookup_put_self (Disk.ne_nil_of_lookup_file hold) _
  rw [h.disk]
  exact all events w.disk old hold

variable [Host H] (w)

theorem record (e : Event) : w.Recorded [e] (w.record e) := by
  refine ⟨?_, disk_record w e⟩
  rw [World.record]
  split
  · split <;> rfl
  · rfl

theorem report (message : String) :
    ∃ events, Reports message events ∧ w.Recorded events (w.report message) := by
  rw [World.report]
  split
  · obtain ⟨hjournal, hdisk⟩ := record w (.report message)
    exact ⟨_, .inr rfl, hjournal, hdisk⟩
  · exact ⟨[], .inl rfl, rfl, rfl⟩

end Recorded

namespace Undisturbed

variable [Host H] (w : World H)

theorem record (e : Event) : w.Undisturbed (w.record e) := (Recorded.record w e).undisturbed

theorem report (message : String) : w.Undisturbed (w.report message) := by
  obtain ⟨_, -, h⟩ := Recorded.report w message
  exact h.undisturbed

theorem confirm (question : String) : w.Undisturbed (w.confirm question).2 := ⟨rfl, .refl _⟩

theorem pick (dialog : Dialog) : w.Undisturbed (w.pick dialog).2 := ⟨rfl, .refl _⟩

end Undisturbed

end World

end Turtle

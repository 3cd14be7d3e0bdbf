import Turtle.Proofs.Json.Garbled
import Turtle.Proofs.Session.Related
import Turtle.Proofs.World.Answers

/-!
# The same in other words

A statement that is refused on another line of a script is refused in other words: the number of the
line is part of the message, which is shown, and which is recorded with a warning. Two worlds in
which the same was done but for these words give the same answers. The file of the journal is
another one then, but it can no more be loaded as an image than any file that a warning has been
added to, so that nothing comes back from it.

* `Host.GoesBy` says that a host goes by its input in all that comes back from it;
* `Disk.SpoiledAt` says that there is nothing at a location that could be loaded as an image;
* `World.Reworded` says that the same was done in two worlds in other words, and
  `World.Reworded.congruence` that this stays so.
-/

namespace Turtle

/-- What comes back from a host comes from its input: its answers, and whether its messages are
    events for the journal. -/
structure Host.GoesBy {H U : Type} [Host H] (input : H → U) : Prop extends
    Host.AnswersFrom input where
  announces : ∀ {h h' : H}, input h' = input h → Host.announces h' = Host.announces h

theorem Console.goesBy_input : Host.GoesBy Console.input :=
  { Console.answersFrom_input with announces := fun _ => rfl }

theorem Terminal.goesBy_keys : Host.GoesBy Terminal.keys :=
  { Terminal.answersFrom_keys with announces := fun _ => rfl }

/-! ## Files that are no images -/

namespace Disk

/-- If there is a file at a location, it is no image, whatever may be added to it. -/
def SpoiledAt (d : Disk) (l : Location) : Prop :=
  ∀ bytes, d.lookup l = some (.file bytes) → Json.Garbled bytes

theorem append_of_lookup_file {d : Disk} {l : Location} {old : Bytes}
    (h : d.lookup l = some (.file old)) (bytes : Bytes) :
    d.append l bytes = d.put l (.file (old ++ bytes)) := by
  rw [append, h]

/-- Only at the end of a file can something be added. -/
theorem append_of_not_file {d : Disk} {l : Location} (h : ∀ old, d.lookup l ≠ some (.file old))
    (bytes : Bytes) : d.append l bytes = d := by
  rw [append]
  split
  · next old hold => exact absurd hold (h old)
  · rfl
  · rfl

/-- What is added is found behind what was there. -/
theorem lookup_append_self {d : Disk} {l : Location} {bytes new : Bytes}
    (h : (d.append l bytes).lookup l = some (.file new)) :
    ∃ old, d.lookup l = some (.file old) ∧ new = old ++ bytes := by
  by_cases hfile : ∃ old, d.lookup l = some (.file old)
  · obtain ⟨old, hold⟩ := hfile
    rw [append_of_lookup_file hold, lookup_put_self d (ne_nil_of_lookup_file hold)] at h
    cases h
    exact ⟨old, hold, rfl⟩
  · rw [append_of_not_file fun old hold => hfile ⟨old, hold⟩] at h
    exact absurd ⟨new, h⟩ hfile

/-- Adding the same to the same leaves the same. -/
theorem lookup_append_congr {d d' : Disk} {l : Location} (h : d'.lookup l = d.lookup l)
    (bytes : Bytes) : (d'.append l bytes).lookup l = (d.append l bytes).lookup l := by
  by_cases hfile : ∃ old, d.lookup l = some (.file old)
  · obtain ⟨old, hold⟩ := hfile
    have hold' := h.trans hold
    rw [append_of_lookup_file hold, append_of_lookup_file hold',
      lookup_put_self d (ne_nil_of_lookup_file hold),
      lookup_put_self d' (ne_nil_of_lookup_file hold')]
  · have hnot : ∀ old, d.lookup l ≠ some (.file old) := fun old hold => hfile ⟨old, hold⟩
    rw [append_of_not_file hnot, append_of_not_file (h ▸ hnot), h]

theorem SpoiledAt.append {d : Disk} {l : Location} (h : d.SpoiledAt l) (bytes : Bytes) :
    (d.append l bytes).SpoiledAt l := by
  intro new hnew
  obtain ⟨old, hold, rfl⟩ := lookup_append_self hnew
  exact (h old hold).append bytes

/-- A file that was spoiled by what was added stays so. -/
theorem spoiledAt_append {bytes : Bytes} (h : ∀ old, Json.Garbled (old ++ bytes)) (d : Disk)
    (l : Location) : (d.append l bytes).SpoiledAt l := by
  intro new hnew
  obtain ⟨old, -, rfl⟩ := lookup_append_self hnew
  exact h old

/-- A file that is put on two disks is the same on both, and no other file changes. -/
theorem lookup_put_of_spoiled {d d' : Disk} {place l : Location} (hplace : place ≠ []) (e : Entry)
    (hl : d'.lookup l = d.lookup l ∨ d.SpoiledAt l ∧ d'.SpoiledAt l) :
    (d'.put place e).lookup l = (d.put place e).lookup l ∨
      (d.put place e).SpoiledAt l ∧ (d'.put place e).SpoiledAt l := by
  by_cases heq : l = place
  · rw [heq, lookup_put_self d hplace, lookup_put_self d' hplace]
    exact .inl rfl
  · rw [SpoiledAt, SpoiledAt, lookup_put_of_ne d heq, lookup_put_of_ne d' heq]
    exact hl

section Spoiled

variable {hidden : Location → Prop} {d d' : Disk} (h : AgreesOff hidden d d')
  (hspoiled : ∀ l, hidden l → d'.lookup l = d.lookup l ∨ d.SpoiledAt l ∧ d'.SpoiledAt l)
include h hspoiled

/-- Two disks that differ in spoiled files at most have the same at a location, or such files. -/
theorem AgreesOff.lookup_of_spoiled (l : Location) :
    d'.lookup l = d.lookup l ∨ ∃ bytes bytes', d.lookup l = some (.file bytes) ∧
      d'.lookup l = some (.file bytes') ∧ Json.Garbled bytes ∧ Json.Garbled bytes' := by
  by_cases hl : hidden l
  · rcases hspoiled l hl with hsame | ⟨hd, hd'⟩
    · exact .inl hsame
    · -- There is a file on both disks or on neither.
      have hkinds := h.kinds l
      rw [SpoiledAt] at hd hd'
      generalize d.lookup l = e at hd hkinds ⊢
      generalize d'.lookup l = e' at hd' hkinds ⊢
      rcases e with _ | bytes | _ <;> rcases e' with _ | bytes' | _ <;> try cases hkinds
      · exact .inl rfl
      · exact .inr ⟨bytes, bytes', rfl, rfl, hd bytes rfl, hd' bytes' rfl⟩
      · exact .inl rfl
  · exact .inl (h.lookup l hl)

theorem AgreesOff.open?_of_spoiled (path : Path) :
    d'.open? path = d.open? path ∨ ∃ bytes bytes', d.open? path = .ok (.file bytes) ∧
      d'.open? path = .ok (.file bytes') ∧ Json.Garbled bytes ∧ Json.Garbled bytes' := by
  simp only [Disk.open?, h.walk, h.startOf]
  cases checkPath path with
  | error e => exact .inl rfl
  | ok _ =>
    cases d.walk (d.startOf path)
        (path.components ++ if path.endsInSlash then [Path.here] else []) with
    | error e => exact .inl rfl
    | ok l =>
      simp only [bind, Except.bind]
      rcases h.lookup_of_spoiled hspoiled l with hsame | ⟨bytes, bytes', hd, hd', hgarbled⟩
      · exact .inl (by rw [hsame])
      · rw [hd, hd']
        exact .inr ⟨bytes, bytes', rfl, rfl, hgarbled⟩

/-- On two disks that differ in spoiled files at most, the same image is loaded or the same is
    wrong. -/
theorem AgreesOff.load {R : Type} [Scalar R] (c : Canvas R) (path : Path) :
    c.load d' path = c.load d path := by
  rcases h.open?_of_spoiled hspoiled path with hsame | ⟨bytes, bytes', hd, hd', hbytes, hbytes'⟩
  · rw [Canvas.load, Canvas.load, hsame]
  · rw [Canvas.load, Canvas.load, hd, hd']
    simp only [Scene.decode?, hbytes.parse?_eq_none, hbytes'.parse?_eq_none, Option.bind_none]

end Spoiled

end Disk

/-! ## Worlds -/

namespace World

variable {R H U : Type} [Host H]

/-- In two worlds the same was done, but for the words of what was shown and recorded. -/
structure Reworded (input : H → U) (w w' : World H) : Prop where
  undisturbed : w.Undisturbed w'
  input : input w'.host = input w.host
  /-- The file of the journal is the same, or is no image in either of them. -/
  journal : ∀ l, w.JournalAt l →
    w'.disk.lookup l = w.disk.lookup l ∨ w.disk.SpoiledAt l ∧ w'.disk.SpoiledAt l

/-- What recording does to the file of the journal. -/
theorem disk_record_of_journalAt {w : World H} {l : Location} (h : w.JournalAt l) (e : Event) :
    (w.record e).disk = if w.journal.keeps e then
      w.disk.append l (Text.encode (w.journal.line e)) else w.disk := by
  have hsink : w.journal.sink = .file l := h
  rw [disk_record, Journal.recorded, hsink]

theorem spoiledAt_record {w : World H} {l : Location} (hl : w.JournalAt l)
    (h : w.disk.SpoiledAt l) (e : Event) : (w.record e).disk.SpoiledAt l := by
  rw [disk_record_of_journalAt hl]
  split
  · exact h.append _
  · exact h

theorem disk_report (w : World H) (message : String) : (w.report message).disk =
    if Host.announces w.host then (w.record (.report message)).disk else w.disk := by
  rw [report]
  split <;> rfl

theorem spoiledAt_report {w : World H} {l : Location} (hl : w.JournalAt l)
    (h : w.disk.SpoiledAt l) (message : String) : (w.report message).disk.SpoiledAt l := by
  rw [disk_report]
  split
  · exact spoiledAt_record hl h _
  · exact h

/-- Every journal keeps a refusal, and with it in its file there is no image there. -/
theorem spoiledAt_report_refusal {w : World H} {l : Location} (hl : w.JournalAt l)
    (message verb : String) (kind : ErrorKind) :
    ((w.record (.rejected message verb kind)).report message).disk.SpoiledAt l := by
  have hkeeps : w.journal.keeps (.rejected message verb kind) = true :=
    decide_eq_true (Nat.zero_le _)
  have hrecord := Undisturbed.record w (.rejected message verb kind)
  refine spoiledAt_report ?_ ?_ message
  · rw [JournalAt, hrecord.journal]
    exact hl
  · rw [disk_record_of_journalAt hl, if_pos hkeeps]
    exact Disk.spoiledAt_append (fun old =>
      Json.garbled_append_rejected old w.journal message verb kind) _ _

namespace Reworded

variable {input : H → U} {w w' : World H}

omit [Host H] in
theorem refl (w : World H) : w.Reworded input w := ⟨.refl w, rfl, fun _ _ => .inl rfl⟩

omit [Host H] in
theorem journalAt (h : w.Reworded input w') {l : Location} (hl : w.JournalAt l) :
    w'.JournalAt l := by
  rw [JournalAt, h.undisturbed.journal]
  exact hl

variable (hin : Host.GoesBy input)
include hin

theorem record (h : w.Reworded input w') (e : Event) :
    (w.record e).Reworded input (w'.record e) := by
  refine ⟨((Undisturbed.record w e).symm.trans h.undisturbed).trans (.record w' e), ?_,
    fun l hl => ?_⟩
  · rw [input_record hin.toAnswersFrom, input_record hin.toAnswersFrom, h.input]
  · have hl : w.JournalAt l := by
      rw [JournalAt, ← (Undisturbed.record w e).journal]
      exact hl
    have hl' := h.journalAt hl
    rcases h.journal l hl with hsame | ⟨hspoiled, hspoiled'⟩
    · refine .inl ?_
      rw [disk_record_of_journalAt hl, disk_record_of_journalAt hl', h.undisturbed.journal]
      split
      · exact Disk.lookup_append_congr hsame _
      · exact hsame
    · exact .inr ⟨spoiledAt_record hl hspoiled e, spoiledAt_record hl' hspoiled' e⟩

/-- What a host shows makes no difference. -/
theorem shown (h : w.Reworded input w') (message message' : String) :
    { w with host := Host.report message w.host }.Reworded input
      { w' with host := Host.report message' w'.host } := by
  refine ⟨⟨h.undisturbed.journal, h.undisturbed.disk⟩, ?_, h.journal⟩
  exact (hin.report _ _).trans (h.input.trans (hin.report _ _).symm)

theorem report (h : w.Reworded input w') (message : String) :
    (w.report message).Reworded input (w'.report message) := by
  rw [World.report, World.report, hin.announces h.input]
  split
  · exact (h.record hin _).shown hin _ _
  · exact h.shown hin _ _

/-- The words of a refusal make no difference: with either of them the file of the journal is no
    image any more. -/
theorem refuse (h : w.Reworded input w') (message message' verb : String) (kind : ErrorKind) :
    ((w.record (.rejected message verb kind)).report message).Reworded input
      ((w'.record (.rejected message' verb kind)).report message') := by
  have hleft := (Undisturbed.record w (.rejected message verb kind)).trans (.report _ message)
  have hright := (Undisturbed.record w' (.rejected message' verb kind)).trans (.report _ message')
  refine ⟨(hleft.symm.trans h.undisturbed).trans hright, ?_, fun l hl => .inr ⟨?_, ?_⟩⟩
  · rw [input_report hin.toAnswersFrom, input_record hin.toAnswersFrom,
      input_report hin.toAnswersFrom, input_record hin.toAnswersFrom, h.input]
  · rw [JournalAt, hleft.journal] at hl
    exact spoiledAt_report_refusal hl message verb kind
  · rw [JournalAt, hleft.journal] at hl
    exact spoiledAt_report_refusal (h.journalAt hl) message' verb kind

/-- Worlds in which the same was done in other words stay so, whatever is done in both. -/
theorem congruence [Scalar R] : World.Congruence R (World.Reworded input) where
  record h e := h.record hin e
  report h message := h.report hin message
  refuse h message message' verb kind := h.refuse hin message message' verb kind
  confirm h question := by
    obtain ⟨hanswer, hinput⟩ := hin.confirm question h.input
    exact ⟨hanswer, ⟨h.undisturbed.journal, h.undisturbed.disk⟩, hinput, h.journal⟩
  pick h dialog := by
    obtain ⟨hanswer, hinput⟩ := hin.pick dialog h.input
    exact ⟨hanswer, ⟨h.undisturbed.journal, h.undisturbed.disk⟩, hinput, h.journal⟩
  write := by
    rintro w w' ⟨⟨hjournal, hdisk⟩, hinput, hfile⟩ path bytes
    refine Disk.writesAlike_of_put (hdisk.place path) hdisk.room (fun l bytes hl => ?_) bytes
    exact ⟨⟨hjournal, hdisk.put hl _⟩, hinput,
      fun l' hl' => Disk.lookup_put_of_spoiled hl _ (hfile l' hl')⟩

omit hin in
/-- There is no image in the file of the journal that could make a difference. -/
theorem loadsAlike [Scalar R] (h : w.Reworded input w') : World.LoadsAlike R w w' :=
  fun path _ c => h.undisturbed.disk.load h.journal c path

end Reworded

end World

end Turtle

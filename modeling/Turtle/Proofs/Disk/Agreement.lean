import Turtle.Proofs.Command.Range
import Turtle.Disk

/-!
# Disks that differ in some files

Two disks may hold the same but for what is in some files, hidden ones. Paths lead to the same
places on both, for a walk asks whether something is a directory and not what is in a file; what
they lead to reads the same unless it is hidden, and what is written is written to both.

* `Disk.write_cases`: what writing a file can come to, and `Disk.WritesAlike` says of two attempts
  that they come to the same;
* `Disk.AgreesOff` says that two disks differ in what hidden files hold, and in nothing else;
* `Disk.AgreesOff.append`: writing at the end of a hidden file;
* `Disk.AgreesOff.readText_of_target?`, `Disk.AgreesOff.open?_of_target?` and
  `Disk.AgreesOff.write`: reading and writing on two such disks.
-/

namespace Turtle

/-- An entry without what it holds. -/
def Entry.emptied : Entry → Entry
  | file _ => file []
  | directory => directory

namespace Disk

/-! ## Entries -/

theorem lookup_put_of_ne (d : Disk) {l l' : Location} (h : l' ≠ l) (e : Entry) :
    (d.put l e).lookup l' = d.lookup l' := by
  have hl : (l == l') = false := beq_eq_false_iff_ne.2 h.symm
  have found (entries : List (Location × Entry)) :
      ((entries.map fun old => if old.1 == l then (l, e) else old).find? fun x => x.1 == l') =
        entries.find? fun x => x.1 == l' := by
    induction entries with
    | nil => rfl
    | cons old entries ih =>
      rw [List.map_cons, List.find?_cons, List.find?_cons, ih]
      by_cases hold : (old.1 == l) = true
      · rw [if_pos hold, eq_of_beq hold, hl]
      · rw [if_neg hold]
  rw [put]
  split
  · rw [lookup, lookup, found]
  · rw [lookup, lookup, List.find?_append]
    simp only [List.find?_cons, List.find?_nil, hl, Option.or_none]

/-- What is put at a location is found there, but for the root. -/
theorem lookup_put_self (d : Disk) {l : Location} (h : l ≠ []) (e : Entry) :
    (d.put l e).lookup l = some e := by
  have found (entries : List (Location × Entry))
      (hany : (entries.any fun old => old.1 == l) = true) :
      ((entries.map fun old => if old.1 == l then (l, e) else old).find? fun x => x.1 == l) =
        some (l, e) := by
    induction entries with
    | nil => cases hany
    | cons old entries ih =>
      rw [List.map_cons, List.find?_cons]
      by_cases hold : (old.1 == l) = true
      · rw [if_pos hold, beq_self_eq_true]
      · rw [if_neg hold, Bool.eq_false_iff.2 hold]
        rw [List.any_cons, Bool.eq_false_iff.2 hold, Bool.false_or] at hany
        exact ih hany
  rw [put]
  split
  · next hany => rw [lookup, if_neg h, found _ hany, Option.map_some]
  · next hany =>
    have hnone : (d.entries.find? fun x => x.1 == l) = none := by
      rw [List.find?_eq_none]
      intro old hmem hold
      exact hany (List.any_eq_true.2 ⟨old, hmem, hold⟩)
    rw [lookup, if_neg h, List.find?_append, hnone, Option.none_or, List.find?_cons,
      beq_self_eq_true, Option.map_some]

theorem workdir_put (d : Disk) (l : Location) (e : Entry) : (d.put l e).workdir = d.workdir := by
  rw [put]
  split <;> rfl

theorem room_put (d : Disk) (l : Location) (e : Entry) : (d.put l e).room = d.room := by
  rw [put]
  split <;> rfl

/-- The root is no file. -/
theorem ne_nil_of_lookup_file {d : Disk} {l : Location} {bytes : Bytes}
    (h : d.lookup l = some (.file bytes)) : l ≠ [] := by
  rintro rfl
  cases h

/-- No file is written at the root. -/
theorem ne_nil_of_place {d : Disk} {p : Path} {l : Location} (h : d.place p = .ok l) : l ≠ [] := by
  rintro rfl
  rw [place] at h
  obtain ⟨-, -, h⟩ := bind_eq_ok_iff.1 h
  split at h
  · cases h
  · obtain ⟨parent, -, h⟩ := bind_eq_ok_iff.1 h
    split at h
    · obtain ⟨-, -, h⟩ := bind_eq_ok_iff.1 h
      cases h
    · -- The root would be a directory, and those are refused.
      obtain ⟨l, -, h⟩ := bind_eq_ok_iff.1 h
      split at h
      · cases h
      all_goals
        next hlookup =>
          cases h
          cases hlookup

/-! ## Writing -/

/-- What writing a file can come to: the path leads to no place for a file, the file is written, or
    there is no room for all of its bytes. -/
theorem write_cases (d : Disk) (p : Path) (bytes : Bytes) :
    (∃ cause, d.place p = .error cause ∧ d.write p bytes = .error (.unopened cause)) ∨
    ∃ l, d.place p = .ok l ∧ (d.write p bytes = .ok (d.put l (.file bytes)) ∨
      ∃ n, d.roomAt? l = some n ∧ n < bytes.length ∧
        d.write p bytes = .error (.brokenOff (d.put l (.file (bytes.take n))))) := by
  rw [write]
  cases d.place p with
  | error cause => exact .inl ⟨cause, rfl, rfl⟩
  | ok l =>
    refine .inr ⟨l, rfl, ?_⟩
    dsimp only
    cases hroom : d.roomAt? l with
    | none => exact .inl rfl
    | some n =>
      dsimp only
      split
      · exact .inl rfl
      · next hlong => exact .inr ⟨n, rfl, Nat.lt_of_not_le hlong, rfl⟩

theorem exists_of_write_eq_ok {d new : Disk} {p : Path} {bytes : Bytes}
    (h : d.write p bytes = .ok new) : ∃ l, d.place p = .ok l ∧ new = d.put l (.file bytes) := by
  obtain ⟨_, -, hwrite⟩ | ⟨l, hplace, hwrite | ⟨_, -, -, hwrite⟩⟩ := d.write_cases p bytes
  · cases h.symm.trans hwrite
  · exact ⟨l, hplace, Except.ok.inj (h.symm.trans hwrite)⟩
  · cases h.symm.trans hwrite

/-- Writing is broken off where the room is short, and then the file holds what there is room
    for. -/
theorem write_eq_brokenOff_iff {d left : Disk} {p : Path} {bytes : Bytes} :
    d.write p bytes = .error (.brokenOff left) ↔ ∃ l n, d.place p = .ok l ∧
      d.roomAt? l = some n ∧ n < bytes.length ∧ left = d.put l (.file (bytes.take n)) := by
  constructor
  · intro h
    obtain ⟨_, -, hwrite⟩ | ⟨l, hplace, hwrite | ⟨n, hroom, hlong, hwrite⟩⟩ :=
      d.write_cases p bytes
    · cases h.symm.trans hwrite
    · cases h.symm.trans hwrite
    · cases h.symm.trans hwrite
      exact ⟨l, n, hplace, hroom, hlong, rfl⟩
  · rintro ⟨l, n, hplace, hroom, hlong, rfl⟩
    rw [write, hplace]
    dsimp only
    rw [hroom]
    exact if_neg (Nat.not_le_of_lt hlong)

/-- Two attempts to write come to the same: they fail without a file, or are broken off, or have
    written it, and what they leave is related. -/
inductive WritesAlike (rel : Disk → Disk → Prop) :
    Except WriteError Disk → Except WriteError Disk → Prop
  | unopened (cause : DiskError) :
      WritesAlike rel (.error (.unopened cause)) (.error (.unopened cause))
  | brokenOff {left left' : Disk} (h : rel left left') :
      WritesAlike rel (.error (.brokenOff left)) (.error (.brokenOff left'))
  | written {new new' : Disk} (h : rel new new') : WritesAlike rel (.ok new) (.ok new')

theorem WritesAlike.mono {rel rel' : Disk → Disk → Prop} {r r' : Except WriteError Disk}
    (himp : ∀ {d d'}, rel d d' → rel' d d') (h : WritesAlike rel r r') : WritesAlike rel' r r' := by
  cases h with
  | unopened cause => exact .unopened cause
  | brokenOff hleft => exact .brokenOff (himp hleft)
  | written hnew => exact .written (himp hnew)

/-- Attempts come to the same if the path leads to the same place and there is the same room. -/
theorem writesAlike_of_put {rel : Disk → Disk → Prop} {d d' : Disk} {p : Path}
    (hplace : d'.place p = d.place p) (hroom : d'.room = d.room)
    (hput : ∀ l bytes, l ≠ [] → rel (d.put l (.file bytes)) (d'.put l (.file bytes)))
    (bytes : Bytes) : WritesAlike rel (d.write p bytes) (d'.write p bytes) := by
  rw [write, write, hplace]
  cases h : d.place p with
  | error cause => exact .unopened cause
  | ok l =>
    have hl := ne_nil_of_place h
    have hlimit : d'.roomAt? l = d.roomAt? l := by rw [roomAt?, roomAt?, hroom]
    dsimp only
    rw [hlimit]
    cases d.roomAt? l with
    | none => exact .written (hput l bytes hl)
    | some n =>
      dsimp only
      split
      · exact .written (hput l bytes hl)
      · exact .brokenOff (hput l _ hl)

/-! ## Disks that differ in some files -/

/-- Two disks hold the same, but for what is in the files at hidden locations. -/
structure AgreesOff (hidden : Location → Prop) (d d' : Disk) : Prop where
  workdir : d'.workdir = d.workdir
  room : d'.room = d.room
  lookup : ∀ l, ¬hidden l → d'.lookup l = d.lookup l
  kinds : ∀ l, (d'.lookup l).map Entry.emptied = (d.lookup l).map Entry.emptied

namespace AgreesOff

variable {hidden : Location → Prop} {d d' d'' : Disk}

theorem refl (d : Disk) : AgreesOff hidden d d := ⟨rfl, rfl, fun _ _ => rfl, fun _ => rfl⟩

theorem symm (h : AgreesOff hidden d d') : AgreesOff hidden d' d :=
  ⟨h.workdir.symm, h.room.symm, fun l hl => (h.lookup l hl).symm, fun l => (h.kinds l).symm⟩

theorem trans (h : AgreesOff hidden d d') (h' : AgreesOff hidden d' d'') :
    AgreesOff hidden d d'' :=
  ⟨h'.workdir.trans h.workdir, h'.room.trans h.room,
    fun l hl => (h'.lookup l hl).trans (h.lookup l hl), fun l => (h'.kinds l).trans (h.kinds l)⟩

/-- Writing at the end of a hidden file. -/
theorem append (d : Disk) {l : Location} (hl : hidden l) (bytes : Bytes) :
    AgreesOff hidden d (d.append l bytes) := by
  rw [Disk.append]
  split
  · next old hold =>
    refine ⟨d.workdir_put l _, d.room_put l _, fun l' hl' => ?_, fun l' => ?_⟩
    · have hne : l' ≠ l := fun h => hl' (h ▸ hl)
      exact d.lookup_put_of_ne hne _
    · by_cases hne : l' = l
      · rw [hne, d.lookup_put_self (ne_nil_of_lookup_file hold), hold]
        rfl
      · rw [d.lookup_put_of_ne hne]
  · exact refl d
  · exact refl d

/-- The same entry is put at the same location. -/
theorem put (h : AgreesOff hidden d d') {l : Location} (hl : l ≠ []) (e : Entry) :
    AgreesOff hidden (d.put l e) (d'.put l e) := by
  have hself : (d'.put l e).lookup l = (d.put l e).lookup l := by
    rw [d.lookup_put_self hl, d'.lookup_put_self hl]
  refine ⟨?_, ?_, fun l' hl' => ?_, fun l' => ?_⟩
  · rw [workdir_put, workdir_put, h.workdir]
  · rw [room_put, room_put, h.room]
  · by_cases hne : l' = l
    · rw [hne, hself]
    · rw [d.lookup_put_of_ne hne, d'.lookup_put_of_ne hne, h.lookup l' hl']
  · by_cases hne : l' = l
    · rw [hne, hself]
    · rw [d.lookup_put_of_ne hne, d'.lookup_put_of_ne hne, h.kinds]

/-! ### Walking paths -/

theorem walkStep (h : AgreesOff hidden d d') : d'.walkStep = d.walkStep := by
  funext l name
  have hkinds := h.kinds l
  rw [Disk.walkStep, Disk.walkStep]
  generalize d.lookup l = e at hkinds ⊢
  generalize d'.lookup l = e' at hkinds ⊢
  rcases e with _ | _ | _ <;> rcases e' with _ | _ | _ <;> first | rfl | cases hkinds

theorem walk (h : AgreesOff hidden d d') (l : Location) (names : List Bytes) :
    d'.walk l names = d.walk l names := by
  rw [Disk.walk, Disk.walk, h.walkStep]

theorem startOf (h : AgreesOff hidden d d') (p : Path) : d'.startOf p = d.startOf p := by
  rw [Disk.startOf, Disk.startOf, h.workdir]

/-- A path to write to leads to the same location. -/
theorem place (h : AgreesOff hidden d d') (p : Path) : d'.place p = d.place p := by
  simp only [Disk.place, h.walk, h.startOf, h.walkStep]
  refine bind_congr fun _ => ?_
  cases p.components.getLast? with
  | none => rfl
  | some name =>
    refine bind_congr fun parent => ?_
    split
    · rfl
    · -- Whether a file may be written at a location depends on what is there, not on what it holds.
      refine bind_congr fun l => ?_
      have hkinds := h.kinds l
      generalize d.lookup l = e at hkinds ⊢
      generalize d'.lookup l = e' at hkinds ⊢
      rcases e with _ | _ | _ <;> rcases e' with _ | _ | _ <;> first | rfl | cases hkinds

end AgreesOff

/-! ## Where paths lead -/

/-- The location that one component of a path leads to. -/
def enter (l : Location) (name : Bytes) : Location :=
  if name = Path.here then l
  else if name = Path.above then l.dropLast
  else l ++ [name]

/-- The location that a path leads to, if it leads anywhere. -/
def locationOf (d : Disk) (p : Path) : Location :=
  p.components.foldl enter (d.startOf p)

theorem eq_enter_of_walkStep {d : Disk} {l l' : Location} {name : Bytes}
    (h : d.walkStep l name = .ok l') : l' = enter l name := by
  rw [walkStep] at h
  rw [enter]
  split at h
  · cases h
  · cases h
  · split at h
    · next hhere => rw [if_pos hhere, Except.ok.inj h]
    · next hhere =>
      rw [if_neg hhere]
      split at h
      · next habove => rw [if_pos habove, Except.ok.inj h]
      · next habove =>
        rw [if_neg habove]
        split at h
        · cases h
        · exact (Except.ok.inj h).symm

theorem eq_foldl_enter_of_walk {d : Disk} {l l' : Location} {names : List Bytes}
    (h : d.walk l names = .ok l') : l' = names.foldl enter l := by
  induction names generalizing l with
  | nil => exact (Except.ok.inj h).symm
  | cons name names ih =>
    rw [walk, List.foldlM_cons] at h
    cases hstep : d.walkStep l name with
    | error e =>
      rw [hstep] at h
      cases h
    | ok l'' =>
      rw [hstep] at h
      rw [List.foldl_cons, ← eq_enter_of_walkStep hstep]
      exact ih h

/-- The location that a path to read from leads to, if it leads anywhere. -/
def target? (d : Disk) (p : Path) : Option Location :=
  (d.walk (d.startOf p) (p.components ++ if p.endsInSlash then [Path.here] else [])).toOption

theorem locationOf_of_target? {d : Disk} {p : Path} {l : Location} (h : d.target? p = some l) :
    d.locationOf p = l := by
  rw [target?] at h
  cases hwalk : d.walk (d.startOf p)
      (p.components ++ if p.endsInSlash then [Path.here] else []) with
  | error e =>
    rw [hwalk] at h
    cases h
  | ok l' =>
    rw [hwalk] at h
    obtain rfl : l' = l := Option.some.inj h
    rw [eq_foldl_enter_of_walk hwalk, List.foldl_append]
    split <;> rfl

namespace AgreesOff

variable {hidden : Location → Prop} {d d' : Disk}

theorem target? (h : AgreesOff hidden d d') (p : Path) : d'.target? p = d.target? p := by
  rw [Disk.target?, Disk.target?, h.walk, h.startOf]

/-- A path that does not lead to a hidden file leads to the same entry. -/
theorem open?_of_target? (h : AgreesOff hidden d d') {p : Path}
    (hp : ∀ l, d.target? p = some l → ¬hidden l) : d'.open? p = d.open? p := by
  rw [Disk.target?] at hp
  simp only [Disk.open?, h.walk, h.startOf]
  refine bind_congr fun _ => ?_
  cases hwalk : d.walk (d.startOf p)
      (p.components ++ if p.endsInSlash then [Path.here] else []) with
  | error e => rfl
  | ok l =>
    rw [hwalk] at hp
    simp only [bind, Except.bind, h.lookup l (hp l rfl)]

theorem open? (h : AgreesOff hidden d d') {p : Path} (hp : ¬hidden (d.locationOf p)) :
    d'.open? p = d.open? p :=
  h.open?_of_target? fun _ hl => locationOf_of_target? hl ▸ hp

theorem readText_of_target? (h : AgreesOff hidden d d') {p : Path}
    (hp : ∀ l, d.target? p = some l → ¬hidden l) : d'.readText p = d.readText p := by
  rw [Disk.readText, Disk.readText, Disk.read, Disk.read, h.open?_of_target? hp]

/-- The same file is written, or the writing of it is broken off, or the same is wrong. -/
theorem write (h : AgreesOff hidden d d') (p : Path) (bytes : Bytes) :
    WritesAlike (AgreesOff hidden) (d.write p bytes) (d'.write p bytes) :=
  writesAlike_of_put (h.place p) h.room (fun _ _ hl => h.put hl _) bytes

end AgreesOff

end Disk

end Turtle

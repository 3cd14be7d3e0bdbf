import Turtle.Proofs.Disk.Agreement

/-!
# Files that were written

A file that has been written is found again under the path it was written to. The way there does
not change: it leads through directories, and no file is written in the place of one.

* `Disk.open?_write`: what the path leads to is what was written, and `Disk.readText_write` says it
  of texts.
-/

namespace Turtle.Disk

variable {d : Disk}

/-- What is put where there is no directory is in no path's way. -/
theorem walkStep_put {place : Location} (hplace : d.lookup place ≠ some .directory) (e : Entry)
    {l l' : Location} {name : Bytes} (h : d.walkStep l name = .ok l') :
    (d.put place e).walkStep l name = .ok l' := by
  have hdirectory : d.lookup l = some .directory := by
    rw [walkStep] at h
    split at h
    · cases h
    · cases h
    · assumption
  have hne : l ≠ place := by
    rintro rfl
    exact hplace hdirectory
  rw [walkStep, d.lookup_put_of_ne hne]
  exact h

theorem walk_put {place : Location} (hplace : d.lookup place ≠ some .directory) (e : Entry)
    {l l' : Location} {names : List Bytes} (h : d.walk l names = .ok l') :
    (d.put place e).walk l names = .ok l' := by
  induction names generalizing l with
  | nil => exact h
  | cons name names ih =>
    rw [walk, List.foldlM_cons] at h ⊢
    obtain ⟨next, hstep, hrest⟩ := bind_eq_ok_iff.1 h
    rw [walkStep_put hplace e hstep]
    exact ih hrest

/-- A path to write to leads there also when it is read, and there is no directory. -/
theorem walk_of_place {p : Path} {l : Location} (h : d.place p = .ok l) :
    checkPath p = .ok () ∧ p.endsInSlash = false ∧ d.walk (d.startOf p) p.components = .ok l ∧
      d.lookup l ≠ some .directory := by
  rw [place] at h
  obtain ⟨⟨⟩, hcheck, h⟩ := bind_eq_ok_iff.1 h
  split at h
  · cases h
  · next name hlast =>
    obtain ⟨parent, hparent, h⟩ := bind_eq_ok_iff.1 h
    split at h
    · obtain ⟨-, -, h⟩ := bind_eq_ok_iff.1 h
      cases h
    · next hslash =>
      obtain ⟨l', hstep, h⟩ := bind_eq_ok_iff.1 h
      have hl : l' = l ∧ d.lookup l' ≠ some .directory := by
        split at h
        · cases h
        all_goals
          next hlookup => exact ⟨Except.ok.inj h, by simp [hlookup]⟩
      obtain ⟨rfl, hne⟩ := hl
      refine ⟨hcheck, by simpa using hslash, ?_, hne⟩
      obtain ⟨names, hnames⟩ := List.getLast?_eq_some_iff.1 hlast
      rw [hnames, List.dropLast_concat] at hparent
      rw [hnames, walk, List.foldlM_append, ← walk, hparent]
      show d.walk parent [name] = _
      rw [walk, List.foldlM_cons, hstep]
      rfl

/-- What has been written is what the path leads to. -/
theorem open?_write {p : Path} {bytes : Bytes} {new : Disk} (h : d.write p bytes = .ok new) :
    new.open? p = .ok (.file bytes) := by
  obtain ⟨l, hplace, rfl⟩ := exists_of_write_eq_ok h
  obtain ⟨hcheck, hslash, hwalk, hne⟩ := walk_of_place hplace
  have hstart : (d.put l (.file bytes)).startOf p = d.startOf p := by
    rw [startOf, startOf, workdir_put]
  have hfound := d.lookup_put_self (ne_nil_of_place hplace) (.file bytes)
  rw [open?, hcheck, hslash, hstart]
  simp only [Bool.false_eq_true, if_false, List.append_nil]
  show (do let l ← (d.put l (.file bytes)).walk _ _; _) = _
  rw [walk_put hne _ hwalk]
  simp only [bind, Except.bind, hfound]

/-- A text that has been written is read back. -/
theorem readText_write {p : Path} {text : String} {new : Disk}
    (h : d.write p (Text.encode text) = .ok new) : new.readText p = .ok text := by
  have hread : new.read p = .ok (Text.encode text) := by
    rw [read, open?_write h]
    rfl
  refine bind_eq_ok_iff.2 ⟨_, hread, ?_⟩
  rw [Text.decode?_encode]

end Turtle.Disk

import Mathlib.Data.List.DropRight
import Mathlib.Data.List.Induction
import Mathlib.Tactic.Common
import Turtle.Path

/-!
# The last component of a path

Where the last component of a path stands among its bytes: behind a slash or at the beginning, and
in front of nothing but slashes and single dots behind them. The file name of a path is its last
component, unless that leads to the directory above.

* `Path.Idle` is what may stand behind the last component, and `Path.LastComponent` says where the
  last component stands;
* `Path.getLast?_names_eq_some_iff`: it is the last of the names in the path, which has no other;
* `Path.fileName?_eq_some_iff`: the file name is the last component;
* `Path.ending` is what stands behind the last slash, whether it names something or not.
-/

namespace Turtle.Path

/-- What may stand behind the last component of a path: slashes, and single dots behind some of
    them. -/
inductive Idle : Bytes → Prop
  | nil : Idle []
  | bare {bytes : Bytes} (h : Idle bytes) : Idle (slash :: bytes)
  | dotted {bytes : Bytes} (h : Idle bytes) : Idle (slash :: (here ++ bytes))

/-- Bytes without a slash that name something. -/
structure IsComponent (name : Bytes) : Prop where
  ne_nil : name ≠ []
  ne_here : name ≠ here
  slash_not_mem : slash ∉ name

/-- Nothing stands here, or something that ends in a slash. -/
def EndsAtSlash (front : Bytes) : Prop :=
  ∀ b ∈ front.getLast?, b = slash

/-- The last component of a path, by what stands in front of it and behind it. -/
structure LastComponent (p : Path) (name : Bytes) : Prop where
  component : IsComponent name
  placed : ∃ front behind, p.bytes = front ++ (name ++ behind) ∧ EndsAtSlash front ∧ Idle behind

/-! ## Behind the last slash -/

/-- What stands behind the last slash of a path; without a slash, all of it. -/
def ending (p : Path) : Bytes :=
  p.bytes.rtakeWhile (· ≠ slash)

theorem slash_not_mem_ending (p : Path) : slash ∉ p.ending := by
  intro h
  have hne := List.mem_rtakeWhile_imp (p := fun b => decide (b ≠ slash)) h
  exact of_decide_eq_true hne rfl

/-- In front of its ending, a path ends at a slash. -/
theorem exists_bytes_eq_append_ending (p : Path) :
    ∃ front, p.bytes = front ++ p.ending ∧ EndsAtSlash front := by
  refine ⟨p.bytes.rdropWhile (· ≠ slash), List.rdropWhile_append_rtakeWhile.symm, fun b hb => ?_⟩
  obtain ⟨hne, rfl⟩ := List.mem_getLast?_eq_getLast hb
  have hlast := List.rdropWhile_last_not (· ≠ slash) p.bytes hne
  rwa [decide_eq_true_eq, not_not] at hlast

/-! ## The names in a path -/

/-- The components that name something, with those that lead to the directory above. -/
def names (bytes : Bytes) : List Bytes :=
  ((bytes.splitOn slash).filter fun c => !c.isEmpty).filter (· ≠ here)

theorem fileName?_eq (p : Path) :
    p.fileName? =
      (names p.bytes).getLast?.bind fun name => if name = above then none else some name := by
  rw [fileName?, components, names]
  cases (((p.bytes.splitOn slash).filter fun c => !c.isEmpty).filter (· ≠ here)).getLast? <;> rfl

theorem names_append_slash_cons (front behind : Bytes) :
    names (front ++ slash :: behind) = names front ++ names behind := by
  rw [names, List.splitOn_append_cons_self, List.filter_append, List.filter_append]
  rfl

theorem names_nil : names [] = [] := by decide

theorem names_here : names here = [] := by decide

theorem names_slash_cons (bytes : Bytes) : names (slash :: bytes) = names bytes := by
  have h := names_append_slash_cons [] bytes
  rwa [List.nil_append, names_nil, List.nil_append] at h

theorem IsComponent.names_eq {name : Bytes} (h : IsComponent name) : names name = [name] := by
  obtain ⟨hnil, hhere, hslash⟩ := h
  rw [names, List.splitOn_eq_singleton hslash]
  simp [hnil, hhere]

/-- Where there are only slashes and dots there is no name, also behind another dot. -/
theorem Idle.names_eq {bytes : Bytes} (h : Idle bytes) :
    names bytes = [] ∧ names (here ++ bytes) = [] := by
  induction h with
  | nil => exact ⟨names_nil, by rw [List.append_nil, names_here]⟩
  | bare _ ih =>
    rw [names_append_slash_cons, names_slash_cons, names_here, ih.1]
    exact ⟨rfl, rfl⟩
  | dotted _ ih =>
    rw [names_append_slash_cons, names_slash_cons, names_here, ih.2]
    exact ⟨rfl, rfl⟩

/-- What is idle behind a component adds no name. -/
theorem IsComponent.names_append {name behind : Bytes} (h : IsComponent name) (hi : Idle behind) :
    names (name ++ behind) = [name] := by
  cases hi with
  | nil => rw [List.append_nil, h.names_eq]
  | bare hi => rw [names_append_slash_cons, h.names_eq, hi.names_eq.1, List.append_nil]
  | dotted hi => rw [names_append_slash_cons, h.names_eq, hi.names_eq.2, List.append_nil]

theorem LastComponent.getLast?_names {p : Path} {name : Bytes} (h : p.LastComponent name) :
    (names p.bytes).getLast? = some name := by
  obtain ⟨hname, front, behind, hbytes, hfront, hbehind⟩ := h
  rw [hbytes]
  cases front using List.reverseRecOn with
  | nil => rw [List.nil_append, hname.names_append hbehind, List.getLast?_singleton]
  | append_singleton front b =>
    rw [hfront b (by rw [List.getLast?_concat]; rfl), List.append_assoc, List.singleton_append,
      names_append_slash_cons, hname.names_append hbehind, List.getLast?_concat]

/-- The last name of some bytes is the last component of a path of them, and of one that goes on
    idly. -/
theorem lastComponent_of_getLast?_names {name : Bytes} (bytes : Bytes) {behind : Bytes}
    (hbehind : Idle behind) (h : (names bytes).getLast? = some name) :
    LastComponent ⟨bytes ++ behind⟩ name := by
  obtain ⟨front, hbytes, hfront⟩ := exists_bytes_eq_append_ending ⟨bytes⟩
  have hslash := slash_not_mem_ending ⟨bytes⟩
  generalize ending ⟨bytes⟩ = piece at hbytes hslash
  dsimp only at hbytes
  by_cases hpiece : piece = [] ∨ piece = here
  · -- Behind the last slash there is no name, so that the last one stands in front of that slash.
    cases front using List.reverseRecOn with
    | nil =>
      have hnames : names bytes = [] := by
        rcases hpiece with rfl | rfl
        exacts [hbytes ▸ names_nil, hbytes ▸ names_here]
      rw [hnames] at h
      cases h
    | append_singleton front b =>
      rw [hfront b (by rw [List.getLast?_concat]; rfl), List.append_assoc,
        List.singleton_append] at hbytes
      have hshorter : front.length < bytes.length := by
        rw [hbytes, List.length_append, List.length_cons]
        omega
      rw [hbytes, names_append_slash_cons] at h
      rw [hbytes, List.append_assoc, List.cons_append]
      rcases hpiece with rfl | rfl
      · rw [names_nil, List.append_nil] at h
        exact lastComponent_of_getLast?_names front hbehind.bare h
      · rw [names_here, List.append_nil] at h
        exact lastComponent_of_getLast?_names front hbehind.dotted h
  · have hname : IsComponent piece := by
      rw [not_or] at hpiece
      exact ⟨hpiece.1, hpiece.2, hslash⟩
    have hlast : LastComponent ⟨bytes ++ behind⟩ piece :=
      ⟨hname, front, behind, by rw [hbytes, List.append_assoc], hfront, hbehind⟩
    have hlast' : LastComponent ⟨bytes⟩ piece :=
      ⟨hname, front, [], by rw [hbytes, List.append_nil], hfront, .nil⟩
    rwa [← Option.some.inj (hlast'.getLast?_names.symm.trans h)]
termination_by bytes.length

/-- The last component of a path is the last of its names, which are none if it has none. -/
theorem getLast?_names_eq_some_iff {p : Path} {name : Bytes} :
    (names p.bytes).getLast? = some name ↔ p.LastComponent name := by
  refine ⟨fun h => ?_, LastComponent.getLast?_names⟩
  have hlast := lastComponent_of_getLast?_names p.bytes .nil h
  rwa [List.append_nil] at hlast

/-- A path has no other last component. -/
theorem LastComponent.unique {p : Path} {name name' : Bytes} (h : p.LastComponent name)
    (h' : p.LastComponent name') : name = name' :=
  Option.some.inj (h.getLast?_names.symm.trans h'.getLast?_names)

/-- The file name is the last component, unless that leads to the directory above. -/
theorem fileName?_eq_some_iff {p : Path} {name : Bytes} :
    p.fileName? = some name ↔ p.LastComponent name ∧ name ≠ above := by
  rw [fileName?_eq, Option.bind_eq_some_iff]
  constructor
  · rintro ⟨name', hlast, hname⟩
    split at hname
    · cases hname
    · next hne =>
      cases hname
      exact ⟨getLast?_names_eq_some_iff.1 hlast, hne⟩
  · rintro ⟨hlast, hne⟩
    exact ⟨name, hlast.getLast?_names, if_neg hne⟩

end Turtle.Path

import Turtle.Proofs.Command.Faults

/-!
# Surplus arguments

No verb but `triangle` looks at how many arguments it has beyond those that it reads. A statement
with more of them than the usage of its verb shows is valid if it would be without them, and they
are dropped: a forgotten semicolon joins two statements to one that is accepted.

* `Verb.build_take`: a verb other than `triangle` reads no argument behind those of its usage;
* `Statement.surplus_arguments_are_dropped`: the valid statements are those of the grammar, and
  those that are in the grammar up to arguments behind.
-/

namespace Turtle

/-! ## The arguments that are read -/

namespace Verb

section Families

variable {args : List String} {i k : Nat}

theorem wholeNumber_take (verb : String) (h : i < k) :
    wholeNumber verb (args.take k) i = wholeNumber verb args i := by
  rw [wholeNumber, wholeNumber, List.getElem?_take_of_lt h]

theorem distance_take (verb : String) (h : i < k) :
    distance verb (args.take k) i = distance verb args i := by
  rw [distance, distance, wholeNumber_take verb h]

theorem ofDistance_take {verb : String} {make : Int32 → Command} (h : 0 < k) :
    ofDistance verb make (args.take k) = ofDistance verb make args := by
  rw [ofDistance, ofDistance, distance_take verb h]

theorem ofDegrees_take {verb : String} {make : Int32 → Primitive} (h : 0 < k) :
    ofDegrees verb make (args.take k) = ofDegrees verb make args := by
  -- Without arguments there is a right angle, so it matters that the first one is still there.
  have hempty : (args.take k).isEmpty = args.isEmpty := by
    cases args with
    | nil => rw [List.take_nil]
    | cons value args => rw [← Nat.succ_pred_eq_of_pos h]; rfl
  rw [ofDegrees, ofDegrees, degrees, degrees, hempty, wholeNumber_take verb h]

theorem buildPen_take (h : 2 < k) : buildPen (args.take k) = buildPen args := by
  rw [buildPen, buildPen, wholeNumber_take _ (by omega), wholeNumber_take _ (by omega),
    wholeNumber_take _ h]

theorem buildPenWidth_take (h : 0 < k) : buildPenWidth (args.take k) = buildPenWidth args := by
  rw [buildPenWidth, buildPenWidth, wholeNumber_take _ h]

theorem buildPolygon_take (h : 1 < k) : buildPolygon (args.take k) = buildPolygon args := by
  rw [buildPolygon, buildPolygon, wholeNumber_take _ (by omega), wholeNumber_take _ h]

end Families

/-- Only a triangle looks behind the arguments that its usage shows. -/
theorem build_take {verb : Verb} (hverb : verb ∈ table) (hname : verb.name ≠ "triangle")
    (args : List String) : verb.build (args.take verb.mostArgs) = verb.build args := by
  simp only [table, List.mem_cons, List.not_mem_nil, or_false] at hverb
  rcases hverb with rfl | rfl | rfl | rfl | rfl | rfl | rfl | rfl | rfl | rfl | rfl | rfl | rfl |
    rfl | rfl | rfl | rfl | rfl | rfl | rfl | rfl | rfl | rfl | rfl | rfl | rfl
  all_goals first
    | exact absurd rfl hname
    | exact ofDistance_take (by decide)
    | exact ofDegrees_take (by decide)
    | exact buildPen_take (by decide)
    | exact buildPenWidth_take (by decide)
    | exact buildPolygon_take (by decide)
    | rfl

end Verb

/-! ## Statements with surplus arguments -/

namespace Statement

variable {s : Statement} {verb : Verb} {c : Command}

/-- Surplus arguments make no difference, except to a triangle. -/
theorem validate_take (hfind : Verb.find? s.verb = some verb) (hverb : s.verb ≠ "triangle") :
    validate ⟨s.verb, s.args.take verb.mostArgs⟩ = s.validate := by
  obtain ⟨forms, -, hname, hfits⟩ := Verb.exists_fits hfind
  have hmin := (hfits.counts.between _ hfits.counts.minArgs_mem).2
  have hfew : (s.args.take verb.mostArgs).length < verb.minArgs ↔
      s.args.length < verb.minArgs := by
    rw [List.length_take]
    omega
  rw [validate, validate, hfind]
  dsimp only
  rw [Verb.build_take (List.mem_of_find?_eq_some hfind) (hname ▸ hverb)]
  simp only [hfew]

/-- A triangle with surplus arguments is refused. -/
theorem validate_of_triangle (hverb : s.verb = "triangle") (h : 3 < s.args.length) :
    s.validate = .error (.triangleArity s.args.length) := by
  have hmin : ¬s.args.length < 1 := by omega
  rw [validate, hverb]
  show (if s.args.length < 1 then _ else Verb.buildTriangle s.args) = _
  rw [if_neg hmin, Verb.buildTriangle_eq_error (by omega) (by omega)]

/-- The usage of a verb shows as many arguments as a statement of the grammar has. -/
theorem Means.shows (h : s.Means c) (hfind : Verb.find? s.verb = some verb) :
    verb.Shows s.args.length := by
  obtain ⟨form, hform, -⟩ := h
  obtain ⟨forms, hforms, hmem, hlength⟩ := exists_of_form? hform
  obtain ⟨forms', hforms', -, hfits⟩ := Verb.exists_fits hfind
  cases hforms.symm.trans hforms'
  have hcount : s.args.length ∈ forms.map fun form => form.params.length :=
    hlength ▸ List.mem_map_of_mem hmem
  have hle := (hfits.counts.between _ hcount).2
  exact (hfits.counts.shows_iff _ (Nat.lt_succ_of_le hle)).2 hcount

theorem validate_eq_ok_iff (hfind : Verb.find? s.verb = some verb)
    (hle : s.args.length ≤ verb.mostArgs) : s.validate = .ok c ↔ s.Means c :=
  validate_eq_iff fun verb' hfind' => by
    cases hfind.symm.trans hfind'
    exact hle

theorem validate_eq_ok_iff_take (hfind : Verb.find? s.verb = some verb)
    (hverb : s.verb ≠ "triangle") :
    s.validate = .ok c ↔ Means ⟨s.verb, s.args.take verb.mostArgs⟩ c := by
  rw [← validate_take hfind hverb]
  exact validate_eq_ok_iff (s := ⟨s.verb, s.args.take verb.mostArgs⟩) hfind (List.length_take_le ..)

/-- A valid statement is either in the grammar, or its verb is not `triangle`, there are more
    arguments than its usage shows, and it means what the arguments in front mean without them. -/
theorem surplus_arguments_are_dropped (s : Statement) (c : Command) :
    s.validate = .ok c ↔ ∃ verb, Verb.find? s.verb = some verb ∧
      (verb.Shows s.args.length ∧ s.Means c ∨
        s.verb ≠ "triangle" ∧ verb.mostArgs < s.args.length ∧
          Means ⟨s.verb, s.args.take verb.mostArgs⟩ c) := by
  constructor
  · intro h
    cases hfind : Verb.find? s.verb with
    | none =>
      rw [validate, hfind] at h
      cases h
    | some verb =>
      refine ⟨verb, rfl, ?_⟩
      rcases Nat.lt_or_ge verb.mostArgs s.args.length with hsurplus | hle
      · have hverb : s.verb ≠ "triangle" := by
          intro hverb
          have hmost : verb.mostArgs = 3 := by
            rw [hverb] at hfind
            cases hfind
            decide
          cases (validate_of_triangle hverb (hmost ▸ hsurplus)).symm.trans h
        exact .inr ⟨hverb, hsurplus, (validate_eq_ok_iff_take hfind hverb).1 h⟩
      · have hmeans := (validate_eq_ok_iff hfind hle).1 h
        exact .inl ⟨hmeans.shows hfind, hmeans⟩
  · rintro ⟨verb, hfind, ⟨hshows, hmeans⟩ | ⟨hverb, -, hmeans⟩⟩
    · exact (validate_eq_ok_iff hfind hshows.le_mostArgs).2 hmeans
    · exact (validate_eq_ok_iff_take hfind hverb).2 hmeans

/-- A turn behind a move, with no semicolon between them, is dropped. -/
theorem surplus_argument_is_accepted :
    validate ⟨"move", ["10", "right", "90"]⟩ = .ok (.primitive (.move 10)) ∧
      ∃ verb ∈ Verb.find? "move", ¬verb.Shows 3 := by
  decide

end Statement

end Turtle

import Turtle.Proofs.Command.Grammar

/-!
# Which fault is reported

A statement that is not in the grammar can have many faults. They are looked for in a fixed order,
each in its turn, and the first that the statement has is the one that is reported: an unknown verb,
too few arguments, a triangle with the wrong number of them, and then the faults of the arguments
from left to right. With `polygon` all arguments are read before any of them is checked.

* `Statement.Fault` are the faults that a statement has, each with its turn, and
  `Statement.FirstFault` is the one whose turn comes first;
* `Statement.validate_follows_grammar`: a statement with no more arguments than its verb can have is
  valid if it is in the grammar, and otherwise has its first fault.
-/

namespace Turtle

namespace Statement

/-- When an argument is read. -/
def readTurn (s : Statement) (i : Nat) : Nat :=
  3 + if s.verb = "polygon" then i else 2 * i

/-- When the range of an argument is checked. -/
def checkTurn (s : Statement) (i : Nat) : Nat :=
  3 + if s.verb = "polygon" then s.args.length + i else 2 * i + 1

/-- The faults of a statement, each with its turn. -/
inductive Fault (s : Statement) : Nat → CommandError → Prop
  /-- There is no such verb. -/
  | unknownVerb (hverb : grammar.lookup s.verb = none) : Fault s 0 (.invalidCommand s.verb)
  /-- Every form of the verb has more arguments. -/
  | tooFew {forms : List Form} (hforms : grammar.lookup s.verb = some forms)
      (hfew : ∀ form ∈ forms, s.args.length < form.params.length) :
      Fault s 1 (.missingParameter s.verb)
  /-- A triangle has one size or three sides. -/
  | triangleArity (hverb : s.verb = "triangle") (hone : s.args.length ≠ 1)
      (hthree : s.args.length ≠ 3) : Fault s 2 (.triangleArity s.args.length)
  /-- An argument is no whole number of 32 bits. -/
  | notWhole {form : Form} {i : Nat} {value : String} (hform : s.form? = some form)
      (hvalue : s.args[i]? = some value) (hnot : ∀ n : Int32, ¬Spells value.toList n.toInt) :
      Fault s (s.readTurn i) (.invalidParameter s.verb value)
  /-- An argument is out of range. -/
  | outOfRange {form : Form} {i : Nat} {p : Parameter} {value : String} {n : Int32}
      {e : CommandError} (hform : s.form? = some form) (hp : form.params[i]? = some p)
      (hvalue : s.args[i]? = some value) (hn : Spells value.toList n.toInt)
      (hout : p.OutOfRange n e) : Fault s (s.checkTurn i) e

/-- The fault of a statement whose turn comes first. -/
def FirstFault (s : Statement) (e : CommandError) : Prop :=
  ∃ turn, s.Fault turn e ∧ ∀ earlier < turn, ∀ e', ¬s.Fault earlier e'

variable {s : Statement} {form : Form} {c c' : Command} {e e' : CommandError} {turn : Nat}

/-! ## Forms -/

theorem exists_of_form? (h : s.form? = some form) :
    ∃ forms, grammar.lookup s.verb = some forms ∧ form ∈ forms ∧
      form.params.length = s.args.length := by
  obtain ⟨forms, hforms, hform⟩ := Option.bind_eq_some_iff.1 h
  exact ⟨forms, hforms, List.mem_of_find?_eq_some hform, by simpa using List.find?_some hform⟩

/-- The only form of a polygon. -/
theorem form?_of_polygon (h : s.form? = some form) (hverb : s.verb = "polygon") :
    form = ⟨[.sides, .distance], fun n d => Command.shape (.polygon n d)⟩ := by
  obtain ⟨forms, hforms, hform, -⟩ := exists_of_form? h
  rw [hverb] at hforms
  cases hforms
  exact List.mem_singleton.1 hform

/-- A triangle that follows a form has one size or three sides. -/
theorem length_args_of_triangle (h : s.form? = some form) (hverb : s.verb = "triangle") :
    s.args.length = 1 ∨ s.args.length = 3 := by
  obtain ⟨forms, hforms, hform, hlength⟩ := exists_of_form? h
  rw [hverb] at hforms
  cases hforms
  rw [← hlength]
  rcases List.mem_cons.1 hform with rfl | hform
  · exact .inl rfl
  · rw [List.mem_singleton.1 hform]
    exact .inr rfl

/-- If a statement follows a form, its faults are those of its arguments. -/
theorem Fault.exists_of_form? (h : s.Fault turn e) (hform : s.form? = some form) :
    (∃ i value, turn = s.readTurn i ∧ e = .invalidParameter s.verb value ∧
        s.args[i]? = some value ∧ ∀ n : Int32, ¬Spells value.toList n.toInt) ∨
      ∃ i p value n, turn = s.checkTurn i ∧ form.params[i]? = some p ∧
        s.args[i]? = some value ∧ Spells value.toList (Int32.toInt n) ∧ p.OutOfRange n e := by
  obtain ⟨forms, hforms, hmem, hlength⟩ := Statement.exists_of_form? hform
  cases h with
  | unknownVerb hverb => cases hverb.symm.trans hforms
  | tooFew hforms' hfew =>
    cases hforms.symm.trans hforms'
    exact absurd hlength (Nat.ne_of_gt (hfew form hmem))
  | triangleArity hverb hone hthree =>
    exact absurd (length_args_of_triangle hform hverb) (by omega)
  | notWhole hform' hvalue hnot => exact .inl ⟨_, _, rfl, rfl, hvalue, hnot⟩
  | outOfRange hform' hp hvalue hn hout =>
    cases hform.symm.trans hform'
    exact .inr ⟨_, _, _, _, rfl, hp, hvalue, hn, hout⟩

/-! ## At most one of them -/

/-- A statement that means something has no fault. -/
theorem Means.not_fault (h : s.Means c) : ¬s.Fault turn e := by
  intro hfault
  obtain ⟨form, hform, htakes⟩ := h
  rcases hfault.exists_of_form? hform with ⟨i, value, -, -, hvalue, hnot⟩ |
    ⟨i, p, value, n, -, hp, hvalue, hn, hout⟩
  · -- Every argument has a parameter, and is read for it.
    have hlt : i < form.params.length := by
      rw [htakes.length_eq]
      exact (List.getElem?_eq_some_iff.1 hvalue).1
    obtain ⟨n, hn, -⟩ := htakes.accepts (List.getElem?_eq_getElem hlt) hvalue
    exact hnot n hn
  · obtain ⟨m, hm, hrange⟩ := htakes.accepts hp hvalue
    cases hn.unique hm
    exact hout.not_admits hrange

theorem Means.unique (h : s.Means c) (h' : s.Means c') : c = c' := by
  obtain ⟨form, hform, htakes⟩ := h
  obtain ⟨form', hform', htakes'⟩ := h'
  cases hform.symm.trans hform'
  exact htakes.unique htakes'

/-- An argument is read and checked at different times. -/
theorem readTurn_ne_checkTurn {i j : Nat} {value : String} (hvalue : s.args[i]? = some value) :
    s.readTurn i ≠ s.checkTurn j := by
  have hlt := (List.getElem?_eq_some_iff.1 hvalue).1
  rw [readTurn, checkTurn]
  split <;> omega

theorem readTurn_inj {i j : Nat} (h : s.readTurn i = s.readTurn j) : i = j := by
  rw [readTurn, readTurn] at h
  split at h <;> omega

theorem checkTurn_inj {i j : Nat} (h : s.checkTurn i = s.checkTurn j) : i = j := by
  rw [checkTurn, checkTurn] at h
  split at h <;> omega

/-- Without a form there is something wrong with the statement as a whole. -/
theorem Fault.of_form?_eq_none (h : s.Fault turn e) (hnone : s.form? = none) :
    turn = 0 ∧ e = .invalidCommand s.verb ∧ grammar.lookup s.verb = none ∨
      turn = 1 ∧ e = .missingParameter s.verb ∧ (∃ forms, grammar.lookup s.verb = some forms ∧
        ∀ form ∈ forms, s.args.length < form.params.length) ∨
      turn = 2 ∧ e = .triangleArity s.args.length := by
  cases h with
  | unknownVerb hverb => exact .inl ⟨rfl, rfl, hverb⟩
  | tooFew hforms hfew => exact .inr (.inl ⟨rfl, rfl, _, hforms, hfew⟩)
  | triangleArity => exact .inr (.inr ⟨rfl, rfl⟩)
  | notWhole hform | outOfRange hform => cases hnone.symm.trans hform

/-- Every turn belongs to one fault at most. -/
theorem Fault.unique (h : s.Fault turn e) (h' : s.Fault turn e') : e = e' := by
  cases hform : s.form? with
  | none =>
    rcases h.of_form?_eq_none hform with ⟨ht, rfl, -⟩ | ⟨ht, rfl, -⟩ | ⟨ht, rfl⟩ <;>
      rcases h'.of_form?_eq_none hform with ⟨ht', rfl, -⟩ | ⟨ht', rfl, -⟩ | ⟨ht', rfl⟩ <;>
      first | rfl | omega
  | some form =>
    rcases h.exists_of_form? hform with ⟨i, value, ht, rfl, hvalue, -⟩ |
      ⟨i, p, value, n, ht, hp, hvalue, hn, hout⟩ <;>
    rcases h'.exists_of_form? hform with ⟨j, value', ht', rfl, hvalue', -⟩ |
      ⟨j, p', value', n', ht', hp', hvalue', hn', hout'⟩
    · cases readTurn_inj (ht.symm.trans ht')
      cases hvalue.symm.trans hvalue'
      rfl
    · exact absurd (ht.symm.trans ht') (readTurn_ne_checkTurn hvalue)
    · exact absurd (ht'.symm.trans ht) (readTurn_ne_checkTurn hvalue')
    · cases checkTurn_inj (ht.symm.trans ht')
      cases hp.symm.trans hp'
      cases hvalue.symm.trans hvalue'
      cases hn.unique hn'
      exact hout.unique hout'

theorem FirstFault.unique (h : s.FirstFault e) (h' : s.FirstFault e') : e = e' := by
  obtain ⟨turn, hfault, hfirst⟩ := h
  obtain ⟨turn', hfault', hfirst'⟩ := h'
  rcases Nat.lt_trichotomy turn turn' with hlt | rfl | hlt
  · exact absurd hfault (hfirst' turn hlt e)
  · exact hfault.unique hfault'
  · exact absurd hfault' (hfirst turn' hlt e')

/-! ## At least one of them -/

/-- A fault is the first one if all arguments that were read before it are whole numbers, and all
    those that were checked are in range. -/
theorem Fault.first (h : s.Fault turn e) (hform : s.form? = some form)
    (hread : ∀ i value, s.args[i]? = some value → s.readTurn i < turn →
      ∃ n : Int32, Spells value.toList n.toInt)
    (hcheck : ∀ i p value n, form.params[i]? = some p → s.args[i]? = some value →
      s.checkTurn i < turn → Spells value.toList (Int32.toInt n) → p.Admits n) :
    s.FirstFault e := by
  refine ⟨turn, h, fun earlier hlt e' hfault => ?_⟩
  rcases hfault.exists_of_form? hform with ⟨i, value, rfl, -, hvalue, hnot⟩ |
    ⟨i, p, value, n, rfl, hp, hvalue, hn, hout⟩
  · obtain ⟨n, hn⟩ := hread i value hvalue hlt
    exact hnot n hn
  · exact hout.not_admits (hcheck i p value n hp hvalue hlt hn)

/-- The fault that is found from left to right is the first one, but for `polygon`. -/
theorem firstFault_of_build (hform : s.form? = some form) (hverb : s.verb ≠ "polygon")
    (h : form.build s.verb s.args = .error e) : s.FirstFault e := by
  obtain ⟨-, -, -, hlength⟩ := exists_of_form? hform
  obtain ⟨i, p, value, hp, hvalue, hbefore, hfault⟩ :=
    Form.exists_of_buildFrom_eq_error hlength.symm h
  have hreadTurn (j : Nat) : s.readTurn j = 3 + 2 * j := by rw [readTurn, if_neg hverb]
  have hcheckTurn (j : Nat) : s.checkTurn j = 3 + (2 * j + 1) := by rw [checkTurn, if_neg hverb]
  -- The arguments in front of the faulty one are in order.
  have haccepts {j : Nat} {other : String} (hj : j < i) (hother : s.args[j]? = some other) :
      ∃ q, form.params[j]? = some q ∧ q.Accepts other := by
    have hlt : j < form.params.length :=
      hj.trans (List.getElem?_eq_some_iff.1 hp).1
    have hq := List.getElem?_eq_getElem hlt
    exact ⟨_, hq, hbefore j hj _ other hq hother⟩
  have hchecked {j : Nat} {q : Parameter} {other : String} {n : Int32} (hj : j < i)
      (hq : form.params[j]? = some q) (hother : s.args[j]? = some other)
      (hn : Spells other.toList n.toInt) : q.Admits n := by
    obtain ⟨q', hq', m, hm, hrange⟩ := haccepts hj hother
    cases hq.symm.trans hq'
    cases hn.unique hm
    exact hrange
  rcases hfault with ⟨hnot, rfl⟩ | ⟨n, hn, hout⟩
  · refine (Fault.notWhole hform hvalue hnot).first hform (fun j other hother hlt => ?_)
      fun j q other m hq hother hlt hm => ?_
    · rw [hreadTurn, hreadTurn] at hlt
      obtain ⟨q, -, m, hm, -⟩ := haccepts (by omega) hother
      exact ⟨m, hm⟩
    · rw [hcheckTurn, hreadTurn] at hlt
      exact hchecked (by omega) hq hother hm
  · refine (Fault.outOfRange hform hp hvalue hn hout).first hform (fun j other hother hlt => ?_)
      fun j q other m hq hother hlt hm => ?_
    · rw [hreadTurn, hcheckTurn] at hlt
      rcases Nat.lt_or_ge j i with hj | hj
      · obtain ⟨q, -, m, hm, -⟩ := haccepts hj hother
        exact ⟨m, hm⟩
      · have heq : j = i := by omega
        cases heq
        cases hvalue.symm.trans hother
        exact ⟨n, hn⟩
    · rw [hcheckTurn, hcheckTurn] at hlt
      exact hchecked (by omega) hq hother hm

end Statement

/-! ## Triangles and polygons -/

theorem Verb.buildTriangle_eq_error {args : List String} (hone : args.length ≠ 1)
    (hthree : args.length ≠ 3) : Verb.buildTriangle args = .error (.triangleArity args.length) := by
  rw [Verb.buildTriangle]
  split
  · contradiction
  · contradiction
  · rfl

/-- What becomes of the two arguments of a polygon: both are read before either is checked. -/
inductive PolygonBuilt (sides length : String) : Except CommandError Command → Prop
  | sidesNotWhole (hsides : ∀ n : Int32, ¬Spells sides.toList n.toInt) :
      PolygonBuilt sides length (.error (.invalidParameter "polygon" sides))
  | lengthNotWhole {n : Int32} (hsides : Spells sides.toList n.toInt)
      (hlength : ∀ m : Int32, ¬Spells length.toList m.toInt) :
      PolygonBuilt sides length (.error (.invalidParameter "polygon" length))
  | sidesOut {n m : Int32} {e : CommandError} (hsides : Spells sides.toList n.toInt)
      (hlength : Spells length.toList m.toInt) (hout : Parameter.sides.OutOfRange n e) :
      PolygonBuilt sides length (.error e)
  | lengthOut {n m : Int32} {e : CommandError} (hsides : Spells sides.toList n.toInt)
      (hn : Parameter.sides.Admits n) (hlength : Spells length.toList m.toInt)
      (hout : Parameter.distance.OutOfRange m e) : PolygonBuilt sides length (.error e)
  | built {n m : Int32} (hsides : Spells sides.toList n.toInt) (hn : Parameter.sides.Admits n)
      (hlength : Spells length.toList m.toInt) (hm : Parameter.distance.Admits m) :
      PolygonBuilt sides length (.ok (.shape (.polygon n m)))

theorem polygonBuilt (sides length : String) :
    PolygonBuilt sides length (Verb.buildPolygon [sides, length]) := by
  rw [Verb.buildPolygon, Verb.wholeNumber_eq_read "polygon" sides rfl,
    Verb.wholeNumber_eq_read "polygon" length rfl, Parameter.read, Parameter.read]
  cases hsides : readInt32? sides with
  | none => exact .sidesNotWhole (readInt32?_eq_none_iff.1 hsides)
  | some n =>
    have hn := readInt32?_eq_some_iff.1 hsides
    cases hlength : readInt32? length with
    | none => exact .lengthNotWhole hn (readInt32?_eq_none_iff.1 hlength)
    | some m =>
      have hm := readInt32?_eq_some_iff.1 hlength
      show PolygonBuilt sides length (Parameter.check .sides n >>= fun n =>
        Parameter.check .distance m >>= fun m => .ok (Command.shape (.polygon n m)))
      rcases Parameter.sides.check_cases n with ⟨hadmits, hcheck⟩ | ⟨e, hout, hcheck⟩
      · rcases Parameter.distance.check_cases m with ⟨hadmits', hcheck'⟩ | ⟨e, hout, hcheck'⟩
        · rw [hcheck, hcheck']
          exact .built hn hadmits hm hadmits'
        · rw [hcheck, hcheck']
          exact .lengthOut hn hadmits hm hout
      · rw [hcheck]
        exact .sidesOut hn hm hout

namespace Statement

variable {s : Statement} {form : Form} {c : Command} {e : CommandError}

/-- The arguments of a polygon are built in the form that it has. -/
theorem exists_polygonBuilt (hform : s.form? = some form) (hverb : s.verb = "polygon") :
    ∃ sides length, s.args = [sides, length] ∧
      PolygonBuilt sides length (Verb.buildPolygon s.args) := by
  obtain ⟨-, -, -, hlength⟩ := exists_of_form? hform
  rw [form?_of_polygon hform hverb] at hlength
  obtain ⟨sides, length, hargs⟩ := List.length_eq_two.1 hlength.symm
  exact ⟨sides, length, hargs, hargs ▸ polygonBuilt sides length⟩

theorem means_of_buildPolygon (hform : s.form? = some form) (hverb : s.verb = "polygon")
    (h : Verb.buildPolygon s.args = .ok c) : s.Means c := by
  obtain ⟨sides, length, hargs, hbuilt⟩ := exists_polygonBuilt hform hverb
  rw [h] at hbuilt
  refine ⟨form, hform, ?_⟩
  rw [form?_of_polygon hform hverb, hargs]
  cases hbuilt with
  | built hsides hn hlength hm => exact .next hsides hn (.next hlength hm .done)

theorem firstFault_of_buildPolygon (hform : s.form? = some form) (hverb : s.verb = "polygon")
    (h : Verb.buildPolygon s.args = .error e) : s.FirstFault e := by
  obtain ⟨sides, length, hargs, hbuilt⟩ := exists_polygonBuilt hform hverb
  have hparams : form.params = [.sides, .distance] := by rw [form?_of_polygon hform hverb]
  have hreadTurn (i : Nat) : s.readTurn i = 3 + i := by rw [readTurn, if_pos hverb]
  have hcheckTurn (i : Nat) : s.checkTurn i = 5 + i := by
    rw [checkTurn, if_pos hverb, hargs]
    show 3 + (2 + i) = _
    omega
  have hzero : s.args[0]? = some sides := by rw [hargs]; rfl
  have hone : s.args[1]? = some length := by rw [hargs]; rfl
  have hwhole {n m : Int32} (hsides : Spells sides.toList n.toInt)
      (hlength : Spells length.toList m.toInt) (i : Nat) (value : String)
      (hvalue : s.args[i]? = some value) : ∃ k : Int32, Spells value.toList k.toInt := by
    rw [hargs] at hvalue
    match i with
    | 0 => cases hvalue; exact ⟨n, hsides⟩
    | 1 => cases hvalue; exact ⟨m, hlength⟩
    | i + 2 => cases hvalue
  rw [h] at hbuilt
  cases hbuilt with
  | sidesNotWhole hsides =>
    rw [← hverb]
    refine (Fault.notWhole hform hzero hsides).first hform (fun i value hvalue hlt => ?_)
      fun i p value n hp hvalue hlt hn => ?_
    · rw [hreadTurn, hreadTurn] at hlt
      omega
    · rw [hcheckTurn, hreadTurn] at hlt
      omega
  | lengthNotWhole hsides hlength =>
    rw [← hverb]
    refine (Fault.notWhole hform hone hlength).first hform (fun i value hvalue hlt => ?_)
      fun i p value n hp hvalue hlt hn => ?_
    · rw [hreadTurn, hreadTurn] at hlt
      have hi : i = 0 := by omega
      cases hi
      cases hzero.symm.trans hvalue
      exact ⟨_, hsides⟩
    · rw [hcheckTurn, hreadTurn] at hlt
      omega
  | sidesOut hsides hlength hout =>
    have hp : form.params[0]? = some .sides := by rw [hparams]; rfl
    refine (Fault.outOfRange hform hp hzero hsides hout).first hform
      (fun i value hvalue _ => hwhole hsides hlength i value hvalue)
      fun i p value n hp hvalue hlt hn => ?_
    rw [hcheckTurn, hcheckTurn] at hlt
    omega
  | lengthOut hsides hn hlength hout =>
    have hp : form.params[1]? = some .distance := by rw [hparams]; rfl
    refine (Fault.outOfRange hform hp hone hlength hout).first hform
      (fun i value hvalue _ => hwhole hsides hlength i value hvalue)
      fun i p value n hp hvalue hlt hn' => ?_
    rw [hcheckTurn, hcheckTurn] at hlt
    have hi : i = 0 := by omega
    cases hi
    rw [hparams] at hp
    cases hp
    cases hzero.symm.trans hvalue
    cases hsides.unique hn'
    exact hn

/-! ## Every statement gets what it deserves -/

/-- A statement gets the command that it means, or else its first fault. -/
def Deserves (s : Statement) : Except CommandError Command → Prop
  | .ok c => s.Means c
  | .error e => s.FirstFault e

theorem Deserves.unique {r r' : Except CommandError Command} (h : s.Deserves r)
    (h' : s.Deserves r') : r = r' := by
  cases r with
  | ok c =>
    cases r' with
    | ok c' => exact congrArg _ (Means.unique h h')
    | error e' =>
      obtain ⟨turn, hfault, -⟩ := h'
      exact absurd hfault h.not_fault
  | error e =>
    cases r' with
    | ok c' =>
      obtain ⟨turn, hfault, -⟩ := h
      exact absurd hfault (Means.not_fault h')
    | error e' => exact congrArg _ (FirstFault.unique h h')

theorem deserves_build (hform : s.form? = some form) (hverb : s.verb ≠ "polygon") :
    s.Deserves (form.build s.verb s.args) := by
  obtain ⟨-, -, -, hlength⟩ := exists_of_form? hform
  cases h : form.build s.verb s.args with
  | ok c => exact ⟨form, hform, .of_buildFrom hlength.symm h⟩
  | error e => exact firstFault_of_build hform hverb h

theorem deserves_buildPolygon (hform : s.form? = some form) (hverb : s.verb = "polygon") :
    s.Deserves (Verb.buildPolygon s.args) := by
  cases h : Verb.buildPolygon s.args with
  | ok c => exact means_of_buildPolygon hform hverb h
  | error e => exact firstFault_of_buildPolygon hform hverb h

theorem firstFault_unknownVerb (h : grammar.lookup s.verb = none) :
    s.FirstFault (.invalidCommand s.verb) :=
  ⟨0, .unknownVerb h, fun _ hlt => absurd hlt (Nat.not_lt_zero _)⟩

variable {forms : List Form}

theorem form?_eq_none_iff (hforms : grammar.lookup s.verb = some forms) :
    s.form? = none ↔ ∀ form ∈ forms, form.params.length ≠ s.args.length := by
  rw [form?, hforms]
  simp

theorem firstFault_tooFew (hforms : grammar.lookup s.verb = some forms)
    (hfew : ∀ form ∈ forms, s.args.length < form.params.length) :
    s.FirstFault (.missingParameter s.verb) := by
  refine ⟨1, .tooFew hforms hfew, fun earlier hlt e' hfault => ?_⟩
  have hnone := (form?_eq_none_iff hforms).2 fun form hform => Nat.ne_of_gt (hfew form hform)
  rcases hfault.of_form?_eq_none hnone with ⟨-, -, hunknown⟩ | ⟨rfl, -⟩ | ⟨rfl, -⟩
  · cases hunknown.symm.trans hforms
  all_goals omega

theorem firstFault_triangleArity (hverb : s.verb = "triangle")
    (hforms : grammar.lookup s.verb = some forms)
    (hfew : ¬∀ form ∈ forms, s.args.length < form.params.length) (hone : s.args.length ≠ 1)
    (hthree : s.args.length ≠ 3) : s.FirstFault (.triangleArity s.args.length) := by
  refine ⟨2, .triangleArity hverb hone hthree, fun earlier hlt e' hfault => ?_⟩
  have hnone : s.form? = none :=
    Option.eq_none_iff_forall_ne_some.2 fun form hform => by
      rcases length_args_of_triangle hform hverb with h | h
      exacts [hone h, hthree h]
  rcases hfault.of_form?_eq_none hnone with ⟨-, -, hunknown⟩ | ⟨-, -, forms', hforms', hfew'⟩ |
    ⟨rfl, -⟩
  · cases hunknown.symm.trans hforms
  · cases hforms.symm.trans hforms'
    exact hfew hfew'
  · omega

/-- A statement with no more arguments than its verb can have gets what it deserves. -/
theorem deserves_validate (h : ∀ verb ∈ Verb.find? s.verb, s.args.length ≤ verb.mostArgs) :
    s.Deserves s.validate := by
  rcases Verb.find?_cases s.verb with ⟨hfind, hlookup⟩ |
    ⟨verb, forms, hfind, hlookup, hname, hfits⟩
  · rw [validate, hfind]
    exact firstFault_unknownVerb hlookup
  rw [validate, hfind]
  dsimp only
  have hmost := h verb hfind
  by_cases hfew : s.args.length < verb.minArgs
  · rw [if_pos hfew, hname]
    exact firstFault_tooFew hlookup (hfits.lt_minArgs_iff.1 hfew)
  rw [if_neg hfew]
  cases hform : s.form? with
  | none =>
    -- Only between the two forms of a triangle is there room for a number of arguments.
    have htriangle : s.verb = "triangle" := by
      by_contra hne
      have hmem := hfits.counts.gap (hname ▸ hne) s.args.length (Nat.lt_succ_of_le hmost)
        (Nat.le_of_not_lt hfew)
      obtain ⟨form, hmem, hlength⟩ := List.mem_map.1 hmem
      exact (form?_eq_none_iff hlookup).1 hform form hmem hlength
    have hother := (form?_eq_none_iff hlookup).1 hform
    rw [htriangle] at hfind hlookup
    cases hfind
    cases hlookup
    have hone : s.args.length ≠ 1 := (hother _ List.mem_cons_self).symm
    have hthree : s.args.length ≠ 3 :=
      (hother _ (List.mem_cons_of_mem _ List.mem_cons_self)).symm
    show s.Deserves (Verb.buildTriangle s.args)
    rw [Verb.buildTriangle_eq_error hone hthree]
    exact firstFault_triangleArity htriangle (by rw [htriangle]; rfl)
      (fun hall => hfew (hfits.lt_minArgs_iff.2 hall)) hone hthree
  | some form =>
    by_cases hverb : s.verb = "polygon"
    · rw [hverb] at hfind
      cases hfind
      exact deserves_buildPolygon hform hverb
    · obtain ⟨forms', hforms', hmem, hlength⟩ := exists_of_form? hform
      cases hlookup.symm.trans hforms'
      rw [hfits.builds (hname ▸ hverb) form hmem s.args hlength.symm, hname]
      exact deserves_build hform hverb

theorem validate_eq_iff (h : ∀ verb ∈ Verb.find? s.verb, s.args.length ≤ verb.mostArgs)
    {r : Except CommandError Command} : s.validate = r ↔ s.Deserves r :=
  ⟨fun heq => heq ▸ deserves_validate h, (deserves_validate h).unique⟩

/-- A statement with no more arguments than its verb can have is valid just when the grammar has
    a command for it, and otherwise its first fault is reported. -/
theorem validate_follows_grammar (s : Statement)
    (h : ∀ verb ∈ Verb.find? s.verb, s.args.length ≤ verb.mostArgs) :
    (∀ c, s.validate = .ok c ↔ s.Means c) ∧ (∀ e, s.validate = .error e ↔ s.FirstFault e) :=
  ⟨fun _ => validate_eq_iff h, fun _ => validate_eq_iff h⟩

/-- A polygon has its length read before its number of sides is checked. -/
theorem firstFault_of_polygon_sides_out :
    (∀ verb ∈ Verb.find? "polygon", 2 ≤ verb.mostArgs) ∧
      FirstFault ⟨"polygon", ["13", "x"]⟩ (.invalidParameter "polygon" "x") :=
  ⟨by decide, ((validate_follows_grammar ⟨"polygon", ["13", "x"]⟩ (by decide)).2 _).1 rfl⟩

end Statement

end Turtle

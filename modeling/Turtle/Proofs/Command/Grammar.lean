import Mathlib.Data.List.Basic
import Turtle.Proofs.Command.Number
import Turtle.Proofs.Command.Range

/-!
# The grammar of statements

What every verb takes and what it then means, written down apart from the table of verbs and from
the order in which arguments are checked. A verb has one form or two, which differ in how many
arguments they have; an argument is a whole number in a range.

* `grammar` has the forms of all verbs, and `Statement.Means` is the command of a statement that
  follows one of them;
* `Verb.Shows` are the numbers of arguments that the usage of a verb shows to a user;
* `Verb.fits_grammar`: the usage shows the forms of the grammar, and all verbs but `polygon` build
  their command by `Form.build`, which reads the arguments from left to right.
-/

namespace Turtle

/-! ## Parameters -/

/-- What an argument has to be: a whole number in some range. -/
inductive Parameter where
  | distance
  | width
  | sides
  | number
  deriving DecidableEq, Repr

namespace Parameter

/-- The numbers in range. -/
def Admits : Parameter → Int32 → Prop
  | distance, n => 1 ≤ n ∧ n ≤ 200
  | width, n => 1 ≤ n ∧ n ≤ 10
  | sides, n => 3 ≤ n ∧ n ≤ 12
  | number, _ => True

/-- A number is out of range, and so has a fault. -/
inductive OutOfRange : Parameter → Int32 → CommandError → Prop
  | distance {n : Int32} (h : ¬(1 ≤ n ∧ n ≤ 200)) : OutOfRange .distance n (.distanceOutOfRange n)
  | width {n : Int32} (h : ¬(1 ≤ n ∧ n ≤ 10)) : OutOfRange .width n (.penWidthOutOfRange n)
  | sides {n : Int32} (h : ¬(3 ≤ n ∧ n ≤ 12)) : OutOfRange .sides n (.polygonSidesOutOfRange n)

/-- Lets a number in range through. -/
def check : Parameter → Int32 → Except CommandError Int32
  | distance, n => Verb.checkDistance n
  | width, n => if 1 ≤ n ∧ n ≤ 10 then .ok n else .error (.penWidthOutOfRange n)
  | sides, n => Verb.checkSides n
  | number, n => .ok n

/-- Reads an argument of a verb. -/
def read (verb : String) (p : Parameter) (value : String) : Except CommandError Int32 :=
  match readInt32? value with
  | none => .error (.invalidParameter verb value)
  | some n => p.check n

variable {p : Parameter} {n m : Int32} {e : CommandError}

theorem check_cases (p : Parameter) (n : Int32) :
    p.Admits n ∧ p.check n = .ok n ∨ ∃ e, p.OutOfRange n e ∧ p.check n = .error e := by
  cases p with
  | distance =>
    by_cases h : 1 ≤ n ∧ n ≤ 200
    exacts [.inl ⟨h, if_pos h⟩, .inr ⟨_, .distance h, if_neg h⟩]
  | width =>
    by_cases h : 1 ≤ n ∧ n ≤ 10
    exacts [.inl ⟨h, if_pos h⟩, .inr ⟨_, .width h, if_neg h⟩]
  | sides =>
    by_cases h : 3 ≤ n ∧ n ≤ 12
    exacts [.inl ⟨h, if_pos h⟩, .inr ⟨_, .sides h, if_neg h⟩]
  | number => exact .inl ⟨trivial, rfl⟩

theorem OutOfRange.not_admits (h : p.OutOfRange n e) : ¬p.Admits n := by
  cases h <;> assumption

/-- A number out of range has one fault. -/
theorem OutOfRange.unique {e' : CommandError} (h : p.OutOfRange n e) (h' : p.OutOfRange n e') :
    e = e' := by
  cases h <;> cases h' <;> rfl

end Parameter

/-! ## Forms -/

/-- What is made of the values of parameters. -/
def Maker : List Parameter → Type
  | [] => Command
  | _ :: params => Int32 → Maker params

/-- A form of a verb: its parameters, and the command that it makes of their values. -/
structure Form where
  params : List Parameter
  make : Maker params

/-- The arguments are what the parameters ask for, and a command is made of their values. -/
inductive Takes : (params : List Parameter) → Maker params → List String → Command → Prop
  | done {c : Command} : Takes [] c [] c
  | next {p : Parameter} {params : List Parameter} {make : Maker (p :: params)} {value : String}
      {args : List String} {n : Int32} {c : Command} (hvalue : Spells value.toList n.toInt)
      (hrange : p.Admits n) (hargs : Takes params (make n) args c) :
      Takes (p :: params) make (value :: args) c

/-- The value of an argument is in the range of its parameter. -/
def Parameter.Accepts (p : Parameter) (value : String) : Prop :=
  ∃ n : Int32, Spells value.toList n.toInt ∧ p.Admits n

namespace Takes

variable {params : List Parameter} {make : Maker params} {args : List String} {c c' : Command}

theorem length_eq (h : Takes params make args c) : params.length = args.length := by
  induction h with
  | done => rfl
  | next _ _ _ ih => exact congrArg Nat.succ ih

theorem accepts (h : Takes params make args c) {i : Nat} {p : Parameter} {value : String}
    (hp : params[i]? = some p) (hvalue : args[i]? = some value) : p.Accepts value := by
  induction h generalizing i with
  | done => cases hp
  | next hread hrange _ ih =>
    cases i with
    | zero =>
      cases hp
      cases hvalue
      exact ⟨_, hread, hrange⟩
    | succ i => exact ih hp hvalue

/-- There is one command at most. -/
theorem unique (h : Takes params make args c) (h' : Takes params make args c') : c = c' := by
  induction h with
  | done => cases h'; rfl
  | next hread _ _ ih =>
    cases h' with
    | next hread' _ hargs' =>
      cases hread.unique hread'
      exact ih hargs'

end Takes

/-- The verbs with their forms. -/
def grammar : List (String × List Form) := [
  ("move", [⟨[.distance], fun d => Command.primitive (.move d)⟩]),
  ("reverse", [⟨[.distance], fun d => Command.primitive (.reverse d)⟩]),
  ("left", [⟨[], Command.primitive (.left 90)⟩,
    ⟨[.number], fun n => Command.primitive (.left n)⟩]),
  ("right", [⟨[], Command.primitive (.right 90)⟩,
    ⟨[.number], fun n => Command.primitive (.right n)⟩]),
  ("penup", [⟨[], Command.primitive .penUp⟩]),
  ("pendown", [⟨[], Command.primitive .penDown⟩]),
  ("red", [⟨[], Command.primitive (.color .red)⟩]),
  ("green", [⟨[], Command.primitive (.color .green)⟩]),
  ("pink", [⟨[], Command.primitive (.color .pink)⟩]),
  ("black", [⟨[], Command.primitive (.color .black)⟩]),
  ("pen", [⟨[.number, .number, .number], fun r g b => Command.primitive (.pen ⟨r, g, b⟩)⟩]),
  ("penwidth",
    [⟨[.width], fun n => Command.primitive (.penWidth (UInt8.ofNat n.toInt.toNat))⟩]),
  ("reset", [⟨[], Command.primitive .reset⟩]),
  ("square", [⟨[.distance], fun d => Command.shape (.square d)⟩]),
  ("triangle", [⟨[.distance], fun d => Command.shape (.triangle d)⟩,
    ⟨[.distance, .distance, .distance], fun a b c => Command.shape (.triangleSides a b c)⟩]),
  ("circle", [⟨[.distance], fun d => Command.shape (.circle d)⟩]),
  ("polygon", [⟨[.sides, .distance], fun n d => Command.shape (.polygon n d)⟩]),
  ("undo", [⟨[], Command.session .undo⟩]),
  ("redo", [⟨[], Command.session .redo⟩]),
  ("clear", [⟨[], Command.session .clear⟩]),
  ("savecmd", [⟨[], Command.session .saveCommands⟩]),
  ("loadcmd", [⟨[], Command.session .loadCommands⟩]),
  ("save_ig", [⟨[], Command.session .saveImage⟩]),
  ("load_ig", [⟨[], Command.session .loadImage⟩]),
  ("about", [⟨[], Command.session .about⟩]),
  ("help", [⟨[], Command.session .help⟩])]

namespace Statement

/-- The form that a statement follows, by the number of its arguments. -/
def form? (s : Statement) : Option Form :=
  (grammar.lookup s.verb).bind fun forms =>
    forms.find? fun form => form.params.length == s.args.length

/-- A statement of the grammar means a command. -/
def Means (s : Statement) (c : Command) : Prop :=
  ∃ form, s.form? = some form ∧ Takes form.params form.make s.args c

end Statement

/-! ## From left to right -/

namespace Form

/-- Reads arguments from left to right, and makes a command of their values. -/
def buildFrom (verb : String) : (params : List Parameter) → Maker params → List String →
    Except CommandError Command
  | [], c, _ => .ok c
  | _ :: _, _, [] => .error (.missingParameter verb)
  | p :: params, make, value :: args => do
    let n ← p.read verb value
    buildFrom verb params (make n) args

/-- The command of a form with given arguments. -/
def build (form : Form) (verb : String) (args : List String) : Except CommandError Command :=
  buildFrom verb form.params form.make args

end Form

/-- What is read makes the command of the form. -/
theorem Takes.of_buildFrom {verb : String} {params : List Parameter} {make : Maker params}
    {args : List String} {c : Command} (hlength : args.length = params.length)
    (h : Form.buildFrom verb params make args = .ok c) : Takes params make args c := by
  induction params generalizing args with
  | nil =>
    cases List.eq_nil_of_length_eq_zero hlength
    cases h
    exact .done
  | cons p params ih =>
    obtain ⟨value, args, rfl⟩ := List.exists_cons_of_length_eq_add_one hlength
    obtain ⟨n, hn, h⟩ := bind_eq_ok_iff.1 h
    rw [Parameter.read] at hn
    cases hread : readInt32? value with
    | none => rw [hread] at hn; cases hn
    | some m =>
      rw [hread] at hn
      rcases p.check_cases m with ⟨hrange, hcheck⟩ | ⟨e, -, hcheck⟩
      · cases hcheck.symm.trans hn
        exact .next (readInt32?_eq_some_iff.1 hread) hrange (ih (Nat.succ.inj hlength) h)
      · cases hcheck.symm.trans hn

/-- A fault is that of the first argument that has one. -/
theorem Form.exists_of_buildFrom_eq_error {verb : String} {params : List Parameter}
    {make : Maker params} {args : List String} {e : CommandError}
    (hlength : args.length = params.length) (h : buildFrom verb params make args = .error e) :
    ∃ (i : Nat) (p : Parameter) (value : String), params[i]? = some p ∧ args[i]? = some value ∧
      (∀ j < i, ∀ (q : Parameter) (other : String), params[j]? = some q →
        args[j]? = some other → q.Accepts other) ∧
      ((∀ n : Int32, ¬Spells value.toList n.toInt) ∧ e = .invalidParameter verb value ∨
        ∃ n : Int32, Spells value.toList n.toInt ∧ p.OutOfRange n e) := by
  induction params generalizing args with
  | nil => cases h
  | cons p params ih =>
    obtain ⟨value, args, rfl⟩ := List.exists_cons_of_length_eq_add_one hlength
    cases hread : readInt32? value with
    | none =>
      refine ⟨0, p, value, rfl, rfl, fun j hj => absurd hj (Nat.not_lt_zero j), .inl ?_⟩
      refine ⟨readInt32?_eq_none_iff.1 hread, ?_⟩
      rw [buildFrom, Parameter.read, hread] at h
      cases h
      rfl
    | some n =>
      have hvalue := readInt32?_eq_some_iff.1 hread
      rw [buildFrom, Parameter.read, hread] at h
      dsimp only at h
      rcases p.check_cases n with ⟨hrange, hcheck⟩ | ⟨e', hout, hcheck⟩
      · rw [hcheck] at h
        obtain ⟨i, q, other, hq, hother, hbefore, hfault⟩ := ih (Nat.succ.inj hlength) h
        refine ⟨i + 1, q, other, hq, hother, fun j hj r word hr hword => ?_, hfault⟩
        cases j with
        | zero =>
          cases hr
          cases hword
          exact ⟨n, hvalue, hrange⟩
        | succ j => exact hbefore j (Nat.lt_of_succ_lt_succ hj) r word hr hword
      · rw [hcheck] at h
        cases h
        exact ⟨0, p, value, rfl, rfl, fun j hj => absurd hj (Nat.not_lt_zero j),
          .inr ⟨n, hvalue, hout⟩⟩

/-! ## The table of verbs -/

namespace Verb

/-- A verb builds the command of a form from as many arguments as the form has. -/
def Builds (verb : Verb) (form : Form) : Prop :=
  ∀ args : List String, args.length = form.params.length →
    verb.build args = form.build verb.name args

theorem wholeNumber_eq_read (verb : String) {args : List String} {i : Nat} (value : String)
    (h : args[i]? = some value) : wholeNumber verb args i = Parameter.read verb .number value := by
  rw [wholeNumber, h]
  rfl

theorem distance_eq_read (verb : String) {args : List String} {i : Nat} (value : String)
    (h : args[i]? = some value) : distance verb args i = Parameter.read verb .distance value := by
  rw [distance, wholeNumber_eq_read verb value h, Parameter.read, Parameter.read]
  cases readInt32? value <;> rfl

section Families

variable (name usage summary : String) (minArgs : Nat)

theorem builds_plain (c : Command) : (plain name summary c).Builds ⟨[], c⟩ :=
  fun _ _ => rfl

theorem builds_ofDistance (make : Int32 → Command) :
    Builds ⟨name, minArgs, usage, summary, ofDistance name make⟩ ⟨[.distance], make⟩ := by
  intro args hargs
  obtain ⟨value, rfl⟩ := List.length_eq_one_iff.1 hargs
  show ofDistance name make [value] = _
  rw [ofDistance, distance_eq_read name value rfl, map_eq_pure_bind]
  rfl

theorem builds_ofDegrees_nil (make : Int32 → Primitive) :
    Builds ⟨name, minArgs, usage, summary, ofDegrees name make⟩
      ⟨[], Command.primitive (make 90)⟩ := by
  intro args hargs
  rw [List.eq_nil_of_length_eq_zero hargs]
  rfl

theorem builds_ofDegrees (make : Int32 → Primitive) :
    Builds ⟨name, minArgs, usage, summary, ofDegrees name make⟩
      ⟨[.number], fun n => Command.primitive (make n)⟩ := by
  intro args hargs
  obtain ⟨value, rfl⟩ := List.length_eq_one_iff.1 hargs
  show _ <$> wholeNumber name [value] 0 = _
  rw [wholeNumber_eq_read name value rfl, map_eq_pure_bind]
  rfl

theorem builds_buildPen : Builds ⟨"pen", minArgs, usage, summary, buildPen⟩
    ⟨[.number, .number, .number], fun r g b => Command.primitive (.pen ⟨r, g, b⟩)⟩ := by
  intro args hargs
  obtain ⟨r, g, b, rfl⟩ := List.length_eq_three.1 hargs
  show buildPen [r, g, b] = _
  rw [buildPen, wholeNumber_eq_read "pen" r rfl,
    wholeNumber_eq_read "pen" g rfl, wholeNumber_eq_read "pen" b rfl]
  rfl

theorem builds_buildPenWidth : Builds ⟨"penwidth", minArgs, usage, summary, buildPenWidth⟩
    ⟨[.width], fun n => Command.primitive (.penWidth (UInt8.ofNat n.toInt.toNat))⟩ := by
  intro args hargs
  obtain ⟨value, rfl⟩ := List.length_eq_one_iff.1 hargs
  show buildPenWidth [value] = Parameter.read "penwidth" .width value >>= fun n =>
    .ok (Command.primitive (.penWidth (UInt8.ofNat n.toInt.toNat)))
  rw [buildPenWidth, wholeNumber_eq_read "penwidth" value rfl, Parameter.read,
    Parameter.read]
  cases readInt32? value with
  | none => rfl
  | some n =>
    show (checkWidth n >>= fun w => .ok (Command.primitive (.penWidth w))) =
      (if 1 ≤ n ∧ n ≤ 10 then .ok n else .error (.penWidthOutOfRange n)) >>= fun n =>
        .ok (Command.primitive (.penWidth (UInt8.ofNat n.toInt.toNat)))
    rw [checkWidth]
    split <;> rfl

theorem builds_buildTriangle_one : Builds ⟨"triangle", minArgs, usage, summary, buildTriangle⟩
    ⟨[.distance], fun d => Command.shape (.triangle d)⟩ := by
  intro args hargs
  obtain ⟨value, rfl⟩ := List.length_eq_one_iff.1 hargs
  show (distance "triangle" [value] 0 >>= fun d =>
    .ok (Command.shape (.triangle d))) = _
  rw [distance_eq_read "triangle" value rfl]
  rfl

theorem builds_buildTriangle_three : Builds ⟨"triangle", minArgs, usage, summary, buildTriangle⟩
    ⟨[.distance, .distance, .distance],
      fun a b c => Command.shape (.triangleSides a b c)⟩ := by
  intro args hargs
  obtain ⟨a, b, c, rfl⟩ := List.length_eq_three.1 hargs
  show (distance "triangle" [a, b, c] 0 >>= fun x => distance "triangle" [a, b, c] 1 >>= fun y =>
    distance "triangle" [a, b, c] 2 >>= fun z => .ok (Command.shape (.triangleSides x y z))) = _
  rw [distance_eq_read "triangle" a rfl, distance_eq_read "triangle" b rfl,
    distance_eq_read "triangle" c rfl]
  rfl

end Families

/-! ### Usage -/

/-- The arguments in the usage of a verb, for every way in which it can be used. -/
def alternatives (verb : Verb) : List (List (List Char)) :=
  ((Text.words verb.usage.toList).drop 1).splitOn ['|']

/-- An argument in angle brackets has to be given; one in square brackets may be left out. -/
def isRequired (argument : List Char) : Bool :=
  argument.head? == some '<'

/-- A number of arguments that the usage of a verb shows. -/
def Shows (verb : Verb) (n : Nat) : Prop :=
  ∃ alternative ∈ verb.alternatives, alternative.countP isRequired ≤ n ∧ n ≤ alternative.length

instance (verb : Verb) (n : Nat) : Decidable (verb.Shows n) :=
  inferInstanceAs (Decidable (∃ alternative ∈ verb.alternatives, _))

/-- The greatest number of arguments that the usage of a verb shows. -/
def mostArgs (verb : Verb) : Nat :=
  (verb.alternatives.map List.length).foldr max 0

theorem Shows.le_mostArgs {verb : Verb} {n : Nat} (h : verb.Shows n) : n ≤ verb.mostArgs := by
  have hmax {ns : List Nat} {m : Nat} (hm : m ∈ ns) : m ≤ ns.foldr max 0 := by
    induction ns with
    | nil => exact absurd hm List.not_mem_nil
    | cons k ns ih =>
      rcases List.mem_cons.1 hm with rfl | hm
      exacts [Nat.le_max_left _ _, (ih hm).trans (Nat.le_max_right _ _)]
  obtain ⟨alternative, hmem, -, hle⟩ := h
  exact hle.trans (hmax (List.mem_map_of_mem hmem))

/-! ### Row by row -/

/-- The numbers of arguments of a verb are those that its usage shows. Only the table needs to be
    looked at to see it. -/
structure Counts (verb : Verb) (counts : List Nat) : Prop where
  shows_iff : ∀ n < verb.mostArgs + 1, verb.Shows n ↔ n ∈ counts
  between : ∀ n ∈ counts, verb.minArgs ≤ n ∧ n ≤ verb.mostArgs
  minArgs_mem : verb.minArgs ∈ counts
  /-- Only a triangle has a gap in the numbers of its arguments. -/
  gap : verb.name ≠ "triangle" → ∀ n < verb.mostArgs + 1, verb.minArgs ≤ n → n ∈ counts

instance (verb : Verb) (counts : List Nat) : Decidable (verb.Counts counts) :=
  decidable_of_iff ((∀ n < verb.mostArgs + 1, verb.Shows n ↔ n ∈ counts) ∧
      (∀ n ∈ counts, verb.minArgs ≤ n ∧ n ≤ verb.mostArgs) ∧ verb.minArgs ∈ counts ∧
      (verb.name ≠ "triangle" → ∀ n < verb.mostArgs + 1, verb.minArgs ≤ n → n ∈ counts))
    ⟨fun ⟨h₁, h₂, h₃, h₄⟩ => ⟨h₁, h₂, h₃, h₄⟩, fun ⟨h₁, h₂, h₃, h₄⟩ => ⟨h₁, h₂, h₃, h₄⟩⟩

/-- Forms describe a verb of the table. -/
structure Fits (verb : Verb) (forms : List Form) : Prop where
  counts : verb.Counts (forms.map fun form => form.params.length)
  builds : verb.name ≠ "polygon" → ∀ form ∈ forms, verb.Builds form

theorem Fits.one {verb : Verb} {form : Form} (hcounts : verb.Counts [form.params.length])
    (h : verb.Builds form) : verb.Fits [form] :=
  ⟨hcounts, fun _ => List.forall_mem_cons.2 ⟨h, List.forall_mem_nil _⟩⟩

theorem Fits.two {verb : Verb} {form form' : Form}
    (hcounts : verb.Counts [form.params.length, form'.params.length]) (h : verb.Builds form)
    (h' : verb.Builds form') : verb.Fits [form, form'] :=
  ⟨hcounts, fun _ => List.forall_mem_cons.2
    ⟨h, List.forall_mem_cons.2 ⟨h', List.forall_mem_nil _⟩⟩⟩

/-- A verb asks for more arguments than there are if every form of it has more. -/
theorem Fits.lt_minArgs_iff {verb : Verb} {forms : List Form} (h : verb.Fits forms) {n : Nat} :
    n < verb.minArgs ↔ ∀ form ∈ forms, n < form.params.length := by
  refine ⟨fun hn form hform => ?_, fun hn => ?_⟩
  · exact hn.trans_le (h.counts.between _ (List.mem_map_of_mem hform)).1
  · obtain ⟨form, hform, hmin⟩ := List.mem_map.1 h.counts.minArgs_mem
    exact hmin ▸ hn form hform

/-- The grammar describes the verbs of the table, in their order. -/
theorem fits_grammar :
    List.Forall₂ (fun verb entry => verb.name = entry.1 ∧ verb.Fits entry.2) table grammar :=
  .cons ⟨rfl, .one (by decide) (builds_ofDistance _ _ _ _ _)⟩ <|
  .cons ⟨rfl, .one (by decide) (builds_ofDistance _ _ _ _ _)⟩ <|
  .cons ⟨rfl, .two (by decide) (builds_ofDegrees_nil _ _ _ _ _) (builds_ofDegrees _ _ _ _ _)⟩ <|
  .cons ⟨rfl, .two (by decide) (builds_ofDegrees_nil _ _ _ _ _) (builds_ofDegrees _ _ _ _ _)⟩ <|
  .cons ⟨rfl, .one (by decide) (builds_plain _ _ _)⟩ <|
  .cons ⟨rfl, .one (by decide) (builds_plain _ _ _)⟩ <|
  .cons ⟨rfl, .one (by decide) (builds_plain _ _ _)⟩ <|
  .cons ⟨rfl, .one (by decide) (builds_plain _ _ _)⟩ <|
  .cons ⟨rfl, .one (by decide) (builds_plain _ _ _)⟩ <|
  .cons ⟨rfl, .one (by decide) (builds_plain _ _ _)⟩ <|
  .cons ⟨rfl, .one (by decide) (builds_buildPen _ _ _)⟩ <|
  .cons ⟨rfl, .one (by decide) (builds_buildPenWidth _ _ _)⟩ <|
  .cons ⟨rfl, .one (by decide) (builds_plain _ _ _)⟩ <|
  .cons ⟨rfl, .one (by decide) (builds_ofDistance _ _ _ _ _)⟩ <|
  .cons ⟨rfl, .two (by decide) (builds_buildTriangle_one _ _ _)
    (builds_buildTriangle_three _ _ _)⟩ <|
  .cons ⟨rfl, .one (by decide) (builds_ofDistance _ _ _ _ _)⟩ <|
  .cons ⟨rfl, by decide, fun h => absurd rfl h⟩ <|
  .cons ⟨rfl, .one (by decide) (builds_plain _ _ _)⟩ <|
  .cons ⟨rfl, .one (by decide) (builds_plain _ _ _)⟩ <|
  .cons ⟨rfl, .one (by decide) (builds_plain _ _ _)⟩ <|
  .cons ⟨rfl, .one (by decide) (builds_plain _ _ _)⟩ <|
  .cons ⟨rfl, .one (by decide) (builds_plain _ _ _)⟩ <|
  .cons ⟨rfl, .one (by decide) (builds_plain _ _ _)⟩ <|
  .cons ⟨rfl, .one (by decide) (builds_plain _ _ _)⟩ <|
  .cons ⟨rfl, .one (by decide) (builds_plain _ _ _)⟩ <|
  .cons ⟨rfl, .one (by decide) (builds_plain _ _ _)⟩ .nil

/-- A name is found in the table just when it is found in the grammar. -/
theorem find?_cases (name : String) :
    find? name = none ∧ grammar.lookup name = none ∨
      ∃ verb forms, find? name = some verb ∧ grammar.lookup name = some forms ∧
        verb.name = name ∧ verb.Fits forms := by
  have h := fits_grammar
  rw [find?]
  revert h
  generalize table = verbs, grammar = entries
  intro h
  induction h with
  | nil => exact .inl ⟨rfl, rfl⟩
  | @cons verb entry verbs entries h _ ih =>
    obtain ⟨hname, hfits⟩ := h
    rw [List.find?_cons, List.lookup_cons]
    by_cases heq : verb.name = name
    · right
      rw [beq_iff_eq.2 heq, ← hname, heq, beq_self_eq_true]
      exact ⟨verb, entry.2, rfl, rfl, heq, hfits⟩
    · rw [beq_false_of_ne heq, ← hname, beq_false_of_ne (Ne.symm heq)]
      exact ih

/-- A verb that is found has the forms of its name in the grammar. -/
theorem exists_fits {name : String} {verb : Verb} (h : find? name = some verb) :
    ∃ forms, grammar.lookup name = some forms ∧ verb.name = name ∧ verb.Fits forms := by
  rcases find?_cases name with ⟨hnone, -⟩ | ⟨verb', forms, hfind, hlookup, hname, hfits⟩
  · cases hnone.symm.trans h
  · cases h.symm.trans hfind
    exact ⟨forms, hlookup, hname, hfits⟩

end Verb

end Turtle

import Turtle.Binary64.Scalar
import Turtle.Console
import Turtle.Proofs.Script.Written
import Turtle.Proofs.Session.Moment
import Turtle.Proofs.Session.Range
import Turtle.Proofs.Settings

/-!
# What is logged is valid, and nothing overflows

The primitives on the timeline of a session are those that a statement can stand for: their texts
are read back as valid statements of just these primitives. So the numbers that the session
calculates with are in range, wherever they came from, and the two calculations that could go wrong
do not: a distance is negated to be gone backwards, and a full turn is divided by the sides of a
polygon.

* `Primitive.readsBack_iff`: the text of a primitive stands for it just when it is in range;
* `Session.execute?` does what a command asks for and stops where a calculation goes wrong;
  `Session.execute?_eq`: in a sound session it never stops.
-/

namespace Turtle

/-! ## Primitives -/

namespace Primitive

/-- The text of a primitive is one valid statement, and stands for the primitive. -/
def ReadsBack (p : Primitive) : Prop :=
  ∃ statement c, Statement.readAll p.text = [statement] ∧ statement.validate = .ok c ∧
    c.canonical? = some p

/-- What a command is logged as is in range if the command is. -/
theorem inRange_of_canonical? {c : Command} {p : Primitive} (hc : c.InRange)
    (h : c.canonical? = some p) : p.InRange := by
  unfold Command.canonical? at h
  split at h
  · exact Option.some.inj h ▸ hc
  · exact Option.some.inj h ▸ hc
  · cases h
  · cases h

/-- The text of a primitive stands for it just when the numbers of the primitive are in range. -/
theorem readsBack_iff (p : Primitive) : p.ReadsBack ↔ p.InRange := by
  constructor
  · rintro ⟨statement, c, -, hvalid, hcanonical⟩
    exact inRange_of_canonical? (Statement.inRange_of_validate hvalid) hcanonical
  · intro h
    obtain ⟨c, hvalid, hcanonical⟩ := exists_validate h
    have hread : Statement.readAll p.text = [p.statement] := by
      rw [Statement.readAll, toList_text]
      exact Statement.ofLine_written p.isPlain_statement
    exact ⟨p.statement, c, hread, hvalid, hcanonical⟩

/-- The distance that is gone backwards can be negated in 32 bits. -/
def Fits : Primitive → Prop
  | reverse d => (-d).toInt = -d.toInt
  | move _ | left _ | right _ | penUp | penDown | color _ | pen _ | penWidth _ | circle _ | reset =>
    True

instance : DecidablePred Fits
  | reverse d => inferInstanceAs (Decidable ((-d).toInt = -d.toInt))
  | move _ | left _ | right _ | penUp | penDown | color _ | pen _ | penWidth _ | circle _ | reset =>
    .isTrue trivial

theorem InRange.fits {p : Primitive} (h : p.InRange) : p.Fits := by
  cases p with
  | reverse d =>
    obtain ⟨hlo, hhi⟩ := h
    rw [Int32.le_iff_toInt_le] at hlo hhi
    have hlo : 1 ≤ d.toInt := hlo
    have hhi : d.toInt ≤ 200 := hhi
    rw [Fits, Int32.toInt_neg, Int.bmod_eq_of_le (by omega) (by omega)]
  | _ => trivial

end Primitive

/-- A polygon in range has a turn at its corners. -/
theorem Shape.exteriorAngle?_ne_none {sides length : Int32}
    (h : (polygon sides length).InRange) : exteriorAngle? sides ≠ none := by
  intro hnone
  obtain ⟨body, hbody, -⟩ := Shape.exists_body? h
  rw [body?, hnone] at hbody
  cases hbody

namespace Session

variable {R H : Type} [Scalar R] [Host H]

/-! ## Calculations that may go wrong -/

/-- Does one primitive, if its distance fits. -/
def run? (s : Session R H) (p : Primitive) : Option (Session R H) :=
  if p.Fits then some (s.run p) else none

/-- Does several primitives, if all distances fit. -/
def runAll? (s : Session R H) (ps : List Primitive) : Option (Session R H) :=
  ps.foldlM run? s

/-- Draws primitives for a statement, if all distances fit. -/
def draw? (s : Session R H) (ps : List Primitive) : Option (Outcome × Session R H) :=
  (s.runAll? ps).map fun s => (.drawn ps.length, { s with dirty := true })

/-- Takes back the last primitive, if the distances of the others fit. -/
def undo? (s : Session R H) : Option (Outcome × Session R H) :=
  match s.timeline.beginUndo? with
  | none => some (.noOp, s)
  | some (rest, timeline) =>
    let s := { s with timeline := timeline }.record (.undo rest.length)
    (s.restart.runAll? rest).map fun s => (.undone, s.endReplay)

/-- Does the primitive again that was taken back last, if its distance fits. -/
def redo? (s : Session R H) : Option (Outcome × Session R H) :=
  match s.timeline.beginRedo? with
  | none => some (.noOp, s)
  | some (p, timeline) =>
    let s := { s with timeline := timeline }.record (.redo p)
    (s.run? p).map fun s => (.redone, s.endReplay)

/-- Does what a command asks for, unless a distance does not fit or a turn is to be divided by
    zero. -/
def execute? (load : Session R H → Outcome × Session R H) (s : Session R H) :
    Command → Option (Outcome × Session R H)
  | .primitive p => s.draw? [p]
  | .shape shape => (shape.expand? s.pen).bind s.draw?
  | .session .undo => s.undo?
  | .session .redo => s.redo?
  | .session request => some (s.request load request)

theorem runAll?_eq (s : Session R H) {ps : List Primitive} (h : ∀ p ∈ ps, p.InRange) :
    s.runAll? ps = some (s.runAll ps) := by
  induction ps generalizing s with
  | nil => rfl
  | cons p ps ih =>
    have hfits : s.run? p = some (s.run p) := if_pos (h p List.mem_cons_self).fits
    rw [runAll?, List.foldlM_cons, hfits]
    exact ih (s.run p) fun q hq => h q (List.mem_cons_of_mem _ hq)

theorem draw?_eq (s : Session R H) {ps : List Primitive} (h : ∀ p ∈ ps, p.InRange) :
    s.draw? ps = some (s.draw ps) := by
  rw [draw?, s.runAll?_eq h]
  rfl

theorem undo?_eq {s : Session R H} (hs : s.Sound) : s.undo? = some s.undo := by
  rw [undo?, undo, Timeline.beginUndo?]
  cases h : s.timeline.past with
  | nil => rfl
  | cons p past =>
    have hpast (q : Primitive) (hq : q ∈ past.reverse) : q.InRange :=
      hs.line q (Timeline.mem_line.2 (.inl (h ▸ List.mem_cons_of_mem _ (List.mem_reverse.1 hq))))
    dsimp only
    rw [runAll?_eq _ hpast]
    rfl

theorem redo?_eq {s : Session R H} (hs : s.Sound) : s.redo? = some s.redo := by
  rw [redo?, redo, Timeline.beginRedo?]
  cases h : s.timeline.future with
  | nil => rfl
  | cons p future =>
    have hp : p.InRange := hs.line p (Timeline.mem_line.2 (.inr (h ▸ List.mem_cons_self)))
    dsimp only
    rw [run?, if_pos hp.fits]
    rfl

/-- In a sound session a command in range is done to its end. -/
theorem execute?_eq {s : Session R H} (hs : s.Sound) {c : Command} (hc : c.InRange)
    (load : Session R H → Outcome × Session R H) : s.execute? load c = some (s.execute load c) := by
  cases c with
  | primitive p => exact s.draw?_eq fun q hq => List.mem_singleton.1 hq ▸ hc
  | shape shape =>
    obtain ⟨ps, hps⟩ | ⟨_, h⟩ := Command.exists_primitives? (c := .shape shape) hc s.pen
    · have hin (p : Primitive) (hp : p ∈ ps) : p.InRange :=
        Command.inRange_of_mem_primitives? hc hs.pen hps hp
      have hexpand : shape.expand? s.pen = some ps := hps
      rw [execute?, execute, hexpand]
      exact s.draw?_eq hin
    · cases h
  | session request =>
    cases request with
    | undo => exact undo?_eq hs
    | redo => exact redo?_eq hs
    | _ => rfl

/-! ## Whole runs -/

/-- The command of a turn is in range. -/
theorem IsTurn.inRange {turn : Turn R H} (h : IsTurn turn) {c : Command}
    (hc : turn.command = some c) : c.InRange := by
  cases h with
  | inScript | alone | loaded => exact inRange_of_commandOf hc
  | undo | redo | clear =>
    cases hc
    trivial

/-- No change draws a shape without sides. -/
theorem Change.ne_faulted {s t : Session R H} {c : Option Command} {o : Outcome}
    (h : s.Change c o t) : o ≠ .faulted := by
  rintro rfl
  cases h with
  | @kept request _ hkeeps _ => cases request <;> exact hkeeps

/-- Only valid primitives are ever logged, and no calculation goes wrong. However a session with
    settings that were read goes on, at every moment the text of each primitive of the log, and of
    those that can be redone, stands for just that primitive; its numbers are in range, and so is
    the width of the pen. Every turn does what its command asks for with all calculations
    checked. -/
theorem logged_primitives_are_valid {text : String} {settings : Settings}
    (h : Settings.read text = .ok settings) (w : World H) (ops : List (Operation H)) :
    let fresh : Session R H := ofSettings settings w
    (∀ (turns : List (Turn R H)) (s : Session R H), fresh.Moment ops turns s →
      IsPenWidth s.pen.width ∧ ∀ p ∈ s.timeline.line, p.ReadsBack ∧ p.InRange ∧ p.Fits) ∧
    ∀ turn ∈ fresh.history ops, turn.outcome ≠ .faulted ∧
      (∀ sides length, turn.command = some (.shape (.polygon sides length)) →
        exteriorAngle? sides ≠ none) ∧
      ∀ c, turn.command = some c → c ≠ .session .loadCommands → ∀ load,
        turn.before.execute? load c = some (turn.outcome, turn.after) := by
  intro fresh
  have hfresh : fresh.Sound := sound_ofSettings (Settings.isPenWidth_of_read h) w
  constructor
  · intro turns s hmoment
    obtain ⟨hs, -⟩ := hmoment.run.sound hfresh
    refine ⟨hs.pen, fun p hp => ?_⟩
    have hin := hs.line p hp
    exact ⟨p.readsBack_iff.2 hin, hin, hin.fits⟩
  · intro turn hmem
    have hturn := isTurn_of_mem_history hmem
    obtain ⟨-, hturns⟩ := (fresh.run_history ops).sound hfresh
    refine ⟨((fresh.run_history ops).change_of_mem hmem).ne_faulted,
      fun sides length hc => Shape.exteriorAngle?_ne_none (hturn.inRange hc),
      fun c hc hload load => ?_⟩
    rw [execute?_eq (hturns turn hmem).1 (hturn.inRange hc), does_of_mem_history hmem c hc hload]

/-- A pentagon, undone twice and redone once, then a script that is refused a distance. -/
theorem logged_primitives_are_valid_pentagon :
    let text := "pen_width: 3\n"
    let w : World Console := ⟨⟨[], "", false⟩, ⟨[], [], []⟩, Journal.silent⟩
    ∃ settings, Settings.read text = .ok settings ∧
      let fresh : Session Float Console := ofSettings settings w
      let ops : List (Operation Console) :=
        [.line "polygon 5 20; reverse 7; undo; undo; redo", .script "reverse 9\nmove 201\n"]
      let s := fresh.performAll ops
      s.timeline.line.length = 14 ∧ .reverse 9 ∈ s.timeline.line ∧ IsPenWidth s.pen.width ∧
        (∀ p ∈ s.timeline.line, p.ReadsBack ∧ p.InRange ∧ p.Fits) ∧
        ∀ turn ∈ fresh.history ops, turn.outcome ≠ .faulted := by
  intro text w
  let settings : Settings := { Settings.standard with pen := { Pen.standard with width := 3 } }
  have hread : Settings.read text = .ok settings := by decide +kernel
  refine ⟨settings, hread, ?_⟩
  intro fresh ops s
  obtain ⟨hmoment, hturns⟩ := logged_primitives_are_valid (R := Float) hread w ops
  obtain ⟨hpen, hline⟩ := hmoment (fresh.history ops) s .last
  exact ⟨by decide +kernel, by decide +kernel, hpen, hline, fun turn hmem => (hturns turn hmem).1⟩

end Session

end Turtle

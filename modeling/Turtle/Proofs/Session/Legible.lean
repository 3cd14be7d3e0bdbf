import Turtle.Proofs.Session.CommandFile

/-!
# Logs that can be read again

A session may begin with any pen, also with one whose width no verb accepts. Then a shape notes
down that width, and the command file of the log has a line that is refused. Nothing is lost with
it: until the width is set to a valid one, the pen of a session that reads the file has that width
anyway.

* `Primitive.Legible` says that the line of a primitive does what the primitive does, or that there
  is nothing to do;
* `Session.Legible` is the invariant, and `Session.Change.legible` its step;
* `Session.exists_runScript_of_legible`: a legible log that is read draws what the log draws.
-/

namespace Turtle

/-- The line of a primitive in a command file can be done with without loss when the pen is such:
    its numbers are in range, or it sets the width that the pen has. -/
def Primitive.Legible (pen : Pen) (p : Primitive) : Prop :=
  p.InRange ∨ p = .penWidth pen.width

namespace Pen

/-- Every one of several primitives is legible with the pen that those before it leave. -/
def Reads : Pen → List Primitive → Prop
  | _, [] => True
  | pen, p :: ps => p.Legible pen ∧ (pen.apply p).Reads ps

theorem reads_append {pen : Pen} {ps qs : List Primitive} :
    pen.Reads (ps ++ qs) ↔ pen.Reads ps ∧ (ps.foldl apply pen).Reads qs := by
  induction ps generalizing pen with
  | nil => simp only [List.nil_append, Reads, true_and, List.foldl_nil]
  | cons p ps ih => rw [List.cons_append, Reads, Reads, ih, and_assoc, List.foldl_cons]

theorem reads_of_inRange {pen : Pen} {ps : List Primitive} (h : ∀ p ∈ ps, p.InRange) :
    pen.Reads ps := by
  induction ps generalizing pen with
  | nil => trivial
  | cons p ps ih =>
    exact ⟨.inl (h p List.mem_cons_self), ih fun q hq => h q (List.mem_cons_of_mem _ hq)⟩

/-- Its own snapshot a pen can read, whatever its width. -/
theorem reads_snapshot (pen : Pen) : pen.Reads pen.snapshot := by
  refine ⟨.inl trivial, .inr rfl, .inl ?_, trivial⟩
  split <;> trivial

/-- What a command in range draws with a pen can be read with it. -/
theorem reads_primitives? {pen : Pen} {c : Command} (h : c.InRange) {ps : List Primitive}
    (hps : c.primitives? pen = some ps) : pen.Reads ps := by
  cases c with
  | primitive p =>
    cases hps
    exact ⟨.inl h, trivial⟩
  | shape s =>
    obtain ⟨body, hbody, hin⟩ := Shape.exists_body? h
    rw [Command.primitives?, Shape.expand?, hbody, Option.map_some, Option.some.injEq] at hps
    subst hps
    exact reads_append.2 ⟨pen.reads_snapshot, reads_of_inRange hin⟩
  | session request => cases hps

end Pen

/-- Only a valid pen width is accepted. -/
theorem Verb.exists_checkWidth_eq_error {w : UInt8} (h : ¬ IsPenWidth w) :
    ∃ e, checkWidth (Int32.ofInt w.toNat) = .error e := by
  have hlt := w.toNat_lt
  have hint : (Int32.ofInt w.toNat).toInt = w.toNat :=
    Int32.toInt_ofInt_of_le (by omega) (by omega)
  rw [checkWidth, if_neg]
  · exact ⟨_, rfl⟩
  · rintro ⟨hlo, hhi⟩
    rw [Int32.le_iff_toInt_le, hint] at hlo hhi
    have hlo : (1 : Int) ≤ w.toNat := hlo
    have hhi : (w.toNat : Int) ≤ 10 := hhi
    refine h ⟨UInt8.le_iff_toNat_le.2 ?_, UInt8.le_iff_toNat_le.2 ?_⟩
    · show 1 ≤ w.toNat
      omega
    · show w.toNat ≤ 10
      omega

/-- The statement of a pen width that is not valid is refused. -/
theorem Primitive.exists_validate_eq_error {w : UInt8} (h : ¬ IsPenWidth w) :
    ∃ e, (penWidth w).statement.validate = .error e := by
  obtain ⟨e, he⟩ := Verb.exists_checkWidth_eq_error h
  have hread : Verb.wholeNumber "penwidth" [writeUInt8 w] 0 = .ok (Int32.ofInt w.toNat) :=
    Verb.wholeNumber_of_read "penwidth" rfl (readInt32?_writeUInt8 w)
  have hbuild : (penWidth w).statement.validate = Verb.buildPenWidth [writeUInt8 w] := rfl
  refine ⟨e, ?_⟩
  rw [hbuild, Verb.buildPenWidth, hread]
  show (do let width ← Verb.checkWidth (Int32.ofInt w.toNat); return _) = _
  rw [he]
  rfl

namespace Session

variable {R H : Type}

/-- The pen is the one that the log leaves, and everything on the timeline can be read with the
    pens that there were. -/
structure Legible (s : Session R H) : Prop where
  idle : s.timeline.replaying = false
  pen : s.pen = s.timeline.entries.foldl Pen.apply s.defaults
  line : s.defaults.Reads s.timeline.line

theorem Legible.entries {s : Session R H} (h : s.Legible) :
    s.defaults.Reads s.timeline.entries :=
  (Pen.reads_append.1 h.line).1

variable [Scalar R] [Host H]

/-- Every change leaves a legible session legible. -/
theorem Change.legible {s t : Session R H} {c : Option Command} {o : Outcome}
    (h : s.Change c o t) (hs : s.Legible) : t.Legible := by
  have hidle := (h.step hs.idle).2
  cases h with
  | refused | nothingUndone | nothingRedone | declined | saved | imported | kept =>
    exact ⟨hs.idle, hs.pen, hs.line⟩
  | @drawn c ps hc hps w =>
    refine ⟨hidle, ?_, ?_⟩
    · show _ = (ps.foldl Timeline.push s.timeline).entries.foldl Pen.apply s.defaults
      rw [entries_foldl_push, List.foldl_append, ← hs.pen]
    · show s.defaults.Reads ((ps.foldl Timeline.push s.timeline).entries ++
        (ps.foldl Timeline.push s.timeline).future)
      have hread : s.defaults.Reads (s.timeline.entries ++ ps) :=
        Pen.reads_append.2 ⟨hs.entries, hs.pen ▸ Pen.reads_primitives? hc hps⟩
      rw [entries_foldl_push, Timeline.foldl_push_of_not_replaying hs.idle]
      -- Nothing can be redone behind what was drawn, unless nothing was drawn.
      dsimp only
      split
      · next hnil =>
        rw [hnil, List.append_nil]
        exact hs.line
      · rwa [List.append_nil]
  | @undone p past h w =>
    have hline : Timeline.line ⟨past, p :: s.timeline.future, false⟩ = s.timeline.line :=
      congrArg Reel.line (Timeline.reel_back h)
    refine ⟨rfl, rfl, ?_⟩
    dsimp only
    rw [hline]
    exact hs.line
  | @redone p future h w =>
    have hline : Timeline.line ⟨p :: s.timeline.past, future, false⟩ = s.timeline.line :=
      congrArg Reel.line (Timeline.reel_forth h)
    refine ⟨rfl, ?_, ?_⟩
    · show s.pen.apply p = (p :: s.timeline.past).reverse.foldl Pen.apply s.defaults
      rw [List.reverse_cons, List.foldl_append, hs.pen]
      rfl
    · dsimp only
      rw [hline]
      exact hs.line
  | cleared => exact ⟨rfl, rfl, trivial⟩

theorem Run.legible {s t : Session R H} {turns : List (Turn R H)} (run : Run s turns t)
    (hs : s.Legible) : t.Legible :=
  (run.preserves Legible (fun ⟨_, _, halike⟩ hs => halike ▸ ⟨hs.idle, hs.pen, hs.line⟩)
    Change.legible hs).1

omit [Scalar R] [Host H] in
theorem legible_ofSettings [Scalar R] (settings : Settings) (w : World H) :
    (ofSettings settings w : Session R H).Legible := ⟨rfl, rfl, trivial⟩

/-! ## Reading -/

/-- A line of a command file does to the drawing what its primitive does. -/
theorem exists_stepInScript_of_legible {s : Session R H} (h : s.loading = true) {p : Primitive}
    (hp : p.Legible s.pen) (line : ScriptLine) :
    ∃ timeline dirty w, s.stepInScript (line, p.statement) = { s with
      canvas := s.canvas.apply (s.pen.apply p) p
      pen := s.pen.apply p
      timeline := timeline
      dirty := dirty
      world := w } := by
  by_cases hin : p.InRange
  · exact ⟨_, true, _, stepInScript_statement h hin line⟩
  · -- The line is refused, and would have set the width that the pen has.
    obtain rfl := hp.resolve_left hin
    obtain ⟨e, he⟩ := Primitive.exists_validate_eq_error hin
    have hrefused : s.commandOf (Primitive.penWidth s.pen.width).statement (.line line.number) =
        none := by
      rw [commandOf, he]
      rfl
    obtain ⟨e', -, hobey⟩ := obeyWith_of_commandOf_eq_none (fun s => (.cancelled, s)) hrefused
    rw [stepInScript, obeyInScript, hobey]
    exact ⟨s.timeline, s.dirty, _, rfl⟩

/-- The lines of a command file do to the drawing what their primitives do. -/
theorem exists_foldl_stepInScript_of_legible {s : Session R H} (h : s.loading = true)
    {lines : List (ScriptLine × Primitive)} (hlines : s.pen.Reads (lines.map Prod.snd)) :
    ∃ timeline dirty w, (lines.map fun x => (x.1, x.2.statement)).foldl stepInScript s = { s with
      canvas := s.canvas.applyAll s.pen (lines.map Prod.snd)
      pen := (lines.map Prod.snd).foldl Pen.apply s.pen
      timeline := timeline
      dirty := dirty
      world := w } := by
  induction lines generalizing s with
  | nil => exact ⟨s.timeline, s.dirty, s.world, rfl⟩
  | cons x lines ih =>
    obtain ⟨hx, hlines⟩ := hlines
    obtain ⟨timeline, dirty, w, hstep⟩ := exists_stepInScript_of_legible h hx x.1
    rw [List.map_cons, List.foldl_cons, hstep]
    exact ih h hlines

/-- Reading the text of a legible log draws what the log draws. -/
theorem exists_runScript_of_legible {s : Session R H} {ps : List Primitive}
    (hps : s.pen.Reads ps) :
    ∃ timeline dirty w, (s.runScript (commandFile ps)).2 = { s with
      canvas := s.canvas.applyAll s.pen ps
      pen := ps.foldl Pen.apply s.pen
      timeline := timeline
      dirty := dirty
      world := w } := by
  obtain ⟨lines, hprimitives, hstatements⟩ := exists_statements_commandFile ps
  rw [← hprimitives] at hps
  obtain ⟨timeline, dirty, w, hfold⟩ :=
    exists_foldl_stepInScript_of_legible (s := { s with loading := true }) rfl hps
  rw [hprimitives] at hfold
  refine ⟨timeline, dirty, w, ?_⟩
  rw [snd_runScript, hstatements, hfold]

omit [Host H] in
/-- In a new session with the same pen, the text of the log of a legible session draws the scene
    that the log replays. -/
theorem Legible.scene_reread {H' : Type} [Host H'] {s : Session R H} (h : s.Legible)
    {settings : Settings} (hpen : settings.pen = s.defaults) (w : World H') :
    ((ofSettings settings w : Session R H').runScript
      (commandFile s.timeline.entries)).2.canvas.scene = s.replayed.scene := by
  have hread : (ofSettings settings w : Session R H').pen.Reads s.timeline.entries := by
    rw [show (ofSettings settings w : Session R H').pen = s.defaults from hpen]
    exact h.entries
  obtain ⟨timeline, dirty, w', hagain⟩ := exists_runScript_of_legible hread
  obtain ⟨-, hscene⟩ := s.replayed_of_blank settings.canvasWidth settings.canvasHeight
  rw [hagain, ← hscene, ← hpen]
  rfl

end Session

end Turtle

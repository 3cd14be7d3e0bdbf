import Turtle.Proofs.Session.History

/-!
# What a session holds is in range

The verbs accept numbers in range alone, and so does whoever reads the settings. Everything that a
session holds comes from there, also what a shape notes down of the pen: so every primitive on the
timeline is one that a verb accepts.

* `Session.Sound` is the invariant, and `Session.Change.sound` its step;
* `Session.sound_performAll`: every session that begins with a valid pen width keeps it.
-/

namespace Turtle

theorem Timeline.mem_line {t : Timeline} {p : Primitive} :
    p ∈ t.line ↔ p ∈ t.past ∨ p ∈ t.future := by
  rw [line, entries, List.mem_append, List.mem_reverse]

/-- What pushing leaves on the line was there or was pushed. -/
theorem Timeline.mem_line_foldl_push {t : Timeline} {ps : List Primitive} {p : Primitive}
    (h : p ∈ (ps.foldl push t).line) : p ∈ t.line ∨ p ∈ ps := by
  induction ps generalizing t with
  | nil => exact .inl h
  | cons q ps ih =>
    rcases ih h with h | h
    · rcases mem_line.1 h with h | h
      · rcases List.mem_cons.1 h with rfl | h
        · exact .inr List.mem_cons_self
        · exact .inl (mem_line.2 (.inl h))
      · simp only [push] at h
        split at h
        · exact .inl (mem_line.2 (.inr h))
        · exact absurd h List.not_mem_nil
    · exact .inr (List.mem_cons_of_mem _ h)

namespace Session

variable {R H : Type}

/-- The pen and the timeline of a session are such as the verbs accept. -/
structure Sound (s : Session R H) : Prop where
  defaults : IsPenWidth s.defaults.width
  pen : IsPenWidth s.pen.width
  line : ∀ p ∈ s.timeline.line, p.InRange

/-- Every entry of the log of a sound session is in range. -/
theorem Sound.inRange {s : Session R H} (h : s.Sound) {p : Primitive}
    (hp : p ∈ s.timeline.entries) : p.InRange :=
  h.line p (List.mem_append_left _ hp)

variable [Scalar R] [Host H]

/-- Every change leaves a sound session sound. -/
theorem Change.sound {s t : Session R H} {c : Option Command} {o : Outcome} (h : s.Change c o t)
    (hs : s.Sound) : t.Sound := by
  obtain ⟨hdefaults, hpen, hline⟩ := hs
  cases h with
  | refused | nothingUndone | nothingRedone | declined | saved | imported | kept =>
    exact ⟨hdefaults, hpen, hline⟩
  | drawn hc hps =>
    have hdrawn := fun p => Command.inRange_of_mem_primitives? (p := p) hc hpen hps
    refine ⟨hdefaults, Pen.isPenWidth_foldl_apply hpen hdrawn, fun p hp => ?_⟩
    rcases Timeline.mem_line_foldl_push hp with hp | hp
    exacts [hline p hp, hdrawn p hp]
  | @undone p past h w =>
    -- What is left of the log, and what was taken off it, was on the line.
    have hpast (q : Primitive) (hq : q ∈ past) : q.InRange :=
      hline q (Timeline.mem_line.2 (.inl (h ▸ List.mem_cons_of_mem _ hq)))
    have hp : p.InRange := hline p (Timeline.mem_line.2 (.inl (h ▸ List.mem_cons_self)))
    refine ⟨hdefaults, Pen.isPenWidth_foldl_apply hdefaults fun q hq =>
      hpast q (List.mem_reverse.1 hq), fun q hq => ?_⟩
    rcases Timeline.mem_line.1 hq with hq | hq
    · exact hpast q hq
    · rcases List.mem_cons.1 hq with rfl | hq
      · exact hp
      · exact hline q (Timeline.mem_line.2 (.inr hq))
  | @redone p future h w =>
    have hp : p.InRange := hline p (Timeline.mem_line.2 (.inr (h ▸ List.mem_cons_self)))
    refine ⟨hdefaults, Pen.isPenWidth_apply hpen hp, fun q hq => ?_⟩
    rcases Timeline.mem_line.1 hq with hq | hq
    · rcases List.mem_cons.1 hq with rfl | hq
      · exact hp
      · exact hline q (Timeline.mem_line.2 (.inl hq))
    · exact hline q (Timeline.mem_line.2 (.inr (h ▸ List.mem_cons_of_mem _ hq)))
  | cleared h => exact ⟨hdefaults, hdefaults, fun _ hp => absurd hp List.not_mem_nil⟩

omit [Host H] in
theorem sound_ofSettings {settings : Settings} (h : IsPenWidth settings.pen.width) (w : World H) :
    (ofSettings settings w : Session R H).Sound :=
  ⟨h, h, fun _ hp => absurd hp List.not_mem_nil⟩

/-- A run keeps a session sound, before and behind every turn. -/
theorem Run.sound {s t : Session R H} {turns : List (Turn R H)} (run : Run s turns t)
    (hs : s.Sound) : t.Sound ∧ ∀ turn ∈ turns, turn.before.Sound ∧ turn.after.Sound :=
  run.preserves Sound (fun ⟨_, _, halike⟩ h => halike ▸ ⟨h.defaults, h.pen, h.line⟩)
    Change.sound hs

/-- A session that begins with a valid pen width is sound whatever is done in it. -/
theorem sound_performAll {settings : Settings} (h : IsPenWidth settings.pen.width) (w : World H)
    (ops : List (Operation H)) : ((ofSettings settings w : Session R H).performAll ops).Sound :=
  ((run_history _ ops).sound (sound_ofSettings h w)).1

end Session

end Turtle

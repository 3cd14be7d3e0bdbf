import Turtle.Proofs.Session.Untouched

/-!
# What a session does to its host

A session shows messages, notes events, and asks; nothing else reaches its host. So what is true of
a host stays true, whatever is done in the session, if none of these takes it away. What a command
does to the host depends on what it asks for: most ask for nothing, only a few ask for a path, and
only loading a command file asks for one to load it from.

* `Host.KeptByShowing`, `Host.KeptOffLoading` and `Host.Kept` are properties that more and more of
  this does not take away;
* `Session.host_execute_of_not_asks`, `Session.host_execute` and `Session.host_runLine`: they hold
  on, whatever is done that does not take them away.
-/

namespace Turtle

namespace Host

variable {H : Type} [Host H]

/-- A property of hosts that nothing takes away that is shown or noted. -/
structure KeptByShowing (P : H → Prop) : Prop where
  report : ∀ (message : String) {h : H}, P h → P (Host.report message h)
  note : ∀ (line : String) {h : H}, P h → P (Host.note line h)

/-- A property of hosts that nothing takes away, except asking for a path to load a command file
    from. -/
structure KeptOffLoading (P : H → Prop) : Prop extends KeptByShowing P where
  confirm : ∀ (question : String) {h : H}, P h → P (Host.confirm question h).2
  pick : ∀ {dialog : Dialog} {h : H}, dialog ≠ .loadCommands → P h → P (Host.pick dialog h).2

/-- A property of hosts that nothing takes away. -/
structure Kept (P : H → Prop) : Prop extends KeptOffLoading P where
  pickCommands : ∀ {h : H}, P h → P (Host.pick .loadCommands h).2

end Host

/-- A command that saves or loads something. -/
def Command.asksForPath : Command → Bool
  | session .saveCommands | session .loadCommands | session .saveImage | session .loadImage => true
  | primitive _ | shape _ | session _ => false

namespace World

variable {H : Type} [Host H] {P : H → Prop} (hP : Host.KeptByShowing P) {w : World H}
include hP

theorem host_record (h : P w.host) (e : Event) : P (w.record e).host := by
  rw [record]
  split
  · split
    · exact h
    · exact hP.note _ h
    · exact h
  · exact h

theorem host_report (h : P w.host) (message : String) : P (w.report message).host := by
  rw [report]
  split
  · exact hP.report _ (host_record hP h _)
  · exact hP.report _ h

end World

namespace Session

variable {R H : Type} [Scalar R] [Host H] {P : H → Prop} {s : Session R H}

/-! ## Nothing is asked -/

section KeptByShowing

variable (hP : Host.KeptByShowing P)
include hP

omit [Scalar R] in
theorem host_fail (h : P s.world.host) (what : String) (fault : Fault) :
    P (s.fail what fault).2.world.host :=
  World.host_report hP (World.host_record hP h _) _

omit [Scalar R] in
theorem host_reject (h : P s.world.host) (verb : String) (origin : Origin) (e : CommandError) :
    P (s.reject verb origin e).2.world.host :=
  World.host_report hP (World.host_record hP h _) _

theorem host_runAll (h : P s.world.host) (ps : List Primitive) :
    P (s.runAll ps).world.host := by
  induction ps generalizing s with
  | nil => exact h
  | cons p ps ih => exact ih (s := s.run p) (World.host_record hP h _)

theorem host_undo (h : P s.world.host) : P s.undo.2.world.host := by
  rw [undo]
  split
  · exact h
  · next rest timeline _ =>
    let begun : Session R H := { s with timeline := timeline }
    exact host_runAll hP (s := (begun.record (.undo rest.length)).restart)
      (World.host_record hP h _) rest

theorem host_redo (h : P s.world.host) : P s.redo.2.world.host := by
  rw [redo]
  split
  · exact h
  · exact World.host_record hP (World.host_record hP h _) _

/-- Most commands ask for nothing. -/
theorem host_execute_of_not_asks (h : P s.world.host) (load : Session R H → Outcome × Session R H)
    {c : Command} (hpath : c.asksForPath = false) (hclear : c ≠ .session .clear) :
    P (s.execute load c).2.world.host := by
  cases c with
  | primitive p => exact host_runAll hP h [p]
  | shape shape =>
    rw [execute]
    split
    · exact host_runAll hP h _
    · exact h
  | session request =>
    rw [execute]
    cases request with
    | about | help => exact World.host_report hP h _
    | undo => exact host_undo hP h
    | redo => exact host_redo hP h
    | clear => exact absurd rfl hclear
    | _ => cases hpath

/-- A statement does to the host what its command does, or is refused. -/
theorem host_obeyWith_of_execute (h : P s.world.host)
    (load : Session R H → Outcome × Session R H) {statement : Statement} {origin : Origin}
    (hexecute : ∀ c, s.commandOf statement origin = some c →
      P (s.execute load c).2.world.host) :
    P (s.obeyWith load statement origin).2.world.host := by
  cases hcommand : s.commandOf statement origin with
  | none =>
    obtain ⟨e, -, hobey⟩ := obeyWith_of_commandOf_eq_none load hcommand
    rw [hobey]
    exact host_reject hP h _ _ _
  | some c =>
    rw [obeyWith_of_commandOf load hcommand]
    exact hexecute c hcommand

end KeptByShowing

/-! ## No command file is loaded -/

section KeptOffLoading

variable (hP : Host.KeptOffLoading P)
include hP

omit [Scalar R] in
theorem host_asking (h : P s.world.host) {dialog : Dialog} (hdialog : dialog ≠ .loadCommands)
    {go : Path → Session R H → Outcome × Session R H}
    (hgo : ∀ path {s : Session R H}, P s.world.host → P (go path s).2.world.host) :
    P (s.asking dialog go).2.world.host := by
  have hpicked : P (s.pick dialog).2.world.host := hP.pick hdialog h
  rw [asking]
  split
  · next hpick =>
    rw [hpick] at hpicked
    exact hpicked
  · next path _ hpick =>
    rw [hpick] at hpicked
    exact hgo path hpicked

theorem host_clear (h : P s.world.host) : P s.clear.2.world.host := by
  rw [clear]
  split
  · have hconfirm := hP.confirm clearQuestion h
    dsimp only
    split
    · exact World.host_record hP.toKeptByShowing hconfirm _
    · exact hconfirm
  · exact World.host_record hP.toKeptByShowing h _

/-- Whatever is done but loading a command file, no path is asked for to load one. -/
theorem host_execute (h : P s.world.host) (load : Session R H → Outcome × Session R H)
    {c : Command} (hc : c ≠ .session .loadCommands) : P (s.execute load c).2.world.host := by
  have hshow := hP.toKeptByShowing
  cases hpath : c.asksForPath with
  | false =>
    by_cases hclear : c = .session .clear
    · rw [hclear]
      exact host_clear hP h
    · exact host_execute_of_not_asks hshow h load hpath hclear
  | true =>
    rcases c with _ | _ | request
    · cases hpath
    · cases hpath
    rw [execute]
    cases request with
    | saveCommands =>
      rw [request, saveCommands_eq]
      refine host_asking hP h (by decide) fun path s h => ?_
      dsimp only
      split
      · next e _ => exact host_fail (s := s.withDisk (e.leaves s.world.disk)) hshow h _ _
      · refine World.host_report hshow (World.host_record hshow ?_ _) _
        exact h
    | loadCommands => exact absurd rfl hc
    | saveImage =>
      rw [request, saveImage_eq]
      refine host_asking hP h (by decide) fun path s h => ?_
      split
      · next disk _ => exact host_fail (s := s.withDisk disk) hshow h _ _
      · refine World.host_report hshow (World.host_record hshow ?_ _) _
        exact h
    | loadImage =>
      rw [request, loadImage_eq]
      refine host_asking hP h (by decide) fun path s h => ?_
      split
      · exact host_fail hshow h _ _
      · refine World.host_report hshow (World.host_record hshow ?_ _) _
        exact h
    | _ => cases hpath

/-- A statement that does not load a command file does not ask for one. -/
theorem host_obeyWith (h : P s.world.host) (load : Session R H → Outcome × Session R H)
    {statement : Statement} {origin : Origin}
    (hc : s.commandOf statement origin ≠ some (.session .loadCommands)) :
    P (s.obeyWith load statement origin).2.world.host :=
  host_obeyWith_of_execute hP.toKeptByShowing h load fun _ hcommand =>
    host_execute hP h load fun hload => hc (hload ▸ hcommand)

theorem host_obeyInScript (hloading : s.loading = true) (h : P s.world.host)
    (statement : Statement) (origin : Origin) :
    P (s.obeyInScript statement origin).2.world.host :=
  host_obeyWith hP h _ (commandOf_ne_load hloading statement origin)

theorem host_runScript (h : P s.world.host) (text : String) :
    P (s.runScript text).2.world.host := by
  have all (statements : List (ScriptLine × Statement)) {s : Session R H}
      (hloading : s.loading = true) (h : P s.world.host) :
      P (statements.foldl stepInScript s).world.host := by
    induction statements generalizing s with
    | nil => exact h
    | cons x rest ih =>
      exact ih (loading_stepInScript hloading x) (host_obeyInScript hP hloading h _ _)
  rw [snd_runScript]
  dsimp only
  exact all _ (s := { s with loading := true }) rfl h

end KeptOffLoading

/-! ## Whatever is done -/

section Kept

variable (hP : Host.Kept P)
include hP

theorem host_loadCommands (h : P s.world.host) : P s.loadCommands.2.world.host := by
  have hoff := hP.toKeptOffLoading
  have hshow := hoff.toKeptByShowing
  have hpicked : P (s.pick .loadCommands).2.world.host := hP.pickCommands h
  rw [loadCommands_eq, asking]
  split
  · next hpick =>
    rw [hpick] at hpicked
    exact hpicked
  · next path asked hpick =>
    rw [hpick] at hpicked
    split
    · exact host_fail hshow hpicked _ _
    · next text _ =>
      have hrun := host_runScript hoff hpicked text
      -- What the script does is of no concern here, and must not be unfolded.
      generalize asked.runScript text = result at hrun ⊢
      exact World.host_report hshow (World.host_record hshow hrun _) _

theorem host_obey (h : P s.world.host) (statement : Statement) (origin : Origin) :
    P (s.obey statement origin).2.world.host := by
  by_cases hc : s.commandOf statement origin = some (.session .loadCommands)
  · rw [obey_of_commandOf_session hc, request]
    exact host_loadCommands hP h
  · exact host_obeyWith hP.toKeptOffLoading h _ hc

theorem host_runLine (h : P s.world.host) (line : String) :
    P (s.runLine line).2.world.host := by
  have all (statements : List Statement) {s : Session R H} (h : P s.world.host) :
      P (statements.foldl (fun s statement => (s.obey statement .user).2) s).world.host := by
    induction statements generalizing s with
    | nil => exact h
    | cons statement rest ih => exact ih (host_obey hP h statement .user)
  rw [snd_runLine]
  exact all _ h

end Kept

end Session

end Turtle

import Turtle.Proofs.Session.Related
import Turtle.Proofs.World.Answers

/-!
# What is shown has no part in what is done

A session shows messages and records events, and never looks at them again: what it does depends on
the answers that it gets. So two sessions that differ in nothing but what was shown and recorded do
the same from there on, whatever is asked of them. The one way back from what is recorded is to load
the file of the journal.

* `Session.sourcesOf`, `Session.sourcesOfLine` and `Session.sourcesOfScript` are the locations that
  are loaded from while something is done;
* `World.MatchesUnder.congruence`: worlds that differ so stay so when the same is done in both;
* `Session.Matches` says that two sessions differ in what was shown and recorded at most;
* `Session.MatchesUnder.obey`, `Session.MatchesUnder.obeyInScript` and
  `Session.MatchesUnder.runScript`: this stays so, whatever is done in both of them, if the file of
  the journal is none of those that are loaded.
-/

namespace Turtle

/-- None of these locations is that of the file of the journal. -/
def Journal.Spares (j : Journal) (locations : List Location) : Prop :=
  ∀ l ∈ locations, j.sink ≠ .file l

theorem Journal.spares_append {j : Journal} {first second : List Location} :
    j.Spares (first ++ second) ↔ j.Spares first ∧ j.Spares second :=
  List.forall_mem_append

/-! ## Worlds -/

namespace World

variable {R H U : Type}

/-- The worlds differ in what was shown and recorded at most, and this is their journal. -/
structure MatchesUnder (j : Journal) (input : H → U) (w w' : World H) : Prop extends
    Matches input w w' where
  journal : w.journal = j

variable [Scalar R] [Host H] {j : Journal} {input : H → U}

/-- Worlds that differ in what was shown and recorded at most stay so, whatever is done in both. -/
theorem MatchesUnder.congruence (hin : Host.AnswersFrom input) (j : Journal) :
    Congruence R (MatchesUnder j input) where
  record h e := ⟨h.toMatches.record hin e e, (Undisturbed.record _ e).journal.trans h.journal⟩
  report h message := ⟨h.toMatches.report hin message message,
    (Undisturbed.report _ message).journal.trans h.journal⟩
  refuse h _ _ _ _ := ⟨(h.toMatches.record hin _ _).report hin _ _,
    ((Undisturbed.record _ _).trans (.report _ _)).journal.trans h.journal⟩
  confirm h question := by
    obtain ⟨hanswer, hmatches⟩ := h.toMatches.confirm hin question
    exact ⟨hanswer, hmatches, h.journal⟩
  pick h dialog := by
    obtain ⟨hanswer, hmatches⟩ := h.toMatches.pick hin dialog
    exact ⟨hanswer, hmatches, h.journal⟩
  write := by
    rintro w w' ⟨⟨⟨hjournal, hdisk⟩, hinput⟩, hj⟩ path bytes
    exact (hdisk.write path bytes).mono fun hd => ⟨⟨⟨hjournal, hd⟩, hinput⟩, hj⟩

omit [Host H] in
/-- A path that does not lead to the file of the journal leads to the same in both worlds. -/
theorem MatchesUnder.not_journalAt {w w' : World H} (h : w.MatchesUnder j input w') {path : Path}
    (hspares : j.Spares (w.disk.target? path).toList) :
    ∀ l, w.disk.target? path = some l → ¬w.JournalAt l := by
  intro l hl
  rw [JournalAt, h.journal]
  exact hspares l (Option.mem_toList.2 hl)

end World

namespace Session

variable {R H U : Type}

/-- Of two sessions the second differs from the first in what was shown and recorded at most. -/
def Matches (input : H → U) (s t : Session R H) : Prop :=
  s.Related (World.Matches input) t

/-- The sessions differ in what was shown and recorded at most, and this is their journal. -/
def MatchesUnder (j : Journal) (input : H → U) (s t : Session R H) : Prop :=
  s.Related (World.MatchesUnder j input) t

theorem MatchesUnder.refl (input : H → U) (s : Session R H) :
    s.MatchesUnder s.world.journal input s :=
  ⟨s.world, ⟨⟨.refl _, rfl⟩, rfl⟩, rfl⟩

variable [Scalar R] [Host H]

/-! ## Where something is loaded from -/

/-- The location that a statement loads from, if it is one to load something and is given a path
    that leads anywhere. -/
def source? (s : Session R H) (statement : Statement) (origin : Origin) : Option Location :=
  match s.commandOf statement origin with
  | some (.session .loadCommands) => (s.world.pick .loadCommands).1.bind s.world.disk.target?
  | some (.session .loadImage) => (s.world.pick .loadImage).1.bind s.world.disk.target?
  | _ => none

/-- The locations that statements on lines of a script load from. -/
def sourcesInScript (s : Session R H) : List (ScriptLine × Statement) → List Location
  | [] => []
  | x :: rest =>
    (s.source? x.2 (.line x.1.number)).toList ++ (s.stepInScript x).sourcesInScript rest

/-- The locations that a script loads from. -/
def sourcesOfScript (s : Session R H) (text : String) : List Location :=
  sourcesInScript { s with loading := true } (Script.statements (Script.read text))

/-- The locations that a statement outside scripts loads from, with those that the script loads from
    that it may load. -/
def sourcesOf (s : Session R H) (statement : Statement) (origin : Origin) : List Location :=
  (s.source? statement origin).toList ++
    match s.scriptOf? statement origin with
    | none => []
    | some (asked, text) => asked.sourcesOfScript text

namespace MatchesUnder

variable {j : Journal} {input : H → U} {s t : Session R H}

/-- An image that is not in the file of the journal is the same in both sessions. -/
theorem loadsAlike (h : s.MatchesUnder j input t) {statement : Statement} {origin : Origin}
    (hspares : j.Spares (s.source? statement origin).toList)
    (hc : s.commandOf statement origin = some (.session .loadImage)) :
    World.LoadsAlike R s.world t.world := by
  intro path hpath c
  rw [source?, hc] at hspares
  dsimp only at hspares
  rw [hpath, Option.bind_some] at hspares
  have hw := Related.world h
  rw [Canvas.load, Canvas.load, hw.undisturbed.disk.open?_of_target? (hw.not_journalAt hspares)]

variable (hin : Host.AnswersFrom input)
include hin

omit [Scalar R] in
/-- A refusal on one side alone is only something shown and recorded. -/
theorem reject_left (h : s.MatchesUnder j input t) (verb : String) (origin : Origin)
    (e : CommandError) : (s.reject verb origin e).2.MatchesUnder j input t := by
  obtain ⟨w, hw, rfl⟩ := h
  refine ⟨w, ⟨(hw.toMatches.record_left hin _).report_left hin _, ?_⟩, rfl⟩
  exact ((World.Undisturbed.record _ _).trans (.report _ _)).journal.trans hw.journal

theorem obeyInScript (h : s.MatchesUnder j input t) (statement : Statement) (n n' : Nat)
    (hspares : j.Spares (s.source? statement (.line n)).toList) :
    RelatedResult (World.MatchesUnder j input) (s.obeyInScript statement (.line n))
      (t.obeyInScript statement (.line n')) :=
  Related.obeyInScript (World.MatchesUnder.congruence hin j) h statement n n'
    (h.loadsAlike hspares)

theorem foldl_stepInScript (h : s.MatchesUnder j input t) (xs : List (ScriptLine × Statement))
    (hspares : j.Spares (s.sourcesInScript xs)) :
    (xs.foldl stepInScript s).MatchesUnder j input (xs.foldl stepInScript t) := by
  induction xs generalizing s t with
  | nil => exact h
  | cons x xs ih =>
    obtain ⟨hx, hxs⟩ := Journal.spares_append.1 hspares
    exact ih (h.obeyInScript hin x.2 _ _ hx).2 hxs

/-- A script does the same, and the same is wrong with it. -/
theorem runScript (h : s.MatchesUnder j input t) (text : String)
    (hspares : j.Spares (s.sourcesOfScript text)) :
    (t.runScript text).1 = (s.runScript text).1 ∧
      (s.runScript text).2.MatchesUnder j input (t.runScript text).2 := by
  refine ⟨by rw [fst_runScript, fst_runScript], ?_⟩
  rw [snd_runScript, snd_runScript, Related.loading_eq h]
  exact (foldl_stepInScript hin (Related.withLoading h true) _ hspares).withLoading s.loading

theorem loadCommands (h : s.MatchesUnder j input t) {statement : Statement} {origin : Origin}
    (hspares : j.Spares (s.sourcesOf statement origin))
    (hc : s.commandOf statement origin = some (.session .loadCommands)) :
    RelatedResult (World.MatchesUnder j input) s.loadCommands t.loadCommands := by
  have hrel := World.MatchesUnder.congruence (R := R) hin j
  obtain ⟨hsource, hscript⟩ := Journal.spares_append.1 hspares
  rw [loadCommands_eq, loadCommands_eq]
  refine Related.asking hrel h fun path s' t' h' hpath hs ht => ?_
  have hpick : s.pick .loadCommands = (some path, s') := by
    rw [hs, ← hpath]
    rfl
  rw [source?, hc] at hsource
  dsimp only at hsource
  rw [hpath, Option.bind_some] at hsource
  rw [scriptOf?, if_pos hc, hpick] at hscript
  dsimp only at hscript
  have hw := h'.world
  have hdisk : s'.world.disk = s.world.disk := by rw [hs]; rfl
  rw [← hdisk] at hsource
  rw [hw.undisturbed.disk.readText_of_target? (hw.not_journalAt hsource)]
  cases hread : s'.world.disk.readText path with
  | error e => exact h'.fail hrel _ _
  | ok text =>
    rw [hread] at hscript
    obtain ⟨herrors, hafter⟩ := runScript hin h' text hscript
    have hrecorded : ((s'.runScript text).2.record
          (.loadedCommands path (s'.runScript text).1.length)).Related (World.MatchesUnder j input)
        ((t'.runScript text).2.record (.loadedCommands path (t'.runScript text).1.length)) := by
      rw [herrors]
      exact Related.record hrel hafter _
    exact ⟨rfl, hrecorded.report hrel _⟩

theorem obey (h : s.MatchesUnder j input t) (statement : Statement)
    (hspares : j.Spares (s.sourcesOf statement .user)) :
    RelatedResult (World.MatchesUnder j input) (s.obey statement .user)
      (t.obey statement .user) :=
  Related.obeyWith (World.MatchesUnder.congruence hin j) h statement rfl
    (h.loadCommands hin hspares) (h.loadsAlike (Journal.spares_append.1 hspares).1)

end MatchesUnder

end Session

end Turtle

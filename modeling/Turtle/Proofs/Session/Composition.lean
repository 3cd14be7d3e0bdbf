import Turtle.Proofs.Script.Joined
import Turtle.Proofs.Session.Omission
import Turtle.Proofs.World.Reworded

/-!
# Scripts and lines put together

Two scripts with a line feed between them do what the first does and then the second, and so do two
lines with a semicolon between them. A line that is typed leaves just the same. A script is run with
a mark on the session, which comes off at its end and is put on again for the next one; and behind
another one, its statements stand on other lines, so that what is refused is refused in other words.

* `Session.runLine_semicolon`: two lines with a semicolon between them;
* `Session.related_runScript_joined`: two scripts with a line feed between them;
* `Session.words_of_refusal_are_recorded`: the file of the journal has other words in it;
* `Session.scripts_and_lines_compose`: both, with the numbers of the lines.
-/

namespace Turtle

theorem inTurn_append {α σ : Type} (step : σ → α → Outcome × σ) (s : σ) (xs ys : List α) :
    inTurn step s (xs ++ ys) =
      ((inTurn step s xs).1 ++ (inTurn step (inTurn step s xs).2 ys).1,
        (inTurn step (inTurn step s xs).2 ys).2) := by
  induction xs generalizing s with
  | nil => rfl
  | cons x xs ih =>
    rw [List.cons_append, inTurn, ih]
    rfl

theorem Script.statements_append (lines more : List ScriptLine) :
    statements (lines ++ more) = statements lines ++ statements more := List.flatMap_append

/-- On whatever lines they stand, the statements are the same. -/
theorem Script.map_snd_statements_raise (k : Nat) (lines : List ScriptLine) :
    (statements (lines.map (ScriptLine.raise k))).map Prod.snd =
      (statements lines).map Prod.snd := by
  simp only [statements, List.flatMap_map, List.map_flatMap, List.map_map]
  rfl

namespace Session

variable {R H : Type} [Scalar R] [Host H]

/-! ## Lines -/

/-- Two lines with a semicolon between them do what the first does and then the second. -/
theorem runLine_semicolon (s : Session R H) (a b : String) :
    s.runLine (a ++ ";" ++ b) =
      ((s.runLine a).1 ++ ((s.runLine a).2.runLine b).1, ((s.runLine a).2.runLine b).2) := by
  simp only [runLine_eq_inTurn, Statement.readAll_append_semicolon, inTurn_append]

/-! ## Scripts -/

theorem loading_foldl_stepInScript {s : Session R H} (h : s.loading = true)
    (xs : List (ScriptLine × Statement)) : (xs.foldl stepInScript s).loading = true := by
  induction xs generalizing s with
  | nil => exact h
  | cons x xs ih => exact ih (loading_stepInScript h x)

/-- A script that is run behind another one goes on where that one has ended. -/
theorem snd_runScript_runScript (s : Session R H) (a b : String) :
    ((s.runScript a).2.runScript b).2 =
      { (Script.statements (Script.read a) ++ Script.statements (Script.read b)).foldl stepInScript
          { s with loading := true } with loading := s.loading } := by
  have hmark := loading_foldl_stepInScript (s := { s with loading := true }) rfl
    (Script.statements (Script.read a))
  rw [snd_runScript, snd_runScript, List.foldl_append]
  revert hmark
  generalize (Script.statements (Script.read a)).foldl stepInScript
    { s with loading := true } = first
  intro hmark
  -- The mark is on the session again, as it was before it came off.
  have hfirst : { first with loading := true } = first := by
    rw [← hmark]
  dsimp only
  rw [hfirst]

/-- Behind a line feed a script does what it does by itself, but for the words of what is
    refused. -/
theorem related_runScript_joined {U : Type} {input : H → U} (hin : Host.GoesBy input)
    (s : Session R H) (a b : String) :
    ((s.runScript a).2.runScript b).2.Related (World.Reworded input)
      (s.runScript (a ++ "\n" ++ b)).2 := by
  rw [snd_runScript_runScript, snd_runScript, Script.read_joined, Script.statements_append]
  have hself : { s with loading := true }.Related (World.Reworded input)
      { s with loading := true } := ⟨s.world, .refl _, rfl⟩
  refine (hself.foldl_stepInScript (World.Reworded.congruence hin)
    World.Reworded.loadsAlike ?_).withLoading s.loading
  rw [List.map_append, List.map_append, Script.map_snd_statements_raise]

/-- With a journal in a file, a script that is refused has other words in that file behind another
    one. -/
theorem words_of_refusal_are_recorded :
    let log : Location := [Text.encode "j.log"]
    let w : World Console := ⟨⟨[], "", false⟩, ⟨[(log, .file [])], [], []⟩, ⟨.warn, .file log, "T"⟩⟩
    let s : Session Float Console := ofSettings Settings.standard w
    (s.runScript ("fly" ++ "\n" ++ "fly")).2.world.disk.lookup log ≠
      ((s.runScript "fly").2.runScript "fly").2.world.disk.lookup log := by
  decide +kernel

/-- Two scripts with a line feed between them are read as both of them, with the lines of the second
    counted on from those of the first, and the lines of every script in increasing order. What is
    wrong with them is what is wrong with each, and they leave in any session what they leave one
    after the other, but for the words of what was shown and of what was recorded in the file of the
    journal, with every host that goes by its input, as the console does and the terminal. And two
    lines with a semicolon between them do just what they do one after the other. -/
theorem scripts_and_lines_compose (a b : String) :
    Script.read (a ++ "\n" ++ b) =
      Script.read a ++ (Script.read b).map (ScriptLine.raise (Text.height a)) ∧
    (∀ text, (Script.read text).Pairwise fun line next => line.number < next.number) ∧
    (∀ s : Session R H, (s.runScript (a ++ "\n" ++ b)).1 = (s.runScript a).1 ++
      ((s.runScript a).2.runScript b).1.map (LineError.raise (Text.height a))) ∧
    (∀ {U : Type} (input : H → U), Host.GoesBy input → ∀ s : Session R H,
      let apart := ((s.runScript a).2.runScript b).2
      let together := (s.runScript (a ++ "\n" ++ b)).2
      apart.Untouched together ∧ input together.world.host = input apart.world.host) ∧
    (∀ s : Session R H, s.runLine (a ++ ";" ++ b) =
      ((s.runLine a).1 ++ ((s.runLine a).2.runLine b).1, ((s.runLine a).2.runLine b).2)) ∧
    Host.GoesBy Console.input ∧ Host.GoesBy Terminal.keys := by
  refine ⟨Script.read_joined a b, Script.pairwise_read, fun s => ?_, fun input hin s => ?_,
    fun s => s.runLine_semicolon a b, Console.goesBy_input, Terminal.goesBy_keys⟩
  · rw [fst_runScript, fst_runScript, fst_runScript, Script.check_joined]
  · obtain ⟨w, hw, htogether⟩ := s.related_runScript_joined hin a b
    refine ⟨⟨w, hw.undisturbed, htogether⟩, ?_⟩
    rw [htogether]
    exact hw.input

/-- A comment, a line that is refused and a circle in the first script, a refusal and a line that
    asks whether to clear in the second, with a journal in a file. -/
theorem scripts_and_lines_compose_fly :
    let log : Location := [Text.encode "j.log"]
    let w : World Console := ⟨⟨Text.encode "y\n", "", false⟩, ⟨[(log, .file [])], [], []⟩,
      ⟨.warn, .file log, "T"⟩⟩
    let s : Session Float Console := ofSettings Settings.standard w
    let a := "# go; go\nfly\r\ncircle 4\r"
    let b := "\nfly; move 5\nclear; move 3"
    (s.runScript (a ++ "\n" ++ b)).1.map LineError.number = [2, 5] ∧
      ((s.runScript a).2.runScript b).2.Untouched (s.runScript (a ++ "\n" ++ b)).2 ∧
      (s.runScript (a ++ "\n" ++ b)).2.timeline.entries = [.move 3] := by
  intro log w s a b
  obtain ⟨-, -, herrors, hscripts, -⟩ := scripts_and_lines_compose (R := Float) (H := Console) a b
  obtain ⟨huntouched, -⟩ := hscripts Console.input Console.goesBy_input s
  have hnumbers : ((s.runScript a).1 ++
      ((s.runScript a).2.runScript b).1.map (LineError.raise (Text.height a))).map
        LineError.number = [2, 5] := by decide +kernel
  refine ⟨?_, huntouched, by decide +kernel⟩
  rw [herrors, hnumbers]

end Session

end Turtle

import Turtle.Proofs.Program.Outset
import Turtle.Proofs.Session.Refusal

/-!
# Looking at a script and running it

The program can look for faults in a script, and it can run it. Both find the same faults, and end
with the same exit code: looking at a script says beforehand whether running it will fail.

* `Program.code_check` and `Program.code_run` say when either ends well;
* `Program.run_agrees_with_check`: they do so for the same scripts.
-/

namespace Turtle.Program

section Codes

variable {w : World Console} {script : Path}

/-- Looking at a script that cannot be read fails, and so does running it. -/
theorem code_of_unreadable {e : DiskError} (h : w.disk.readText script = .error e)
    (settings : Settings) (image : Option Path) :
    (check w script).code = 1 ∧ (run w settings script image).code = 1 := by
  rw [check, run, h]
  exact ⟨rfl, rfl⟩

variable {text : String} (h : w.disk.readText script = .ok text)
include h

/-- Looking at a script ends well if there is nothing wrong with it, and else with the number of
    its faults. -/
theorem code_check :
    ((check w script).code = 0 ↔ Script.check (Script.read text) = []) ∧
    (Script.check (Script.read text) ≠ [] → ∃ before, (check w script).stderr = before ++
      (countFault (Script.check (Script.read text)).length
        " invalid statement(s) in '" script "'").report) := by
  rw [check, h]
  dsimp only
  cases hcheck : Script.check (Script.read text) with
  | nil => exact ⟨⟨fun _ => rfl, fun _ => rfl⟩, fun hne => absurd rfl hne⟩
  | cons e errors =>
    exact ⟨⟨fun hcode => absurd hcode (show (1 : UInt32) ≠ 0 by decide), nofun⟩,
      fun _ => ⟨_, rfl⟩⟩

/-- Running a script without drawing an image ends well if there is nothing wrong with it, and else
    with the number of its faults. -/
theorem code_run (settings : Settings) :
    ((run w settings script none).code = 0 ↔ Script.check (Script.read text) = []) ∧
    (Script.check (Script.read text) ≠ [] → ∃ before,
      (run w settings script none).stderr = before ++
        (countFault (Script.check (Script.read text)).length
          " statement(s) in '" script "' failed").report) := by
  -- The errors of the run are the faults of the text, and the exit code follows them.
  let fresh : Session Float Console := .ofSettings settings w
  have herrors := fresh.fst_runScript text
  rw [run, h]
  dsimp only [saveImage]
  rw [show (Session.runScript (Session.ofSettings settings w) text).1 = _ from herrors]
  cases Script.check (Script.read text) with
  | nil => exact ⟨⟨fun _ => rfl, fun _ => rfl⟩, fun hne => absurd rfl hne⟩
  | cons e errors =>
    exact ⟨⟨fun hcode => absurd hcode (show (1 : UInt32) ≠ 0 by decide), nofun⟩,
      fun _ => ⟨_, rfl⟩⟩

end Codes

/-- Every session finds the faults in a script that looking at the script finds, in order. So with
    the same options and the same disk, whatever waits on the standard input, the two commands end
    with the same exit code; and if the settings and the script can be read, both report the same
    number of faults, or none. -/
theorem run_agrees_with_check {R H : Type} [Scalar R] [Host H] {args args' : List String}
    {options : Options} {script : Path}
    (hcheck : Invocation.read args = .job options (.check script))
    (hrun : Invocation.read args' = .job options (.run script none)) (disk : Disk) (time : String)
    (stdin stdin' : Bytes) (keys keys' : List Key) :
    (∀ (s : Session R H) (text : String),
      (s.runScript text).1 = Script.check (Script.read text)) ∧
    let checked := perform args disk time stdin keys
    let ran := perform args' disk time stdin' keys'
    (checked.code = 0 ↔ ran.code = 0) ∧
    ∀ w settings text, outset? options disk time stdin = some (w, settings) →
      w.disk.readText script = .ok text →
      let errors := Script.check (Script.read text)
      (checked.code = 0 ↔ errors = []) ∧ (errors ≠ [] →
        (∃ before, checked.stderr = before ++
          (countFault errors.length " invalid statement(s) in '" script "'").report) ∧
        ∃ before, ran.stderr = before ++
          (countFault errors.length " statement(s) in '" script "' failed").report) := by
  refine ⟨fun s text => s.fst_runScript text, ?_⟩
  intro checked ran
  have hchecked : checked = headless options disk time stdin fun w _ => check w script := by
    simp only [checked, perform, hcheck]
  have hran : ran = headless options disk time stdin' fun w settings =>
      run w settings script none := by
    simp only [ran, perform, hrun]
  have houtset := outset?_withInput options disk time stdin stdin'
  cases h : outset? options disk time stdin with
  | none =>
    rw [h] at houtset
    refine ⟨?_, nofun⟩
    rw [hchecked, hran, (headless_of_outset?_eq_none _ h).1,
      (headless_of_outset?_eq_none _ houtset).1]
  | some x =>
    obtain ⟨w, settings⟩ := x
    rw [h] at houtset
    -- Both commands read the script on the disk that the journal and the settings leave.
    rw [headless_of_outset? _ h] at hchecked
    rw [headless_of_outset? _ houtset] at hran
    cases htext : w.disk.readText script with
    | error e =>
      have hchecked' := (code_of_unreadable htext settings none).1
      have hran' := (code_of_unreadable (w := w.withInput stdin') htext settings none).2
      refine ⟨by rw [hchecked, hran, hchecked', hran'], ?_⟩
      intro w' settings' text' hw' htext'
      cases hw'
      rw [htext] at htext'
      cases htext'
    | ok text =>
      have hchecked' := code_check htext
      have hran' := code_run (w := w.withInput stdin') htext settings
      rw [hchecked, hran]
      refine ⟨hchecked'.1.trans hran'.1.symm, ?_⟩
      intro w' settings' text' hw' htext'
      cases hw'
      rw [htext] at htext'
      cases htext'
      exact ⟨hchecked'.1, fun hne => ⟨hchecked'.2 hne, hran'.2 hne⟩⟩

/-- A script with a verb that there is not, and a move. -/
theorem run_agrees_with_check_unknown_verb :
    let disk : Disk := ⟨[([Text.encode "s"], .file (Text.encode "fly\nmove 5\n"))], [], []⟩
    let script := Path.ofText "s"
    let checked := perform ["check", "s"] disk "" [] []
    let ran := perform ["run", "s"] disk "" [] []
    Invocation.read ["check", "s"] = .job {} (.check script) ∧
    Invocation.read ["run", "s"] = .job {} (.run script none) ∧
    (checked.code = 0 ↔ ran.code = 0) ∧
    (∃ before, checked.stderr = before ++
      (countFault 1 " invalid statement(s) in '" script "'").report) ∧
    ∃ before, ran.stderr = before ++
      (countFault 1 " statement(s) in '" script "' failed").report := by
  intro disk script checked ran
  have hcheck : Invocation.read ["check", "s"] = .job {} (.check script) := by decide +kernel
  have hrun : Invocation.read ["run", "s"] = .job {} (.run script none) := by decide +kernel
  have houtset : outset? {} disk "" [] =
      some (⟨⟨[], "", false⟩, disk, ⟨.warn, .messages, ""⟩⟩, .standard) := rfl
  have htext : disk.readText script = .ok "fly\nmove 5\n" := by decide +kernel
  have herrors : Script.check (Script.read "fly\nmove 5\n") =
      [⟨1, "fly", "Invalid command: fly"⟩] := by decide +kernel
  obtain ⟨-, hcode, hcount⟩ :=
    run_agrees_with_check (R := Float) (H := Console) hcheck hrun disk "" [] [] [] []
  obtain ⟨hchecked, hran⟩ := (hcount _ _ _ houtset htext).2 (herrors ▸ List.cons_ne_nil _ _)
  rw [herrors] at hchecked hran
  exact ⟨hcheck, hrun, hcode, hchecked, hran⟩

end Turtle.Program

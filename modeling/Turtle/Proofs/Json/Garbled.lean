import Mathlib.Tactic.Common
import Turtle.Journal
import Turtle.Json.Parser

/-!
# What is no JSON

Once the lexer has stopped on some bytes, nothing that comes behind them makes them JSON. It stops
at the end of a line about a refusal, whatever stands in front: an equals sign is no token, and if
the line ends within a string, the line feed must not be there.

* `Garbled` says of bytes that no text in JSON begins with them;
* `garbled_append_rejected`: a file that a refusal has been added to is such.
-/

namespace Turtle

namespace Json

/-- No text in JSON begins with these bytes. -/
def Garbled (bytes : Bytes) : Prop :=
  ∀ more, parse? (bytes ++ more) = none

namespace Garbled

variable {bytes : Bytes}

theorem append (h : Garbled bytes) (more : Bytes) : Garbled (bytes ++ more) := by
  intro rest
  rw [List.append_assoc]
  exact h _

theorem parse?_eq_none (h : Garbled bytes) : parse? bytes = none := by
  rw [← List.append_nil bytes]
  exact h []

/-- Bytes are no JSON if they end in such on which the lexer stops wherever it comes upon them. -/
theorem of_stop {stop : Bytes} (h : ∀ lexer, stop.foldlM Lexer.step lexer = none)
    (before : Bytes) : Garbled (before ++ stop) := by
  intro more
  have htokens : Lexer.tokens? (before ++ stop ++ more) = none := by
    rw [Lexer.tokens?, List.foldlM_append, List.foldlM_append]
    cases before.foldlM Lexer.step ⟨[], .between⟩ with
    | none => rfl
    | some lexer =>
      dsimp only [Option.bind_eq_bind, Option.bind_some]
      rw [h lexer]
      rfl
  rw [parse?, htokens]
  rfl

end Garbled

/-- The end of a line about a refusal. -/
def refusalEnd (kind : ErrorKind) : String := " kind=" ++ kind.name ++ "\n"

/-- The lexer stops at the end of a line about a refusal. -/
theorem foldlM_step_refusalEnd (kind : ErrorKind) (lexer : Lexer) :
    (Text.encode (refusalEnd kind)).foldlM Lexer.step lexer = none := by
  have hbetween (tokens : List Token) :
      (Text.encode (refusalEnd kind)).foldlM Lexer.step ⟨tokens, .between⟩ = none := by
    cases kind <;> rfl
  obtain ⟨tokens, mode⟩ := lexer
  cases mode with
  | between => exact hbetween tokens
  | bare seen =>
    -- The blank ends the word, if it is one, and then the lexer is between two tokens.
    have hblank : Lexer.step ⟨tokens, .bare seen⟩ 0x20 =
        (Lexer.endBare? tokens seen).bind fun tokens => some ⟨tokens, .between⟩ := rfl
    obtain ⟨rest, hrest⟩ : ∃ rest, Text.encode (refusalEnd kind) = 0x20 :: rest := by
      cases kind <;> exact ⟨_, rfl⟩
    rw [hrest] at hbetween ⊢
    rw [List.foldlM_cons, hblank]
    cases Lexer.endBare? tokens seen with
    | none => rfl
    | some tokens => exact hbetween tokens
  | string seen | escape seen | hex seen missing => cases kind <;> rfl

/-- A file that a line about a refusal has been added to is no JSON any more. -/
theorem garbled_append_rejected (old : Bytes) (j : Journal) (message verb : String)
    (kind : ErrorKind) :
    Garbled (old ++ Text.encode (j.line (.rejected message verb kind))) := by
  have htext : (Event.rejected message verb kind).text =
      Text.disarm message ++ " verb=" ++ verb ++ " kind=" ++ kind.name := rfl
  obtain ⟨front, hline⟩ : ∃ front, j.line (.rejected message verb kind) =
      front ++ refusalEnd kind := by
    rw [Journal.line, htext, refusalEnd]
    generalize Text.disarm message ++ " verb=" ++ verb = text
    generalize j.time ++ " " ++ (Event.rejected message verb kind).level.column ++ " " = stamp
    exact ⟨stamp ++ text, by simp only [String.append_assoc]⟩
  rw [hline, Text.encode_append, ← List.append_assoc]
  exact Garbled.of_stop (foldlM_step_refusalEnd kind) (old ++ Text.encode front)

end Json

end Turtle

import Turtle.Proofs.Session.Host
import Turtle.Proofs.Session.MapHost
import Turtle.Proofs.Terminal.Prompt
import Turtle.Proofs.World.Answers

/-!
# What prompts have read

A terminal that keeps in mind what was read at its prompts. To a session it is no other terminal,
so the same is done with it, and in the end the keys that were waiting are accounted for: some were
taken by prompts, one prompt after the other, and the others are still waiting.

* `Reading` is what one prompt has read, and `Reading.Complete` says that its keys did not run out;
* `Recorded` is the terminal, and `Recorded.hom_terminal` says that it is one like any other;
* `Recorded.kept_accounts`: no key is lost, whatever is shown and asked.
-/

namespace Turtle

/-- What a prompt has read: the question, the keys that it took, and the answer, if there is one. -/
structure Reading where
  question : String
  keys : List Key
  answer : Option String
  deriving DecidableEq, Repr

/-- The prompt took keys up to the first that ends it. -/
inductive Reading.Complete : Reading → Prop
  /-- Behind Enter, the answer is what was typed. -/
  | entered {question : String} {typed : List Key} {last : Key}
      (htyped : ∀ key ∈ typed, key.ends = false) (hlast : last.enters = true) :
      Complete ⟨question, typed ++ [last], some (Key.typedText typed)⟩
  /-- Behind Esc, there is no answer. -/
  | left {question : String} {typed : List Key} {last : Key}
      (htyped : ∀ key ∈ typed, key.ends = false) (hlast : last.escapes = true) :
      Complete ⟨question, typed ++ [last], none⟩

/-- A terminal, and what was read at its prompts. -/
structure Recorded where
  terminal : Terminal
  readings : List Reading

namespace Recorded

/-- A terminal at which nothing has been read yet. -/
def begin (t : Terminal) : Recorded := ⟨t, []⟩

/-- Asks at a prompt, and keeps what was read. -/
def ask (question : String) (r : Recorded) : Option String × Recorded :=
  let (answer, terminal) := r.terminal.ask question
  let taken := r.terminal.keys.take (r.terminal.keys.length - terminal.keys.length)
  (answer, ⟨terminal, r.readings ++ [⟨question, taken, answer⟩]⟩)

instance : Host Recorded where
  report message r := { r with terminal := r.terminal.report message }
  confirm question r :=
    let (answer, r) := r.ask (Terminal.confirmQuestion question)
    (answer.any Terminal.isYes, r)
  pick dialog r :=
    let (answer, r) := r.ask (Terminal.pickQuestion dialog)
    (((answer.map Text.trimmed).filter fun s => !s.isEmpty).map Path.ofText, r)
  note _ r := r
  announces _ := true

/-- What is kept has no part in what is done. -/
theorem hom_terminal : Host.Hom terminal where
  report _ _ := rfl
  note _ _ := rfl
  announces _ := rfl
  confirm _ _ := rfl
  pick _ _ := rfl

/-- Of these keys, prompts have taken the first ones, and the others are waiting. A prompt that is
    not complete has left none. -/
structure Accounts (keys : List Key) (r : Recorded) : Prop where
  keys_eq : keys = r.readings.flatMap Reading.keys ++ r.terminal.keys
  complete : ∀ reading ∈ r.readings, reading.Complete ∨ r.terminal.keys = []

theorem accounts_begin (t : Terminal) : Accounts t.keys (begin t) :=
  ⟨rfl, List.forall_mem_nil _⟩

variable {keys : List Key} {r : Recorded}

/-- A prompt takes the first keys that are waiting, and unless it is complete, it takes all of them
    and has no answer. -/
theorem exists_ask (question : String) (r : Recorded) :
    ∃ reading, (r.ask question).2.readings = r.readings ++ [reading] ∧
      (r.ask question).1 = reading.answer ∧
      r.terminal.keys = reading.keys ++ (r.ask question).2.terminal.keys ∧
      (reading.Complete ∨ (r.ask question).2.terminal.keys = [] ∧ reading.answer = none) := by
  obtain ⟨reply, rest, hreads⟩ := Reply.exists_reads r.terminal.keys
  have hask : r.ask question = (reply.answer?, ⟨(r.terminal.ask question).2,
      r.readings ++ [⟨question, r.terminal.keys.take (r.terminal.keys.length - rest.length),
        reply.answer?⟩]⟩) := by
    rw [ask, Terminal.ask, hreads.read_eq]
  have hrest : (r.terminal.ask question).2.keys = rest := by
    rw [Terminal.ask, hreads.read_eq]
  have htake (typed : List Key) (last : Key) :
      (typed ++ last :: rest).take ((typed ++ last :: rest).length - rest.length) =
        typed ++ [last] := by
    rw [← List.singleton_append, ← List.append_assoc, List.length_append, Nat.add_sub_cancel,
      List.take_left]
  rw [hask]
  refine ⟨_, rfl, rfl, ?_⟩
  dsimp only
  rw [hrest]
  generalize r.terminal.keys = keys at hreads
  cases hreads with
  | @answered typed _ last htyped hlast =>
    rw [htake]
    exact ⟨by simp, .inl (.entered htyped hlast)⟩
  | @cancelled typed _ last htyped hlast =>
    rw [htake]
    exact ⟨by simp, .inl (.left htyped hlast)⟩
  | unfinished => exact ⟨by simp, .inr ⟨rfl, rfl⟩⟩

theorem Accounts.ask (h : Accounts keys r) (question : String) :
    Accounts keys (r.ask question).2 := by
  obtain ⟨reading, hreadings, -, hkeys, hcomplete⟩ := exists_ask question r
  refine ⟨?_, fun reading' hmem => ?_⟩
  · rw [h.keys_eq, hkeys, hreadings, List.flatMap_append, List.flatMap_singleton,
      List.append_assoc]
  · rw [hreadings] at hmem
    rcases List.mem_append.1 hmem with hmem | hmem
    · refine (h.complete reading' hmem).imp_right fun hnil => ?_
      rw [hnil] at hkeys
      exact (List.append_eq_nil_iff.1 hkeys.symm).2
    · rw [List.mem_singleton.1 hmem]
      exact hcomplete.imp_right And.left

/-- No key is lost. -/
theorem kept_accounts (keys : List Key) : Host.Kept (Accounts keys) where
  report message r h := by
    have hkeys : (r.terminal.report message).keys = r.terminal.keys :=
      r.terminal.keys_report message
    show Accounts keys { r with terminal := r.terminal.report message }
    refine ⟨?_, ?_⟩ <;> dsimp only <;> rw [hkeys]
    exacts [h.keys_eq, h.complete]
  note _ _ h := h
  confirm question _ h := h.ask (Terminal.confirmQuestion question)
  pick {dialog _} _ h := h.ask (Terminal.pickQuestion dialog)
  pickCommands h := h.ask (Terminal.pickQuestion .loadCommands)

end Recorded

end Turtle

import Mathlib.Tactic.Common
import Turtle.Terminal

/-!
# Prompts

What becomes of the keys that are waiting when a prompt is shown. The prompt takes them in order up
to the first that ends it, Enter or Esc, and leaves the others. Behind Enter the answer is what was
typed; behind Esc there is none, and neither is there if the keys run out.

* `Key.typedText` is what keys type, by the characters and the backspaces among them alone;
* `Reply.Reads` says what a prompt makes of its keys, and `Reply.reads_iff` that it does;
* `Reply.read_filter`: keys that mean nothing may as well be left out;
* `Terminal.fst_confirm_iff`: a question is answered by yes just when a y is typed and entered.
-/

namespace Turtle

namespace Key

/-- Enter, going down. -/
def enters (key : Key) : Bool :=
  key.pressed && key.code == .enter

/-- Esc, going down. -/
def escapes (key : Key) : Bool :=
  key.pressed && key.code == .esc

/-- A key that ends a prompt. -/
def ends (key : Key) : Bool :=
  key.enters || key.escapes

/-- A key that goes down and that something is bound to. -/
def counts (key : Key) : Bool :=
  key.pressed && key.code != .other

/-- What is typed at a prompt behind one more key. -/
def typeInto (typed : List Char) (key : Key) : List Char :=
  if key.pressed then
    match key.code with
    | .char c => typed ++ [c]
    | .backspace => typed.dropLast
    | .enter | .esc | .up | .down | .other => typed
  else typed

/-- What is typed at a prompt by keys. -/
def typedText (keys : List Key) : String :=
  String.ofList (keys.foldl typeInto [])

end Key

namespace Reply

/-- What a prompt makes of keys, and those that it leaves. -/
inductive Reads : List Key → Reply → List Key → Prop
  /-- The prompt ends with Enter. -/
  | answered {typed rest : List Key} {last : Key} (htyped : ∀ key ∈ typed, key.ends = false)
      (hlast : last.enters = true) :
      Reads (typed ++ last :: rest) (.answered (Key.typedText typed)) rest
  /-- The prompt ends with Esc. -/
  | cancelled {typed rest : List Key} {last : Key} (htyped : ∀ key ∈ typed, key.ends = false)
      (hlast : last.escapes = true) : Reads (typed ++ last :: rest) .cancelled rest
  /-- The prompt does not end. -/
  | unfinished {typed : List Key} (htyped : ∀ key ∈ typed, key.ends = false) :
      Reads typed (.unfinished (Key.typedText typed)) []

/-! ## One key -/

section Key

variable {key : Key} (typed : List Char) (keys : List Key)

theorem readFrom_of_enters (h : key.enters = true) :
    readFrom typed.reverse (key :: keys) = (.answered (String.ofList typed), keys) := by
  obtain ⟨hpressed, hcode⟩ := (Bool.and_eq_true _ _).mp h
  rw [readFrom, if_pos hpressed, eq_of_beq hcode, List.reverse_reverse]

theorem readFrom_of_escapes (h : key.escapes = true) :
    readFrom typed.reverse (key :: keys) = (.cancelled, keys) := by
  obtain ⟨hpressed, hcode⟩ := (Bool.and_eq_true _ _).mp h
  rw [readFrom, if_pos hpressed, eq_of_beq hcode]

/-- A key that does not end the prompt types something, or does nothing. -/
theorem readFrom_of_not_ends (h : key.ends = false) :
    readFrom typed.reverse (key :: keys) = readFrom (key.typeInto typed).reverse keys := by
  obtain ⟨code, control, _ | _⟩ := key
  · rfl
  · rw [readFrom, if_pos rfl, Key.typeInto, if_pos rfl]
    cases code with
    | enter | esc => cases h
    | up | down | other => rfl
    | backspace => rw [List.tail_reverse]
    | char c => rw [List.reverse_append]; rfl

end Key

/-! ## All keys -/

/-- Behind keys that do not end it, a prompt goes on with the others. -/
theorem readFrom_append (typed : List Char) {before : List Key} (keys : List Key)
    (hbefore : ∀ key ∈ before, key.ends = false) :
    readFrom typed.reverse (before ++ keys) =
      readFrom (before.foldl Key.typeInto typed).reverse keys := by
  induction before generalizing typed with
  | nil => rfl
  | cons key before ih =>
    obtain ⟨hkey, hbefore⟩ := List.forall_mem_cons.1 hbefore
    rw [List.cons_append, readFrom_of_not_ends _ _ hkey, ih _ hbefore, List.foldl_cons]

theorem Reads.read_eq {keys rest : List Key} {reply : Reply} (h : Reads keys reply rest) :
    read keys = (reply, rest) := by
  cases h with
  | answered htyped hlast =>
    exact (readFrom_append [] _ htyped).trans (readFrom_of_enters _ _ hlast)
  | cancelled htyped hlast =>
    exact (readFrom_append [] _ htyped).trans (readFrom_of_escapes _ _ hlast)
  | unfinished htyped =>
    have hread := readFrom_append [] [] htyped
    rw [List.append_nil] at hread
    rw [read, ← List.reverse_nil, hread, readFrom, List.reverse_reverse]
    rfl

/-- A prompt makes something of all keys. -/
theorem exists_reads (keys : List Key) : ∃ reply rest, Reads keys reply rest := by
  induction keys with
  | nil => exact ⟨_, _, .unfinished (List.forall_mem_nil _)⟩
  | cons key keys ih =>
    cases hends : key.ends with
    | true =>
      rcases (Bool.or_eq_true _ _).mp hends with henters | hescapes
      · exact ⟨_, keys, @Reads.answered [] keys key (List.forall_mem_nil _) henters⟩
      · exact ⟨_, keys, @Reads.cancelled [] keys key (List.forall_mem_nil _) hescapes⟩
    | false =>
      have hcons {typed : List Key} (htyped : ∀ key ∈ typed, key.ends = false) :
          ∀ key' ∈ key :: typed, key'.ends = false := List.forall_mem_cons.2 ⟨hends, htyped⟩
      obtain ⟨reply, rest, hreads⟩ := ih
      cases hreads with
      | @answered typed _ last htyped hlast =>
        exact ⟨_, rest, @Reads.answered (key :: typed) rest last (hcons htyped) hlast⟩
      | @cancelled typed _ last htyped hlast =>
        exact ⟨_, rest, @Reads.cancelled (key :: typed) rest last (hcons htyped) hlast⟩
      | unfinished htyped => exact ⟨_, _, .unfinished (hcons htyped)⟩

theorem reads_iff {keys rest : List Key} {reply : Reply} :
    Reads keys reply rest ↔ read keys = (reply, rest) := by
  refine ⟨Reads.read_eq, fun hread => ?_⟩
  obtain ⟨reply', rest', hreads⟩ := exists_reads keys
  cases hreads.read_eq.symm.trans hread
  exact hreads

/-- Without the keys that mean nothing, a prompt makes the same of its keys. -/
theorem readFrom_filter (typed : List Char) (keys : List Key) :
    readFrom typed (keys.filter Key.counts) =
      ((readFrom typed keys).1, (readFrom typed keys).2.filter Key.counts) := by
  induction keys generalizing typed with
  | nil => rfl
  | cons key keys ih =>
    obtain ⟨code, control, _ | _⟩ := key
    · exact ih typed
    · cases code with
      | enter | esc => rfl
      | backspace => exact ih typed.tail
      | char c => exact ih (c :: typed)
      | up | down | other => exact ih typed

theorem read_filter (keys : List Key) :
    read (keys.filter Key.counts) = ((read keys).1, (read keys).2.filter Key.counts) :=
  readFrom_filter [] keys

end Reply

/-! ## Answers -/

/-- The two characters that are a small `y` in lower case. -/
theorem toLower_eq_y_iff {c : Char} : c.toLower = 'y' ↔ c = 'y' ∨ c = 'Y' := by
  constructor
  · intro h
    by_cases hupper : c.val ≥ 'A'.val ∧ c.val ≤ 'Z'.val
    · have hlower : c.toLower = _ := dif_pos hupper
      have hval : c.val + ('a'.val - 'A'.val) = 'Y'.val + ('a'.val - 'A'.val) :=
        congrArg Char.val (hlower.symm.trans h)
      exact .inr (Char.ext ((UInt32.add_left_inj _).1 hval))
    · have hlower : c.toLower = c := dif_neg hupper
      exact .inl (hlower.symm.trans h)
  · rintro (rfl | rfl) <;> rfl

namespace Terminal

/-- Only a y means yes, small or capital, with blanks around it or without. -/
theorem isYes_iff {answer : String} :
    isYes answer = true ↔ Text.trimmed answer = "y" ∨ Text.trimmed answer = "Y" := by
  have hofList (s : String) (c : Char) : s = String.ofList [c] ↔ s.toList = [c] := by
    rw [← String.toList_inj, String.toList_ofList]
  have hy : ("y" : String) = String.ofList ['y'] := rfl
  have hY : ("Y" : String) = String.ofList ['Y'] := rfl
  rw [isYes, beq_iff_eq, Text.asciiLower, hy, hY, String.ofList_inj, hofList, hofList]
  rcases (Text.trimmed answer).toList with _ | ⟨c, _ | ⟨d, rest⟩⟩
  · simp
  · simp [toLower_eq_y_iff]
  · simp

/-- A question is answered by yes just when a y is typed and entered. -/
theorem fst_confirm_iff {question : String} {t : Terminal} :
    (t.confirm question).1 = true ↔ ∃ answer rest, Reply.Reads t.keys (.answered answer) rest ∧
      (Text.trimmed answer = "y" ∨ Text.trimmed answer = "Y") := by
  obtain ⟨reply, rest, hreads⟩ := Reply.exists_reads t.keys
  have hconfirm : (t.confirm question).1 = reply.answer?.any isYes := by
    rw [confirm, ask, hreads.read_eq]
  have honly {answer : String} {rest' : List Key}
      (h : Reply.Reads t.keys (.answered answer) rest') : reply = .answered answer :=
    congrArg Prod.fst (hreads.read_eq.symm.trans h.read_eq)
  rw [hconfirm]
  constructor
  · intro hyes
    cases reply with
    | answered answer => exact ⟨answer, rest, hreads, isYes_iff.1 hyes⟩
    | cancelled => cases hyes
    | unfinished typed => cases hyes
  · rintro ⟨answer, rest', hanswer, hyes⟩
    rw [honly hanswer]
    exact isYes_iff.2 hyes

end Terminal

end Turtle

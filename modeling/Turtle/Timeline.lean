import Turtle.Primitive

/-!
# The timeline

The command log and what has been undone, as one line of primitives with a cursor in it: behind
the cursor lies the log, before it what can be redone. Adding a primitive cuts off everything
before the cursor, except while primitives are played again.

Undoing and redoing take two steps each, for the drawing is played again in between. `beginUndo?`
moves the newest entry over the cursor and hands out the rest of the log, which has to be pushed
again; `beginRedo?` hands out the next entry to push; `endReplay` ends either.
-/

namespace Turtle

/-- A line of primitives with a cursor in it. -/
structure Timeline where
  /-- What lies behind the cursor, the newest first. -/
  past : List Primitive := []
  /-- What lies before the cursor, the next to redo first. -/
  future : List Primitive := []
  /-- Primitives are being played again. -/
  replaying : Bool := false
  deriving DecidableEq, Repr

namespace Timeline

/-- The log: what has been drawn, in order. -/
def entries (t : Timeline) : List Primitive :=
  t.past.reverse

/-- The number of entries in the log. -/
def size (t : Timeline) : Nat :=
  t.past.length

/-- The whole line, whatever the cursor. -/
def line (t : Timeline) : List Primitive :=
  t.entries ++ t.future

/-- Adds a primitive behind the cursor. -/
def push (t : Timeline) (p : Primitive) : Timeline :=
  { t with past := p :: t.past, future := if t.replaying then t.future else [] }

/-- Takes the newest entry back. The log is handed out and empty until it is pushed again. -/
def beginUndo? (t : Timeline) : Option (List Primitive × Timeline) :=
  match t.past with
  | [] => none
  | p :: rest => some (rest.reverse, { past := [], future := p :: t.future, replaying := true })

/-- Hands out the primitive that was taken back last. -/
def beginRedo? (t : Timeline) : Option (Primitive × Timeline) :=
  match t.future with
  | [] => none
  | p :: rest => some (p, { t with future := rest, replaying := true })

/-- Ends playing again. -/
def endReplay (t : Timeline) : Timeline :=
  { t with replaying := false }

/-! ## The log after each operation -/

@[simp]
theorem entries_push (t : Timeline) (p : Primitive) : (t.push p).entries = t.entries ++ [p] := by
  simp [entries, push]

@[simp]
theorem entries_endReplay (t : Timeline) : t.endReplay.entries = t.entries := rfl

theorem size_eq_length_entries (t : Timeline) : t.size = t.entries.length := by
  simp [size, entries]

/-- Pushing while playing again keeps what can be redone. -/
theorem future_push_of_replaying {t : Timeline} (h : t.replaying = true) (p : Primitive) :
    (t.push p).future = t.future := by
  simp [push, h]

/-- Pushing otherwise leaves nothing to redo. -/
theorem future_push_of_not_replaying {t : Timeline} (h : t.replaying = false) (p : Primitive) :
    (t.push p).future = [] := by
  simp [push, h]

end Timeline

end Turtle

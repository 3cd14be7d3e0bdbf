import Turtle.Json.Token

/-!
# Reading JSON

The second half of reading JSON: putting tokens together. The containers that are still open are
kept on a stack, so values may nest to any depth, and the reader takes one token at a time.
-/

namespace Turtle.Json

/-- A container that is still open, with what it holds so far, the last item first. -/
inductive Open where
  | array (items : List Json)
  | object (members : List (Bytes × Json)) (key : Bytes)

/-- What the reader is waiting for. -/
inductive Awaiting where
  /-- A value, or also the end of the array if it has just been opened. -/
  | value (opened : Bool)
  /-- A key of an object, or also its end if it has just been opened. -/
  | key (members : List (Bytes × Json)) (opened : Bool)
  /-- The colon behind a key. -/
  | colon (members : List (Bytes × Json)) (key : Bytes)
  /-- What follows a value: a comma or the end of the container. -/
  | next (value : Json)

/-- The state of the reader. -/
structure Reader where
  stack : List Open
  awaiting : Awaiting

namespace Reader

/-- The reader before the first token. -/
def start : Reader := ⟨[], .value false⟩

/-- A token where a value is awaited. -/
def onValue (stack : List Open) (opened : Bool) : Token → Option Reader
  | .scalar v => some ⟨stack, .next v⟩
  | .openArray => some ⟨.array [] :: stack, .value true⟩
  | .openObject => some ⟨stack, .key [] true⟩
  | .closeArray =>
    match opened, stack with
    | true, .array items :: rest => some ⟨rest, .next (.array items.reverse)⟩
    | _, _ => none
  | .closeObject | .comma | .colon => none

/-- A token behind a value. -/
def onNext (stack : List Open) (value : Json) (token : Token) : Option Reader :=
  match stack, token with
  | .array items :: rest, .comma => some ⟨.array (value :: items) :: rest, .value false⟩
  | .array items :: rest, .closeArray => some ⟨rest, .next (.array (value :: items).reverse)⟩
  | .object members key :: rest, .comma => some ⟨rest, .key ((key, value) :: members) false⟩
  | .object members key :: rest, .closeObject =>
    some ⟨rest, .next (.object ((key, value) :: members).reverse)⟩
  | _, _ => none

/-- Takes one token. -/
def step (r : Reader) (token : Token) : Option Reader :=
  match r.awaiting, token with
  | .value opened, token => onValue r.stack opened token
  | .key members _, .scalar (.string key) => some ⟨r.stack, .colon members key⟩
  | .key members true, .closeObject => some ⟨r.stack, .next (.object members.reverse)⟩
  | .key _ _, _ => none
  | .colon members key, .colon => some ⟨.object members key :: r.stack, .value false⟩
  | .colon _ _, _ => none
  | .next value, token => onNext r.stack value token

/-- The value of a text that has ended. -/
def finish? (r : Reader) : Option Json :=
  match r.stack, r.awaiting with
  | [], .next value => some value
  | _, _ => none

end Reader

/-- The value that bytes spell: one value and nothing else. -/
def parse? (bytes : Bytes) : Option Json := do
  let tokens ← Lexer.tokens? bytes
  (← tokens.foldlM Reader.step Reader.start).finish?

end Turtle.Json

import Turtle.Json

/-!
# JSON tokens

The first half of reading JSON: cutting bytes into tokens. `Lexer.step` takes one byte at a time
and remembers the token it is in, so a text is read in one pass however deep its values nest.
-/

namespace Turtle.Json

/-- A word of the notation. -/
inductive Token where
  | openArray
  | closeArray
  | openObject
  | closeObject
  | comma
  | colon
  | scalar (value : Json)

/-- The token that the lexer is in, with its bytes so far, the last one first. -/
inductive Lexer.Mode where
  | between
  | bare (seen : Bytes)
  | string (seen : Bytes)
  /-- In a string, behind a backslash. -/
  | escape (seen : Bytes)
  /-- In a string, behind `\u`, with some digits still to come. -/
  | hex (seen : Bytes) (missing : Nat)

/-- The state of the lexer: the tokens so far, the last one first, and the one it is in. -/
structure Lexer where
  tokens : List Token
  mode : Lexer.Mode

namespace Lexer

/-- The bytes that names and numbers consist of. -/
def isBare (b : UInt8) : Bool :=
  let c := Char.ofNat b.toNat
  c.isAlphanum || c == '-' || c == '+' || c == '.'

/-- The bytes between tokens. -/
def isSpace (b : UInt8) : Bool :=
  b == 0x20 || b == 0x0A || b == 0x0D || b == 0x09

/-- The value that a word without quotes names. -/
def bareValue? (word : Bytes) : Option Json :=
  let s := word.map fun b => Char.ofNat b.toNat
  if s = "null".toList then some .null
  else if s = "true".toList then some (.bool true)
  else if s = "false".toList then some (.bool false)
  else (Numeral.read? s).map .number

/-- A byte outside words and strings. -/
def beginToken? (tokens : List Token) (b : UInt8) : Option Lexer :=
  if isSpace b then some ⟨tokens, .between⟩
  else if isBare b then some ⟨tokens, .bare [b]⟩
  else match Char.ofNat b.toNat with
    | '[' => some ⟨.openArray :: tokens, .between⟩
    | ']' => some ⟨.closeArray :: tokens, .between⟩
    | '\x7b' => some ⟨.openObject :: tokens, .between⟩
    | '\x7d' => some ⟨.closeObject :: tokens, .between⟩
    | ',' => some ⟨.comma :: tokens, .between⟩
    | ':' => some ⟨.colon :: tokens, .between⟩
    | '"' => some ⟨tokens, .string []⟩
    | _ => none

/-- The tokens behind a word that has ended. -/
def endBare? (tokens : List Token) (seen : Bytes) : Option (List Token) :=
  (bareValue? seen.reverse).map fun v => .scalar v :: tokens

/-- Takes one byte. -/
def step (s : Lexer) (b : UInt8) : Option Lexer :=
  match s.mode with
  | .between => beginToken? s.tokens b
  | .bare seen =>
    if isBare b then some { s with mode := .bare (b :: seen) }
    else (endBare? s.tokens seen).bind fun tokens => beginToken? tokens b
  | .string seen =>
    if b == 0x22 then some ⟨.scalar (.string seen.reverse) :: s.tokens, .between⟩
    else if b == 0x5C then some { s with mode := .escape (b :: seen) }
    else if b < 0x20 then none
    else some { s with mode := .string (b :: seen) }
  | .escape seen =>
    if b == 0x75 then some { s with mode := .hex (b :: seen) 3 }
    else if (escapedByte? b).isSome then some { s with mode := .string (b :: seen) }
    else none
  | .hex seen missing =>
    if (hexDigit? b).isNone then none
    else match missing with
      | 0 => some { s with mode := .string (b :: seen) }
      | missing + 1 => some { s with mode := .hex (b :: seen) missing }

/-- The tokens of a text that has ended. -/
def finish? (s : Lexer) : Option (List Token) :=
  match s.mode with
  | .between => some s.tokens.reverse
  | .bare seen => (endBare? s.tokens seen).map List.reverse
  | .string _ | .escape _ | .hex _ _ => none

/-- The tokens of bytes. -/
def tokens? (bytes : Bytes) : Option (List Token) :=
  (bytes.foldlM step ⟨[], .between⟩).bind finish?

end Lexer

end Turtle.Json

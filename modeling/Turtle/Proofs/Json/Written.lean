import Mathlib.Data.List.Basic
import Mathlib.Data.List.Forall2
import Mathlib.Data.List.TakeDrop
import Mathlib.Data.List.TakeWhile
import Mathlib.Tactic.Common
import Turtle.Json.Parser
import Turtle.Json.Pretty

/-!
# JSON that is written

A value that is written can be read again, however deep its parts lie and whatever blanks and line
feeds stand between them. The numerals in it are read as whatever their texts spell; everything
else is read as itself.

* `Lexer.Cuts` says of bytes which tokens they are cut into, and `Reader.Builds` of tokens which
  value they are put together to;
* `ReadAs` says of a value what its text is read as: `ReadAs.number` of a number, `ReadAs.array` of
  an array of values of which it is known, and so on;
* `parse?_write`: that is what the bytes of the value spell.
-/

namespace Turtle

/-! ## Numerals -/

namespace Numeral

/-- A character that stands in numerals. -/
def isPart (c : Char) : Bool :=
  c.isDigit || c == '-' || c == '+' || c == '.' || c == 'e' || c == 'E'

theorem isPart_of_isDigit {c : Char} (h : c.isDigit = true) : isPart c = true := by
  simp [isPart, h]

theorem toNat_of_isPart {c : Char} (h : isPart c = true) : c.toNat < 128 := by
  simp only [isPart, Bool.or_eq_true, beq_iff_eq] at h
  rcases h with ((((h | rfl) | rfl) | rfl) | rfl) | rfl
  · have hdigit : 48 ≤ c.toNat ∧ c.toNat ≤ 57 := Char.isDigit_iff_toNat.1 h
    omega
  all_goals decide

theorem takeDigits?_eq_some {s ds rest : List Char} (h : takeDigits? s = some (ds, rest)) :
    ds ≠ [] ∧ s = ds ++ rest ∧ ∀ c ∈ ds, isPart c = true := by
  rw [takeDigits?, List.span_eq_takeWhile_dropWhile] at h
  split at h
  · cases h
  · next hne heq =>
    cases h
    obtain ⟨hds, hrest⟩ := Prod.mk.inj heq
    refine ⟨hne, ?_, fun c hc => ?_⟩
    · rw [← hds, ← hrest, List.takeWhile_append_dropWhile]
    · rw [← hds] at hc
      exact isPart_of_isDigit (List.all_eq_true.1 List.all_takeWhile c hc)

theorem isPart_of_takeFraction? {s rest : List Char} {fraction : Option (List Char)}
    (h : takeFraction? s = some (fraction, rest)) (hrest : ∀ c ∈ rest, isPart c = true) :
    ∀ c ∈ s, isPart c = true := by
  unfold takeFraction? at h
  split at h
  · obtain ⟨⟨ds, rest'⟩, hdigits, heq⟩ := Option.map_eq_some_iff.1 h
    obtain ⟨-, rfl⟩ := Prod.mk.inj heq
    obtain ⟨-, rfl, hds⟩ := takeDigits?_eq_some hdigits
    simp only [List.mem_cons, List.mem_append]
    rintro c (rfl | hc | hc)
    exacts [rfl, hds c hc, hrest c hc]
  · cases h
    exact hrest

theorem isPart_of_readExponent? {s : List Char} {e : Int} (h : readExponent? s = some e) :
    ∀ c ∈ s, isPart c = true := by
  unfold readExponent? at h
  dsimp only at h
  split at h
  · next ds hdigits =>
    obtain ⟨-, hs, hds⟩ := takeDigits?_eq_some hdigits
    rw [List.append_nil] at hs
    -- The sign in front of the digits is one of the characters, if there is one.
    split at hs
    · obtain rfl : _ = ds := hs
      simpa using ⟨by decide, hds⟩
    · obtain rfl : _ = ds := hs
      simpa using ⟨by decide, hds⟩
    · obtain rfl : s = ds := hs
      exact hds
  · cases h

theorem isPart_of_takeExponent? {s : List Char} {exponent : Option Int}
    (h : takeExponent? s = some exponent) : ∀ c ∈ s, isPart c = true := by
  unfold takeExponent? at h
  split at h
  · simp
  · next c s =>
    split at h
    · next hc =>
      obtain ⟨e, he, -⟩ := Option.map_eq_some_iff.1 h
      have hpart : isPart c = true := by
        rcases hc with rfl | rfl <;> decide
      simpa [hpart] using isPart_of_readExponent? he
    · cases h

theorem isPart_of_readUnsigned? {negative : Bool} {s : List Char} {n : Numeral}
    (h : readUnsigned? negative s = some n) : s ≠ [] ∧ ∀ c ∈ s, isPart c = true := by
  obtain ⟨⟨whole, rest⟩, hwhole, h⟩ := Option.bind_eq_some_iff.1 h
  obtain ⟨-, -, h⟩ := Option.bind_eq_some_iff.1 h
  obtain ⟨⟨fraction, rest'⟩, hfraction, h⟩ := Option.bind_eq_some_iff.1 h
  obtain ⟨exponent, hexponent, -⟩ := Option.bind_eq_some_iff.1 h
  obtain ⟨hne, rfl, hds⟩ := takeDigits?_eq_some hwhole
  have hrest := isPart_of_takeFraction? hfraction (isPart_of_takeExponent? hexponent)
  refine ⟨by simp [hne], fun c hc => ?_⟩
  rcases List.mem_append.1 hc with hc | hc
  exacts [hds c hc, hrest c hc]

/-- A text that is read as a numeral is not empty, and has the characters of numerals only. -/
theorem isPart_of_read? {s : List Char} {n : Numeral} (h : read? s = some n) :
    s ≠ [] ∧ ∀ c ∈ s, isPart c = true := by
  unfold read? at h
  split at h
  · obtain ⟨-, hs⟩ := isPart_of_readUnsigned? h
    refine ⟨by simp, ?_⟩
    simpa using ⟨by decide, hs⟩
  · exact isPart_of_readUnsigned? h

/-! ### Natural numbers -/

/-- A number that is not zero does not begin with a zero. -/
theorem exists_writeNat_eq_cons {n : Nat} (h : 0 < n) :
    ∃ c s, writeNat n = c :: s ∧ c ≠ '0' := by
  induction n using Nat.strongRecOn with
  | ind n ih =>
    by_cases hn : n < 10
    · have hdigit : ∀ d : Fin 10, 0 < d.val → d.val.digitChar ≠ '0' := by decide
      exact ⟨n.digitChar, [], writeNat_of_lt_ten hn, hdigit ⟨n, hn⟩ h⟩
    · obtain ⟨c, s, hs, hc⟩ := ih (n / 10) (by omega) (by omega)
      refine ⟨c, s ++ [(n % 10).digitChar], ?_, hc⟩
      rw [writeNat_of_ten_le (by omega), hs, List.cons_append]

theorem plainWhole_writeNat (n : Nat) : plainWhole (writeNat n) = true := by
  rcases Nat.eq_zero_or_pos n with rfl | hn
  · rfl
  · obtain ⟨c, s, hs, hc⟩ := exists_writeNat_eq_cons hn
    rw [hs]
    unfold plainWhole
    split
    · rfl
    · next heq => exact absurd (List.cons.inj heq).1 hc
    · rfl

theorem takeDigits?_writeNat (n : Nat) : takeDigits? (writeNat n) = some (writeNat n, []) := by
  have hall := fun c => isDigit_of_mem_writeNat (n := n) (c := c)
  have hne : writeNat n ≠ [] := Nat.toDigits_ne_nil
  rw [takeDigits?, List.span_eq_takeWhile_dropWhile, List.takeWhile_eq_self_iff.2 hall,
    List.dropWhile_eq_nil_iff.2 hall]
  generalize writeNat n = s at hne ⊢
  cases s with
  | nil => exact absurd rfl hne
  | cons c s => rfl

/-- The numeral of a natural number is read back as it is. -/
theorem read?_write_ofNat (n : Nat) : read? (ofNat n).write = some (ofNat n) := by
  have hwrite : (ofNat n).write = writeNat n := by simp [write, ofNat, writeNat]
  have hunsigned : readUnsigned? false (writeNat n) = some (ofNat n) := by
    have hplain : (guard (plainWhole (writeNat n) = true) : Option Unit) = some () :=
      if_pos (plainWhole_writeNat n)
    rw [readUnsigned?, takeDigits?_writeNat]
    show (guard (plainWhole (writeNat n) = true) : Option Unit).bind _ = _
    rw [hplain]
    rfl
  rw [hwrite]
  unfold read?
  split
  · next heq =>
    have hminus : '-' ∈ writeNat n := heq ▸ List.mem_cons_self
    exact absurd (isDigit_of_mem_writeNat hminus) (by decide)
  · exact hunsigned

theorem natural?_ofNat (n : Nat) : (ofNat n).natural? = some n := by
  have hvalue := readDigits?_writeNat n
  rw [readDigits?] at hvalue
  split at hvalue
  · exact hvalue
  · cases hvalue

end Numeral

namespace Json

/-! ## Tokens -/

namespace Lexer

theorem isSpace_of_isBare {b : UInt8} (h : isBare b = true) : isSpace b = false := by
  by_contra hspace
  simp only [isSpace, Bool.or_eq_true, beq_iff_eq, Bool.not_eq_false] at hspace
  rcases hspace with ((rfl | rfl) | rfl) | rfl <;> exact absurd h (by decide)

/-- The tokens are those behind the bytes so far: a word that is not at its end yet ends with the
    next byte, unless that goes on with it. -/
structure Behind (s : Lexer) (tokens : List Token) : Prop where
  next : ∀ b, isBare b = false → s.step b = beginToken? tokens b
  finish : s.finish? = some tokens.reverse

theorem behind_between (tokens : List Token) : Behind ⟨tokens, .between⟩ tokens :=
  ⟨fun _ _ => rfl, rfl⟩

theorem behind_bare (tokens : List Token) {seen : Bytes} {v : Json}
    (h : bareValue? seen.reverse = some v) : Behind ⟨tokens, .bare seen⟩ (.scalar v :: tokens) := by
  refine ⟨fun b hb => ?_, ?_⟩
  · simp [step, hb, endBare?, h]
  · simp [finish?, endBare?, h]

/-- Bytes that all belong to the same token are kept with it. -/
theorem foldlM_within {mode : Bytes → Mode} {tokens : List Token} {bytes : Bytes}
    (h : ∀ b ∈ bytes, ∀ seen, step ⟨tokens, mode seen⟩ b = some ⟨tokens, mode (b :: seen)⟩)
    (seen : Bytes) :
    bytes.foldlM step ⟨tokens, mode seen⟩ = some ⟨tokens, mode (bytes.reverse ++ seen)⟩ := by
  induction bytes generalizing seen with
  | nil => rfl
  | cons b bytes ih =>
    obtain ⟨hb, hbytes⟩ := List.forall_mem_cons.1 h
    rw [List.foldlM_cons, hb]
    simpa using ih hbytes (b :: seen)

/-- Bytes that begin with one that is not part of a word do not go on with one. -/
theorem Behind.foldlM_eq {s : Lexer} {tokens : List Token} (h : s.Behind tokens) {b : UInt8}
    (hb : isBare b = false) (bytes : Bytes) :
    (b :: bytes).foldlM step s = (b :: bytes).foldlM step ⟨tokens, .between⟩ := by
  rw [List.foldlM_cons, List.foldlM_cons, h.next b hb]
  rfl

/-- The bytes are cut into these tokens. -/
def Cuts (bytes : Bytes) (new : List Token) : Prop :=
  ∀ tokens, ∃ s, bytes.foldlM step ⟨tokens, .between⟩ = some s ∧
    s.Behind (new.reverse ++ tokens)

/-- The bytes are cut into these tokens, and do not end in a word that might go on. -/
def Closes (bytes : Bytes) (new : List Token) : Prop :=
  ∀ tokens, bytes.foldlM step ⟨tokens, .between⟩ = some ⟨new.reverse ++ tokens, .between⟩

/-- The bytes begin with one that is not part of a word. -/
def Parts (bytes : Bytes) : Prop :=
  ∃ b rest, bytes = b :: rest ∧ isBare b = false

section Joining

variable {a b : Bytes} {new new' : List Token}

theorem Closes.cuts (h : Closes a new) : Cuts a new :=
  fun tokens => ⟨_, h tokens, behind_between _⟩

theorem Closes.append (h : Closes a new) (h' : Closes b new') : Closes (a ++ b) (new ++ new') := by
  intro tokens
  rw [List.foldlM_append, h tokens]
  simpa using h' (new.reverse ++ tokens)

theorem Closes.append_cuts (h : Closes a new) (h' : Cuts b new') : Cuts (a ++ b) (new ++ new') := by
  intro tokens
  rw [List.foldlM_append, h tokens]
  simpa using h' (new.reverse ++ tokens)

/-- What stands behind a word, and is not part of it, is read as if it stood alone. -/
theorem Cuts.foldlM_append (h : Cuts a new) (hb : Parts b) (tokens : List Token) :
    (a ++ b).foldlM step ⟨tokens, .between⟩ =
      b.foldlM step ⟨new.reverse ++ tokens, .between⟩ := by
  obtain ⟨s, hs, hbehind⟩ := h tokens
  obtain ⟨c, rest, rfl, hc⟩ := hb
  rw [List.foldlM_append, hs]
  exact hbehind.foldlM_eq hc rest

theorem Cuts.append (h : Cuts a new) (hb : Parts b) (h' : Cuts b new') :
    Cuts (a ++ b) (new ++ new') := by
  intro tokens
  rw [h.foldlM_append hb]
  simpa using h' (new.reverse ++ tokens)

theorem Cuts.append_closes (h : Cuts a new) (hb : Parts b) (h' : Closes b new') :
    Closes (a ++ b) (new ++ new') := by
  intro tokens
  rw [h.foldlM_append hb]
  simpa using h' (new.reverse ++ tokens)

end Joining

/-! ### Words -/

theorem ofNat_toNat_ofNat {c : Char} (h : c.toNat < 128) :
    Char.ofNat (UInt8.ofNat c.toNat).toNat = c := by
  have hbyte : c.toNat < UInt8.size := Nat.lt_trans h (by decide)
  rw [UInt8.toNat_ofNat_of_lt' hbyte, Char.ofNat_toNat]

/-- The byte of a character of numerals is one that words consist of. -/
theorem isBare_of_isPart {c : Char} (h : Numeral.isPart c = true) :
    isBare (UInt8.ofNat c.toNat) = true := by
  rw [isBare, ofNat_toNat_ofNat (Numeral.toNat_of_isPart h)]
  simp only [Numeral.isPart, Bool.or_eq_true, beq_iff_eq] at h
  rcases h with ((((h | rfl) | rfl) | rfl) | rfl) | rfl
  · simp [Char.isAlphanum, h]
  all_goals decide

/-- Characters that are one byte each. -/
theorem encode_of_ascii {cs : List Char} (h : ∀ c ∈ cs, c.toNat < 128) :
    Text.encode (String.ofList cs) = cs.map fun c => UInt8.ofNat c.toNat := by
  have hbytes : Text.encode (String.ofList cs) = cs.flatMap String.utf8EncodeChar := by
    simp [Text.encode, String.toUTF8, List.utf8Encode]
  rw [hbytes, List.map_eq_flatMap]
  refine List.flatMap_congr fun c hc => String.utf8EncodeChar_eq_singleton ?_
  rw [Char.utf8Size_eq_one_iff, UInt32.le_iff_toNat_le]
  exact Nat.le_of_lt_succ (h c hc)

/-- A word is one token. -/
theorem cuts_bare {word : Bytes} {v : Json} (hne : word ≠ []) (h : ∀ b ∈ word, isBare b = true)
    (hv : bareValue? word = some v) : Cuts word [.scalar v] := by
  intro tokens
  obtain ⟨b, bytes, rfl⟩ := List.exists_cons_of_ne_nil hne
  obtain ⟨hb, hbytes⟩ := List.forall_mem_cons.1 h
  have hbegin : step ⟨tokens, .between⟩ b = some ⟨tokens, .bare [b]⟩ := by
    simp [step, beginToken?, hb, isSpace_of_isBare hb]
  have hrest (c : UInt8) (hc : c ∈ bytes) (seen : Bytes) :
      step ⟨tokens, .bare seen⟩ c = some ⟨tokens, .bare (c :: seen)⟩ := by
    simp [step, hbytes c hc]
  refine ⟨⟨tokens, .bare (bytes.reverse ++ [b])⟩, ?_, behind_bare tokens (by simpa using hv)⟩
  rw [List.foldlM_cons, hbegin]
  exact foldlM_within hrest [b]

/-- A numeral is one token: the number that its text spells. -/
theorem cuts_numeral {cs : List Char} {m : Numeral} (h : Numeral.read? cs = some m) :
    Cuts (Text.encode (String.ofList cs)) [.scalar (.number m)] := by
  obtain ⟨hne, hparts⟩ := Numeral.isPart_of_read? h
  have hascii (c : Char) (hc : c ∈ cs) : c.toNat < 128 := Numeral.toNat_of_isPart (hparts c hc)
  have hword : (cs.map fun c => UInt8.ofNat c.toNat).map (fun b => Char.ofNat b.toNat) = cs := by
    rw [List.map_map]
    exact (List.map_congr_left fun c hc => ofNat_toNat_ofNat (hascii c hc)).trans (List.map_id cs)
  -- None of the three names has the characters of numerals only.
  have hname {name : List Char} (hn : name.all Numeral.isPart = false) : cs ≠ name := by
    rintro rfl
    rw [List.all_eq_true.2 hparts] at hn
    cases hn
  rw [encode_of_ascii hascii]
  refine cuts_bare (by simpa using hne) ?_ ?_
  · intro b hb
    obtain ⟨c, hc, rfl⟩ := List.mem_map.1 hb
    exact isBare_of_isPart (hparts c hc)
  · rw [bareValue?, hword, if_neg (hname (by decide)), if_neg (hname (by decide)),
      if_neg (hname (by decide)), h]
    rfl

/-! ### Strings and containers -/

/-- The bytes of a string all stand for themselves. -/
def IsPlain (raw : Bytes) : Prop :=
  ∀ b ∈ raw, b ≠ 0x22 ∧ b ≠ 0x5C ∧ 0x20 ≤ b

instance (raw : Bytes) : Decidable (IsPlain raw) :=
  List.decidableBAll _ raw

theorem closes_quoted {raw : Bytes} (h : IsPlain raw) :
    Closes (quoted raw) [.scalar (.string raw)] := by
  intro tokens
  have hopen : step ⟨tokens, .between⟩ 0x22 = some ⟨tokens, .string []⟩ := rfl
  have hraw (b : UInt8) (hb : b ∈ raw) (seen : Bytes) :
      step ⟨tokens, .string seen⟩ b = some ⟨tokens, .string (b :: seen)⟩ := by
    obtain ⟨hquote, hbackslash, hcontrol⟩ := h b hb
    simp [step, hquote, hbackslash, UInt8.not_lt.2 hcontrol]
  rw [quoted, List.cons_append, List.foldlM_cons, hopen]
  change (raw ++ [0x22]).foldlM step ⟨tokens, .string []⟩ = _
  rw [List.foldlM_append, foldlM_within hraw]
  simp [step]

theorem closes_newline (depth : Nat) : Closes (newline depth) [] := by
  have hblanks (n : Nat) : Closes (List.replicate n 0x20) [] := by
    induction n with
    | zero => exact fun _ => rfl
    | succ n ih => exact fun tokens => ih tokens
  exact fun tokens => hblanks (2 * depth) tokens

theorem parts_newline_append (depth : Nat) (bytes : Bytes) : Parts (newline depth ++ bytes) :=
  ⟨0x0A, List.replicate (2 * depth) 0x20 ++ bytes, rfl, by decide⟩

/-- Entries on lines of their own, with commas between them. -/
theorem cuts_entries {entries : List Bytes} {tokens : List (List Token)}
    (h : List.Forall₂ Cuts entries tokens) (depth : Nat) :
    Cuts ((entries.map (newline depth ++ ·)).intersperse [0x2C]).flatten
      (tokens.intersperse [.comma]).flatten := by
  induction h with
  | nil => exact fun tokens => ⟨_, rfl, behind_between _⟩
  | @cons entry new entries tokens hentry h ih =>
    have hline : Cuts (newline depth ++ entry) new := (closes_newline depth).append_cuts hentry
    rcases h with _ | ⟨hentry', h⟩
    · simpa using hline
    · have hcomma : Closes [0x2C] [.comma] := fun _ => rfl
      simp only [List.map_cons, List.intersperse_cons_cons, List.flatten_cons] at ih ⊢
      exact hline.append ⟨0x2C, _, rfl, by decide⟩ (hcomma.append_cuts ih)

/-- A container: the tokens of its entries, with commas between them and brackets around them. -/
theorem closes_bracketed {opening closing : UInt8} {first last : Token} {entries : List Bytes}
    {tokens : List (List Token)} (hopening : Closes [opening] [first])
    (hclosing : Closes [closing] [last]) (h : List.Forall₂ Cuts entries tokens) (depth : Nat) :
    Closes (bracketed depth opening closing entries)
      (first :: (tokens.intersperse [.comma]).flatten ++ [last]) := by
  have hentries := cuts_entries h (depth + 1)
  rcases h with _ | ⟨hentry, h⟩
  · exact hopening.append hclosing
  · have hend := (closes_newline depth).append hclosing
    have hall := hopening.append (hentries.append_closes (parts_newline_append depth _) hend)
    simpa [bracketed] using hall

end Lexer

/-- A string without backslashes spells its own bytes. -/
theorem unescape_of_isPlain {raw : Bytes} (h : Lexer.IsPlain raw) : unescape raw = some raw := by
  induction raw with
  | nil => rw [unescape]
  | cons b raw ih =>
    obtain ⟨⟨-, hbackslash, -⟩, hraw⟩ := List.forall_mem_cons.1 h
    have htail := ih hraw
    unfold unescape
    -- All cases but the first and the last begin with a backslash.
    split
    · next heq => cases heq
    iterate 4
      · next heq => exact absurd (List.cons.inj heq).1 hbackslash
    · next heq =>
      obtain ⟨rfl, rfl⟩ := List.cons.inj heq
      rw [htail]
      rfl

/-- A text in plain bytes is what the string of those bytes spells. -/
theorem decodeString?_encode {s : String} (h : Lexer.IsPlain (Text.encode s)) :
    decodeString? (Text.encode s) = some s := by
  rw [decodeString?, unescape_of_isPlain h]
  exact Text.decode?_encode s

/-! ## Values -/

namespace Reader

/-- The tokens are put together to this value, wherever one is awaited. -/
def Builds (tokens : List Token) (v : Json) : Prop :=
  ∀ stack opened, tokens.foldlM step ⟨stack, .value opened⟩ = some ⟨stack, .next v⟩

theorem builds_scalar (v : Json) : Builds [.scalar v] v :=
  fun _ _ => rfl

/-- The tokens of entries with commas between them and a bracket behind them: the entries are kept
    one by one, and put into the container with the bracket. -/
theorem foldlM_entries {β : Type} (entering : Bool → List β → Reader)
    (behind : List β → β → Reader) (finished : List β → Reader) (last : Token)
    (hcomma : ∀ kept x, step (behind kept x) .comma = some (entering false (x :: kept)))
    (hlast : ∀ kept x, step (behind kept x) last = some (finished (x :: kept)))
    {tokens : List (List Token)} {entries : List β}
    (h : List.Forall₂ (fun new x => ∀ opened kept,
      new.foldlM step (entering opened kept) = some (behind kept x)) tokens entries)
    (hne : entries ≠ []) (opened : Bool) (kept : List β) :
    ((tokens.intersperse [.comma]).flatten ++ [last]).foldlM step (entering opened kept) =
      some (finished (entries.reverse ++ kept)) := by
  induction h generalizing opened kept with
  | nil => exact absurd rfl hne
  | @cons new x tokens entries hnew h ih =>
    rcases h with _ | ⟨hnew', h⟩
    · simp [hnew, hlast]
    · have hrest := ih (by simp) false (x :: kept)
      simp only [List.intersperse_cons_cons, List.flatten_cons, List.append_assoc] at hrest ⊢
      rw [List.foldlM_append, hnew]
      change ([.comma] ++ _).foldlM step (behind kept x) = _
      rw [List.singleton_append, List.foldlM_cons, hcomma]
      simpa using hrest

theorem builds_array {tokens : List (List Token)} {items : List Json}
    (h : List.Forall₂ Builds tokens items) :
    Builds (.openArray :: (tokens.intersperse [.comma]).flatten ++ [.closeArray])
      (.array items) := by
  intro stack opened
  have hentries := foldlM_entries (fun opened kept => ⟨.array kept :: stack, .value opened⟩)
    (fun kept x => ⟨.array kept :: stack, .next x⟩)
    (fun kept => ⟨stack, .next (.array kept.reverse)⟩) .closeArray
    (fun _ _ => rfl) (fun _ _ => rfl) (h.imp fun _ _ hb opened kept => hb _ opened)
  rw [List.cons_append, List.foldlM_cons]
  change List.foldlM step ⟨.array [] :: stack, .value true⟩ _ = _
  rcases h with _ | ⟨hitem, h⟩
  · rfl
  · rw [hentries (by simp) true []]
    simp

theorem builds_object {tokens : List (List Token)} {members : List (Bytes × Json)}
    (h : List.Forall₂ (fun new m => ∃ tokens,
      new = .scalar (.string m.1) :: .colon :: tokens ∧ Builds tokens m.2) tokens members) :
    Builds (.openObject :: (tokens.intersperse [.comma]).flatten ++ [.closeObject])
      (.object members) := by
  intro stack opened
  have hentries := foldlM_entries (fun opened kept => ⟨stack, .key kept opened⟩)
    (fun kept m => ⟨.object kept m.1 :: stack, .next m.2⟩)
    (fun kept => ⟨stack, .next (.object kept.reverse)⟩) .closeObject
    (fun _ _ => rfl) (fun _ _ => rfl) (h.imp fun _ _ hb opened kept => by
      obtain ⟨tokens, rfl, hb⟩ := hb
      exact hb _ false)
  rw [List.cons_append, List.foldlM_cons]
  change List.foldlM step ⟨stack, .key [] true⟩ _ = _
  rcases h with _ | ⟨hmember, h⟩
  · rfl
  · rw [hentries (by simp) true []]
    simp

end Reader

theorem pretty_array (depth : Nat) (items : List Json) :
    pretty depth (.array items) = bracketed depth 0x5B 0x5D (items.map (pretty (depth + 1))) := by
  rw [pretty, List.attach_map_val]

theorem pretty_object (depth : Nat) (members : List (Bytes × Json)) :
    pretty depth (.object members) = bracketed depth 0x7B 0x7D
      (members.map fun m => quoted m.1 ++ [0x3A, 0x20] ++ pretty (depth + 1) m.2) := by
  rw [pretty, ← List.attach_map_val (l := members)]

/-- What a value is read as when it has been written, at any depth. -/
def ReadAs (v v' : Json) : Prop :=
  ∀ depth, ∃ tokens, Lexer.Cuts (pretty depth v) tokens ∧ Reader.Builds tokens v'

namespace ReadAs

theorem number {n m : Numeral} (h : Numeral.read? n.write = some m) :
    ReadAs (.number n) (.number m) := by
  intro depth
  rw [pretty]
  exact ⟨_, Lexer.cuts_numeral h, Reader.builds_scalar _⟩

/-- A natural number is read as it is. -/
theorem ofNat (n : Nat) : ReadAs (.ofNat n) (.ofNat n) :=
  number (Numeral.read?_write_ofNat n)

theorem array {items items' : List Json} (h : List.Forall₂ ReadAs items items') :
    ReadAs (.array items) (.array items') := by
  intro depth
  have htokens : ∃ tokens, List.Forall₂ Lexer.Cuts (items.map (pretty (depth + 1))) tokens ∧
      List.Forall₂ Reader.Builds tokens items' := by
    induction h with
    | nil => exact ⟨[], .nil, .nil⟩
    | cons hitem _ ih =>
      obtain ⟨new, hcuts, hbuilds⟩ := hitem (depth + 1)
      obtain ⟨tokens, hcuts', hbuilds'⟩ := ih
      exact ⟨new :: tokens, .cons hcuts hcuts', .cons hbuilds hbuilds'⟩
  obtain ⟨tokens, hcuts, hbuilds⟩ := htokens
  rw [pretty_array]
  exact ⟨_, (Lexer.closes_bracketed (fun _ => rfl) (fun _ => rfl) hcuts depth).cuts,
    Reader.builds_array hbuilds⟩

theorem object {members members' : List (Bytes × Json)}
    (h : List.Forall₂ (fun m m' => m'.1 = m.1 ∧ Lexer.IsPlain m.1 ∧ ReadAs m.2 m'.2)
      members members') : ReadAs (.object members) (.object members') := by
  intro depth
  have htokens : ∃ tokens, List.Forall₂ Lexer.Cuts
        (members.map fun m => quoted m.1 ++ [0x3A, 0x20] ++ pretty (depth + 1) m.2) tokens ∧
      List.Forall₂ (fun new m => ∃ tokens,
        new = .scalar (.string m.1) :: .colon :: tokens ∧ Reader.Builds tokens m.2)
        tokens members' := by
    induction h with
    | nil => exact ⟨[], .nil, .nil⟩
    | cons hmember _ ih =>
      obtain ⟨hkey, hplain, hvalue⟩ := hmember
      obtain ⟨new, hcuts, hbuilds⟩ := hvalue (depth + 1)
      obtain ⟨tokens, hcuts', hbuilds'⟩ := ih
      have hcolon : Lexer.Closes [0x3A, 0x20] [.colon] := fun _ => rfl
      exact ⟨_, .cons (((Lexer.closes_quoted hplain).append hcolon).append_cuts hcuts) hcuts',
        .cons ⟨new, by rw [hkey]; rfl, hbuilds⟩ hbuilds'⟩
  obtain ⟨tokens, hcuts, hbuilds⟩ := htokens
  rw [pretty_object]
  exact ⟨_, (Lexer.closes_bracketed (fun _ => rfl) (fun _ => rfl) hcuts depth).cuts,
    Reader.builds_object hbuilds⟩

end ReadAs

/-- What the bytes of a value spell. -/
theorem parse?_write {v v' : Json} (h : ReadAs v v') : parse? v.write = some v' := by
  obtain ⟨tokens, hcuts, hbuilds⟩ := h 0
  obtain ⟨s, hs, hbehind⟩ := hcuts []
  have htokens : Lexer.tokens? v.write = some tokens := by
    rw [Lexer.tokens?, write, hs]
    simpa using hbehind.finish
  rw [parse?, htokens]
  change (tokens.foldlM Reader.step Reader.start).bind Reader.finish? = _
  rw [Reader.start, hbuilds [] false]
  rfl

end Json

end Turtle

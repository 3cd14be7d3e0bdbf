import Mathlib.Data.List.Induction
import Mathlib.Tactic.Common
import Turtle.Text.Utf8

/-!
# Encoded text

Text is lowered and compared by characters, and written in bytes. For the letters of ASCII this
comes to the same: their bytes are their own, and no other character has such a byte in it. So a
text ends in some text of ASCII, whatever the case, just when its bytes do.

* `decode?_eq_some_iff`: bytes are read as a text just when they are the bytes of that text;
* `encode_eq_flatMap`: a text is encoded character by character;
* `lowerByte` lowers a byte, and `map_lowerByte_encode` says that this lowers the text;
* `suffix_of_encode_suffix`: bytes that end in text of ASCII are those of a text that ends in it.
-/

namespace Turtle.Text

/-- Bytes are read as a text just when they are the bytes of that text. -/
theorem decode?_eq_some_iff {bytes : Bytes} {s : String} :
    decode? bytes = some s ↔ encode s = bytes := by
  constructor
  · intro h
    rw [decode?, String.fromUTF8?] at h
    split at h
    · rw [← Option.some.inj h]
      rfl
    · cases h
  · rintro rfl
    exact decode?_encode s

/-- A text is encoded character by character. -/
theorem encode_eq_flatMap (s : String) : encode s = s.toList.flatMap String.utf8EncodeChar := by
  rw [encode, String.toUTF8, ← String.utf8Encode_toList, List.utf8Encode, List.data_toByteArray,
    List.toList_toArray]

/-- The bytes of a character of ASCII. -/
theorem utf8EncodeChar_of_ascii {c : Char} (h : c.toNat < 0x80) :
    String.utf8EncodeChar c = [UInt8.ofNat c.toNat] :=
  if_pos (Nat.le_of_lt_succ h)

/-- All bytes of any other character lie above those of ASCII. -/
theorem le_of_mem_utf8EncodeChar {c : Char} (h : 0x80 ≤ c.toNat) {b : UInt8}
    (hb : b ∈ String.utf8EncodeChar c) : 0x80 ≤ b.toNat := by
  have hv : ¬ c.val.toNat ≤ 0x7F := Nat.not_le.2 h
  simp only [String.utf8EncodeChar, if_neg hv] at hb
  -- Each of the two to four bytes is a rest, which is small, on top of a mark of at least 0x80.
  have mark {n : Nat} (hle : 0x80 ≤ n) (hlt : n < 0x100) : 0x80 ≤ (UInt8.ofNat n).toNat := by
    rw [UInt8.toNat_ofNat', Nat.mod_eq_of_lt hlt]
    exact hle
  split at hb
  · simp only [List.mem_cons, List.not_mem_nil, or_false] at hb
    rcases hb with rfl | rfl <;> exact mark (by omega) (by omega)
  split at hb
  · simp only [List.mem_cons, List.not_mem_nil, or_false] at hb
    rcases hb with rfl | rfl | rfl <;> exact mark (by omega) (by omega)
  · simp only [List.mem_cons, List.not_mem_nil, or_false] at hb
    rcases hb with rfl | rfl | rfl | rfl <;> exact mark (by omega) (by omega)

/-! ## Lower case -/

/-- The byte of a capital letter as that of the small one, and any other byte as it is. -/
def lowerByte (b : UInt8) : UInt8 :=
  if 0x41 ≤ b ∧ b ≤ 0x5A then b + 0x20 else b

theorem lowerByte_of_le {b : UInt8} (h : 0x80 ≤ b.toNat) : lowerByte b = b := by
  refine if_neg fun ⟨_, hle⟩ => ?_
  have hle : b.toNat ≤ 0x5A := UInt8.le_iff_toNat_le.1 hle
  omega

/-- A character of ASCII is lowered like its byte. -/
theorem utf8EncodeChar_toLower_of_ascii {c : Char} (h : c.toNat < 0x80) :
    String.utf8EncodeChar c.toLower = [lowerByte (UInt8.ofNat c.toNat)] := by
  have all : ∀ n < 0x80, String.utf8EncodeChar (Char.ofNat n).toLower =
      [lowerByte (UInt8.ofNat n)] := by
    decide +kernel
  have hc := all c.toNat h
  rwa [Char.ofNat_toNat] at hc

/-- No other character is lowered. -/
theorem toLower_of_not_ascii {c : Char} (h : 0x80 ≤ c.toNat) : c.toLower = c := by
  refine dif_neg fun ⟨_, hle⟩ => ?_
  have hle : c.toNat ≤ 0x5A := UInt32.le_iff_toNat_le.1 hle
  omega

/-- To lower the bytes of a text is to lower the text. -/
theorem map_lowerByte_encode (s : String) :
    (encode s).map lowerByte =
      (s.toList.map Char.toLower).flatMap String.utf8EncodeChar := by
  have char (c : Char) :
      (String.utf8EncodeChar c).map lowerByte = String.utf8EncodeChar c.toLower := by
    rcases Nat.lt_or_ge c.toNat 0x80 with h | h
    · rw [utf8EncodeChar_toLower_of_ascii h, utf8EncodeChar_of_ascii h, List.map_singleton]
    · rw [toLower_of_not_ascii h]
      exact (List.map_congr_left fun b hb => lowerByte_of_le (le_of_mem_utf8EncodeChar h hb)).trans
        (List.map_id _)
  rw [encode_eq_flatMap, List.map_flatMap, List.flatMap_map]
  exact congrArg (List.flatMap · s.toList) (funext char)

/-! ## The last characters -/

/-- If the bytes of some characters end in a byte of ASCII, the last character is that of this
    byte, and the bytes in front are those of the characters in front. -/
theorem exists_eq_concat_of_concat_suffix {s : List Char} {bytes : Bytes} {c : Char}
    (hc : c.toNat < 0x80)
    (h : bytes ++ [UInt8.ofNat c.toNat] <:+ s.flatMap String.utf8EncodeChar) :
    ∃ front, s = front ++ [c] ∧ bytes <:+ front.flatMap String.utf8EncodeChar := by
  obtain ⟨before, hbefore⟩ := h
  rw [← List.append_assoc] at hbefore
  cases s using List.reverseRecOn with
  | nil => exact absurd hbefore (by simp)
  | append_singleton front d =>
    obtain ⟨first, b, hd⟩ := (List.eq_nil_or_concat (String.utf8EncodeChar d)).resolve_left
      String.utf8EncodeChar_ne_nil
    rw [List.concat_eq_append] at hd
    rw [List.flatMap_append, List.flatMap_singleton, hd, ← List.append_assoc] at hbefore
    obtain ⟨hrest, hlast⟩ := List.append_inj' hbefore rfl
    have hb : UInt8.ofNat c.toNat = b := List.singleton_inj.1 hlast
    -- A byte of ASCII is among the bytes of the last character, which must be of ASCII then.
    have hascii : d.toNat < 0x80 := by
      by_contra hd'
      have hle := le_of_mem_utf8EncodeChar (Nat.le_of_not_lt hd')
        (hd ▸ List.mem_append_right first List.mem_cons_self)
      rw [← hb, UInt8.toNat_ofNat'] at hle
      omega
    rw [utf8EncodeChar_of_ascii hascii, ← List.nil_append [UInt8.ofNat d.toNat]] at hd
    obtain ⟨hfirst, hbyte⟩ := List.append_inj' hd rfl
    have hcd : c.toNat = d.toNat := by
      have hmod : c.toNat % 256 = d.toNat % 256 :=
        congrArg UInt8.toNat (hb.trans (List.singleton_inj.1 hbyte).symm)
      omega
    rw [← hfirst, List.append_nil] at hrest
    exact ⟨front, by rw [Char.toNat_inj.1 hcd], before, hrest⟩

/-- If the bytes of some characters end in those of characters of ASCII, so do the characters. -/
theorem suffix_of_encode_suffix {s t : List Char} (hascii : ∀ c ∈ t, c.toNat < 0x80)
    (h : t.flatMap String.utf8EncodeChar <:+ s.flatMap String.utf8EncodeChar) : t <:+ s := by
  induction t using List.reverseRecOn generalizing s with
  | nil => exact List.nil_suffix
  | append_singleton t c ih =>
    have hc : c.toNat < 0x80 := hascii c (List.mem_append_right _ List.mem_cons_self)
    rw [List.flatMap_append, List.flatMap_singleton, utf8EncodeChar_of_ascii hc] at h
    obtain ⟨front, rfl, hfront⟩ := exists_eq_concat_of_concat_suffix hc h
    exact List.suffix_concat_iff.2
      (.inr ⟨t, rfl, ih (fun d hd => hascii d (List.mem_append_left _ hd)) hfront⟩)

end Turtle.Text

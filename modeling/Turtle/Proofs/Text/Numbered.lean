import Mathlib.Tactic.Common
import Turtle.Text.Line

/-!
# Numbered items

Items that are counted from one, as the lines of a text are.

* `numbered_append`: behind others, items are counted on from these;
* `eq_of_numbered_eq_append_cons`: the number of an item is one more than how many are in front;
* `pairwise_numbered`: every item has a larger number than those in front of it.
-/

namespace Turtle.Text

variable {α β : Type}

theorem map_snd_numbered (items : List α) : (numbered items).map Prod.snd = items := by
  rw [numbered, List.map_map]
  exact List.zipIdx_map_fst 0 items

theorem getElem?_numbered (items : List α) (i : Nat) :
    (numbered items)[i]? = items[i]?.map fun item => (i + 1, item) := by
  rw [numbered, List.getElem?_map, List.getElem?_zipIdx, Option.map_map, Nat.zero_add]
  rfl

theorem numbered_map (f : α → β) (items : List α) :
    numbered (items.map f) = (numbered items).map fun x => (x.1, f x.2) := by
  rw [numbered, numbered, List.zipIdx_map, List.map_map, List.map_map]
  rfl

/-- Items behind others are counted on from these. -/
theorem numbered_append (items more : List α) :
    numbered (items ++ more) =
      numbered items ++ (numbered more).map fun x => (items.length + x.1, x.2) := by
  have hcount (k : Nat) : ((more.zipIdx k).map fun x => (x.2 + 1, x.1)) =
      (numbered more).map fun x => (k + x.1, x.2) := by
    rw [numbered, List.map_map, List.zipIdx_eq_map_add, List.map_map]
    refine List.map_congr_left fun x _ => congrArg (·, x.1) ?_
    exact Nat.add_assoc k x.2 1
  rw [numbered, List.zipIdx_append, List.map_append, Nat.zero_add, hcount]
  rfl

/-- Behind some items an item has the next number. -/
theorem exists_numbered_append_cons (before : List α) (item : α) (after : List α) :
    ∃ rest, numbered (before ++ item :: after) =
      numbered before ++ (before.length + 1, item) :: rest :=
  ⟨_, numbered_append before (item :: after)⟩

/-- An item that is found with its number has as many in front of it as the number says. -/
theorem eq_of_numbered_eq_append_cons {items : List α} {before after : List (Nat × α)} {n : Nat}
    {item : α} (h : numbered items = before ++ (n, item) :: after) :
    items = before.map Prod.snd ++ item :: after.map Prod.snd ∧ n = before.length + 1 := by
  have hitems := congrArg (List.map Prod.snd) h
  rw [map_snd_numbered, List.map_append, List.map_cons] at hitems
  have hnumber := getElem?_numbered items before.length
  rw [h, List.getElem?_append_right (Nat.le_refl _), Nat.sub_self,
    List.getElem?_cons_zero] at hnumber
  obtain ⟨_, -, heq⟩ := Option.map_eq_some_iff.1 hnumber.symm
  exact ⟨hitems, (congrArg Prod.fst heq).symm⟩

/-- Every item has a larger number than those in front of it. -/
theorem pairwise_numbered (items : List α) :
    (numbered items).Pairwise fun x y => x.1 < y.1 := by
  have hplaces : (items.zipIdx.map Prod.snd).Pairwise (· < ·) := by
    rw [List.zipIdx_map_snd]
    exact List.pairwise_lt_range'
  rw [numbered, List.pairwise_map]
  exact (List.pairwise_map.1 hplaces).imp Nat.succ_lt_succ

end Turtle.Text

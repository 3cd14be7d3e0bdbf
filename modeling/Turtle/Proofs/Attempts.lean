import Mathlib.Data.List.Forall2
import Mathlib.Tactic.Common

/-!
# Attempts

Computations that may fail, one behind another and one for each item of a list.

* `bind_eq_ok_iff`, `map_eq_ok_iff`, `bind_eq_error_iff`: what succeeds behind a computation, and
  what fails;
* `mapM_eq_ok_iff`, `mapM_eq_some_iff`: all items succeed if each of them does;
* `mapM_eq_error_iff`: the first item that fails says how.
-/

namespace Turtle

variable {ε α β : Type}

/-- A computation behind another one succeeds if both do. -/
theorem bind_eq_ok_iff {x : Except ε α} {f : α → Except ε β} {b : β} :
    x >>= f = .ok b ↔ ∃ a, x = .ok a ∧ f a = .ok b := by
  cases x with
  | error e => exact ⟨fun h => (nomatch h), fun ⟨_, h, _⟩ => nomatch h⟩
  | ok a => exact ⟨fun h => ⟨a, rfl, h⟩, fun ⟨_, h, hb⟩ => Except.ok.inj h ▸ hb⟩

theorem map_eq_ok_iff {x : Except ε α} {f : α → β} {b : β} :
    f <$> x = .ok b ↔ ∃ a, x = .ok a ∧ f a = b := by
  cases x with
  | error e => exact ⟨fun h => (nomatch h), fun ⟨_, h, _⟩ => nomatch h⟩
  | ok a => exact ⟨fun h => ⟨a, rfl, Except.ok.inj h⟩, fun ⟨_, h, hb⟩ => Except.ok.inj h ▸ hb ▸ rfl⟩

/-- A computation behind another one fails as the first of them that does. -/
theorem bind_eq_error_iff {x : Except ε α} {f : α → Except ε β} {e : ε} :
    x >>= f = .error e ↔ x = .error e ∨ ∃ a, x = .ok a ∧ f a = .error e := by
  cases x with
  | error e' =>
    constructor
    · exact fun h => .inl (congrArg Except.error (Except.error.inj h))
    · rintro (h | ⟨_, ⟨⟩, -⟩)
      exact congrArg Except.error (Except.error.inj h)
  | ok a =>
    constructor
    · exact fun h => .inr ⟨a, rfl, h⟩
    · rintro (⟨⟨⟩⟩ | ⟨_, ⟨⟩, h⟩)
      exact h

/-! ## Items of a list -/

variable {xs : List α} {ys : List β}

/-- Every result comes from an item. -/
theorem exists_of_mem_results {R : α → β → Prop} (h : List.Forall₂ R xs ys) {y : β} (hy : y ∈ ys) :
    ∃ x ∈ xs, R x y := by
  induction h with
  | nil => exact absurd hy List.not_mem_nil
  | @cons x y' xs ys hx _ ih =>
    rcases List.mem_cons.1 hy with rfl | hy
    · exact ⟨x, List.mem_cons_self, hx⟩
    · obtain ⟨x', hx', hy'⟩ := ih hy
      exact ⟨x', List.mem_cons_of_mem _ hx', hy'⟩

theorem mapM_eq_some_iff {f : α → Option β} :
    xs.mapM f = some ys ↔ List.Forall₂ (fun x y => f x = some y) xs ys := by
  induction xs generalizing ys with
  | nil =>
    rw [List.mapM_nil, List.forall₂_nil_left_iff]
    exact ⟨fun h => (Option.some.inj h).symm, fun h => congrArg some h.symm⟩
  | cons x xs ih =>
    rw [List.mapM_cons, List.forall₂_cons_left_iff]
    constructor
    · intro h
      obtain ⟨y, hy, h⟩ := Option.bind_eq_some_iff.1 h
      obtain ⟨ys, hys, h⟩ := Option.bind_eq_some_iff.1 h
      exact ⟨y, ys, hy, ih.1 hys, (Option.some.inj h).symm⟩
    · rintro ⟨y, ys, hy, hys, rfl⟩
      rw [hy, ih.2 hys]
      rfl

variable {f : α → Except ε β}

theorem mapM_eq_ok_iff : xs.mapM f = .ok ys ↔ List.Forall₂ (fun x y => f x = .ok y) xs ys := by
  induction xs generalizing ys with
  | nil =>
    rw [List.mapM_nil, List.forall₂_nil_left_iff]
    exact ⟨fun h => (Except.ok.inj h).symm, fun h => congrArg Except.ok h.symm⟩
  | cons x xs ih =>
    rw [List.mapM_cons, List.forall₂_cons_left_iff]
    constructor
    · intro h
      obtain ⟨y, hy, h⟩ := bind_eq_ok_iff.1 h
      obtain ⟨ys, hys, h⟩ := bind_eq_ok_iff.1 h
      exact ⟨y, ys, hy, ih.1 hys, (Except.ok.inj h).symm⟩
    · rintro ⟨y, ys, hy, hys, rfl⟩
      rw [hy, ih.2 hys]
      rfl

/-- If not all items succeed, the first one that does not says how it fails. -/
theorem mapM_eq_error_iff {e : ε} :
    xs.mapM f = .error e ↔ ∃ before x after, xs = before ++ x :: after ∧
      (∀ y ∈ before, ∃ z, f y = .ok z) ∧ f x = .error e := by
  induction xs with
  | nil =>
    constructor
    · intro h
      cases h
    · rintro ⟨before, x, after, h, -⟩
      exact absurd h.symm (List.append_ne_nil_of_right_ne_nil _ (List.cons_ne_nil _ _))
  | cons x xs ih =>
    rw [List.mapM_cons]
    constructor
    · intro h
      rcases bind_eq_error_iff.1 h with hx | ⟨y, hx, hrest⟩
      · exact ⟨[], x, xs, rfl, List.forall_mem_nil _, hx⟩
      · rcases bind_eq_error_iff.1 hrest with hrest | ⟨_, _, ⟨⟩⟩
        obtain ⟨before, x', after, rfl, hbefore, he⟩ := ih.1 hrest
        exact ⟨x :: before, x', after, rfl, List.forall_mem_cons.2 ⟨⟨y, hx⟩, hbefore⟩, he⟩
    · rintro ⟨_ | ⟨y, before⟩, x', after, h, hbefore, he⟩
      · cases h
        rw [he]
        rfl
      · cases h
        obtain ⟨⟨z, hz⟩, hbefore⟩ := List.forall_mem_cons.1 hbefore
        rw [hz, ih.2 ⟨before, x', after, rfl, hbefore, he⟩]
        rfl

end Turtle

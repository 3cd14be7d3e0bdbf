import Mathlib.Tactic.Common
import Turtle.Shell.Screen

/-!
# Places on the screens

The place of a question and the column of the cursor are worked out in numbers of sixteen bits, for
screens of any size and lines of any length. The question leaves the screen only where there are just
three rows, and the numbers are too great only for screens of 32768 columns and for lines of 65533
characters, or more.

* `Area.Holds` are the cells of a rectangle, and `Area.isEmpty_or_fitsIn_iff` compares those of two;
* `Area.fitsIn_popup_iff` and `toNat_cursorColumn` are about all sizes and lengths;
* `parts_are_on_screen_iff` says what becomes of the two screens.
-/

namespace Turtle

namespace Area

/-! ## Cells -/

/-- A cell of a rectangle. -/
structure Holds (a : Area) (x y : Nat) : Prop where
  left : a.x.toNat ≤ x
  right : x < a.x.toNat + a.width.toNat
  top : a.y.toNat ≤ y
  bottom : y < a.y.toNat + a.height.toNat

theorem fitsIn_iff {a b : Area} :
    a.fitsIn b = true ↔ b.x.toNat ≤ a.x.toNat ∧ b.y.toNat ≤ a.y.toNat ∧
      a.x.toNat + a.width.toNat ≤ b.x.toNat + b.width.toNat ∧
      a.y.toNat + a.height.toNat ≤ b.y.toNat + b.height.toNat := by
  simp [fitsIn, UInt16.le_iff_toNat_le, and_assoc]

theorem isEmpty_iff {a : Area} : a.isEmpty = true ↔ a.width.toNat = 0 ∨ a.height.toNat = 0 := by
  simp [isEmpty, ← UInt16.toNat_inj]

/-- A rectangle has no cells, or lies within another, just when all its cells are cells of it. -/
theorem isEmpty_or_fitsIn_iff {a b : Area} :
    (a.isEmpty || a.fitsIn b) = true ↔ ∀ x y, a.Holds x y → b.Holds x y := by
  rw [Bool.or_eq_true, isEmpty_iff, fitsIn_iff]
  constructor
  · rintro h x y ⟨hleft, hright, htop, hbottom⟩
    constructor <;> omega
  · intro h
    by_cases hempty : a.width.toNat = 0 ∨ a.height.toNat = 0
    · exact .inl hempty
    · -- The cells in two opposite corners are enough.
      obtain ⟨hleft, -, htop, -⟩ := h a.x.toNat a.y.toNat (by constructor <;> omega)
      obtain ⟨-, hright, -, hbottom⟩ := h (a.x.toNat + a.width.toNat - 1)
        (a.y.toNat + a.height.toNat - 1) (by constructor <;> omega)
      exact .inr ⟨hleft, htop, by omega, by omega⟩

theorem toNat_less (a b : UInt16) : (less a b).toNat = a.toNat - b.toNat := by
  rw [less]
  split
  · next hle => exact UInt16.toNat_sub_of_le a b hle
  · next hlt =>
    rw [UInt16.le_iff_toNat_le] at hlt
    rw [UInt16.toNat_zero]
    omega

/-! ## The question -/

section Popup

variable (width height : UInt16)

theorem toNat_popup_x : (whole width height).popup.x.toNat = width.toNat / 6 :=
  UInt16.toNat_div width 6

theorem toNat_popup_y : (whole width height).popup.y.toNat = height.toNat / 3 :=
  UInt16.toNat_div height 3

theorem toNat_popup_width :
    (whole width height).popup.width.toNat = width.toNat * 2 % 65536 / 3 := by
  show (width * 2 / 3).toNat = _
  rw [UInt16.toNat_div, UInt16.toNat_mul]
  rfl

theorem toNat_popup_height : (whole width height).popup.height.toNat = min 3 height.toNat :=
  UInt16.toNat_min 3 height

/-- The question is two thirds as wide as the screen, as long as twice the width is a number of
    sixteen bits. -/
theorem toNat_popup_width_eq_iff :
    (whole width height).popup.width.toNat = width.toNat * 2 / 3 ↔ width.toNat < 32768 := by
  have hwidth := width.toNat_lt
  rw [toNat_popup_width]
  omega

/-- The question has room on all screens but those of three rows: on lower ones it is in the first
    row, and on higher ones three rows are left below the first third. -/
theorem fitsIn_popup_iff :
    (whole width height).popup.fitsIn (whole width height) = true ↔ height ≠ 3 := by
  have hwidth := width.toNat_lt
  have hheight : height = 3 ↔ height.toNat = 3 := UInt16.toNat_inj.symm
  rw [fitsIn_iff, toNat_popup_x, toNat_popup_y, toNat_popup_width, toNat_popup_height, Ne, hheight]
  show 0 ≤ _ ∧ 0 ≤ _ ∧ _ ≤ 0 + width.toNat ∧ _ ≤ 0 + height.toNat ↔ _
  omega

/-- On a screen of three rows the cells of the question are not all on it, if there are any. -/
theorem holds_popup_iff :
    (∀ x y, (whole width height).popup.Holds x y → (whole width height).Holds x y) ↔
      (height = 3 → (whole width height).popup.width = 0) := by
  have hzero : (whole width height).popup.width = 0 ↔
      (whole width height).popup.width.toNat = 0 := UInt16.toNat_inj.symm
  have hheight : height = 3 ↔ height.toNat = 3 := UInt16.toNat_inj.symm
  rw [← isEmpty_or_fitsIn_iff, Bool.or_eq_true, fitsIn_popup_iff, isEmpty_iff, hzero,
    toNat_popup_height, Ne, hheight]
  omega

end Popup

end Area

/-- There is no prompt screen just where a cell of the question would not be on it. -/
theorem promptScreen?_eq_none_iff (width height : UInt16) (messages : List String)
    (question answer : String) :
    promptScreen? width height messages question answer = none ↔
      ∃ x y, (Area.whole width height).popup.Holds x y ∧ ¬(Area.whole width height).Holds x y := by
  have hcells := Area.isEmpty_or_fitsIn_iff (a := (Area.whole width height).popup)
    (b := Area.whole width height)
  rw [promptScreen?]
  dsimp only
  split
  · next hroom => simpa using hcells.1 hroom
  · next hroom => simpa using mt hcells.2 hroom

/-! ## The cursor -/

theorem cursor_mainScreen (width height : UInt16) (canvas : Canvas Float) (messages : List String)
    (input status : String) :
    (mainScreen width height canvas messages input status).cursor =
      some (cursorColumn (MainLayout.of width height).input input.length,
        (MainLayout.of width height).input.y + 1) := rfl

/-- The cursor is behind the line of input and the three cells in front of it, or at the end of the
    box; but numbers of sixteen bits start over from nought. -/
theorem toNat_cursorColumn (width height : UInt16) (count : Nat) :
    (cursorColumn (MainLayout.of width height).input count).toNat =
      min ((3 + min count 65535) % 65536) (width.toNat - 2) := by
  have hbox : (MainLayout.of width height).input.x = 0 ∧
      (MainLayout.of width height).input.width = width := ⟨rfl, rfl⟩
  rw [cursorColumn, hbox.1, hbox.2, UInt16.zero_add, UInt16.zero_add, UInt16.toNat_min,
    Area.toNat_less, UInt16.toNat_add, UInt16.toNat_ofNat']
  show min ((3 + min count 65535 % 65536) % 65536) (width.toNat - 2) = _
  omega

/-! ## The two screens -/

/-- A question on a screen of three rows is not all on it, so that it cannot be shown; twice a width
    of 40000 columns is no number of sixteen bits, and the question gets too narrow; and the cursor
    behind a very long line is in the first column, on the border. -/
theorem question_leaves_low_screen :
    (Area.whole 40 3).popup.fitsIn (Area.whole 40 3) = false ∧
      promptScreen? 40 3 [] "Sure?" "" = none ∧
      (Area.whole 40000 24).popup.width = 4821 ∧
      cursorColumn (MainLayout.of 80 24).input 65533 = 0 := by
  decide

/-- Where the question and the cursor are on screens of any size. The question has the width that it
    should have if and only if there are less than 32768 columns, and it is on the screen unless
    there are just three rows; in these it cannot be shown, if it has any cells. The cursor is
    behind the line of input, or at the end of the box, up to a length of 65532 characters, and on
    a screen of five columns or more it is in the box behind the prompt just for these lengths. -/
theorem parts_are_on_screen_iff (width height : UInt16) :
    ((Area.whole width height).popup.width.toNat = width.toNat * 2 / 3 ↔ width.toNat < 32768) ∧
      ((Area.whole width height).popup.fitsIn (Area.whole width height) = true ↔ height ≠ 3) ∧
      (∀ messages question answer,
        promptScreen? width height messages question answer = none ↔
          height = 3 ∧ (Area.whole width height).popup.width ≠ 0) ∧
      ∀ canvas messages input status, ∃ cursor,
        (mainScreen width height canvas messages input status).cursor = some cursor ∧
        (input.length < 65533 →
          cursor.1.toNat = min (3 + input.length) (width.toNat - 2)) ∧
        (5 ≤ width.toNat →
          (3 ≤ cursor.1.toNat ∧ cursor.1.toNat + 2 ≤ width.toNat ↔ input.length < 65533)) := by
  refine ⟨Area.toNat_popup_width_eq_iff width height, Area.fitsIn_popup_iff width height, ?_, ?_⟩
  · intro messages question answer
    have hcells := not_congr (Area.holds_popup_iff width height)
    rw [promptScreen?_eq_none_iff]
    simpa using hcells
  · intro canvas messages input status
    refine ⟨_, cursor_mainScreen width height canvas messages input status, ?_⟩
    rw [toNat_cursorColumn]
    constructor <;> omega

end Turtle

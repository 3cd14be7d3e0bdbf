/-!
# Ranges of characters

Sets of characters as lists of ranges, each by its first and its last member.
-/

namespace Turtle.Text

/-- A character lies in a range. -/
def between (first last : Nat) (c : Char) : Bool :=
  first ≤ c.toNat && c.toNat ≤ last

/-- A character lies in one of some ranges. -/
def inRanges (ranges : List (Nat × Nat)) (c : Char) : Bool :=
  ranges.any fun range => between range.1 range.2 c

end Turtle.Text

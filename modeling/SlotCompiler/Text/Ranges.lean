import SlotCompiler.Text

namespace SlotCompiler.Text

-- Ascending, disjoint ranges; both ends belong to the set.
abbrev Ranges := List (Nat × Nat)

-- The ranges ascend, so the search ends at the first range above the code point.
def Ranges.holds : Ranges → Nat → Bool
  | [], _ => false
  | (low, high) :: rest, n => if n < low then false else n ≤ high || Ranges.holds rest n

end SlotCompiler.Text

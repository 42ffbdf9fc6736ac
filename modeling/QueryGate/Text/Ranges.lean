/-!
# Sets of characters as code point ranges

A character class of a standard is data: a list of closed ranges of code
points in increasing order. Membership scans the list, so a fact about one
character is a computation over the table, and a fact about the whole class is
an induction on it.
-/

set_option autoImplicit false

namespace QueryGate.Text

/-- Closed ranges of code points. -/
abbrev Ranges := List (Nat × Nat)

/-- Whether some range holds the character. -/
def Ranges.contains (ranges : Ranges) (character : Char) : Bool :=
  ranges.any fun range => range.1 ≤ character.toNat && character.toNat ≤ range.2

theorem Ranges.contains_iff (ranges : Ranges) (character : Char) :
    ranges.contains character = true ↔
      ∃ range ∈ ranges, range.1 ≤ character.toNat ∧ character.toNat ≤ range.2 := by
  simp [Ranges.contains]

end QueryGate.Text

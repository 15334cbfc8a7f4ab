/-
**Sets of characters given by ranges.**

Properties of characters come as lists of closed ranges of code points.

Main definitions:

* `LineShell.Text.inRanges` — membership in such a list.

Main results:

* `LineShell.Text.inRanges_iff` — a character is in the list exactly when some range holds it.
-/

set_option autoImplicit false

namespace LineShell.Text

/-- Whether the character's code point lies in one of the closed ranges. -/
def inRanges (ranges : List (Nat × Nat)) (c : Char) : Bool :=
  ranges.any fun r => decide (r.1 ≤ c.toNat) && decide (c.toNat ≤ r.2)

theorem inRanges_iff (ranges : List (Nat × Nat)) (c : Char) :
    inRanges ranges c = true ↔ ∃ r ∈ ranges, r.1 ≤ c.toNat ∧ c.toNat ≤ r.2 := by
  simp [inRanges]

end LineShell.Text

/-!
# Ranges of code points

A property of characters is a list of closed ranges of code points; a character has the property
when one of the ranges holds it. The tables of Unicode properties beside this module are such
lists, each in increasing order.
-/

namespace RdfGateway.Text

/-- Closed ranges of code points. -/
abbrev CharRanges := List (Nat × Nat)

/-- A character lies in one of the ranges. -/
def CharRanges.has (ranges : CharRanges) (c : Char) : Bool :=
  ranges.any fun range => range.1 ≤ c.toNat && c.toNat ≤ range.2

theorem CharRanges.has_iff {ranges : CharRanges} {c : Char} :
    ranges.has c = true ↔ ∃ range ∈ ranges, range.1 ≤ c.toNat ∧ c.toNat ≤ range.2 := by
  simp [CharRanges.has]

end RdfGateway.Text

/-!
# Sets of code points

A character property of the Unicode standard is a set of code points, given as inclusive ranges in
increasing order.
-/
namespace ManifestLint.Text

/-- Membership of a character in a list of inclusive code point ranges. -/
def inRanges (ranges : List (Nat × Nat)) (c : Char) : Bool :=
  ranges.any fun (first, last) => first ≤ c.toNat && c.toNat ≤ last

theorem inRanges_iff (ranges : List (Nat × Nat)) (c : Char) :
    inRanges ranges c = true ↔ ∃ r ∈ ranges, r.1 ≤ c.toNat ∧ c.toNat ≤ r.2 := by
  simp [inRanges]

end ManifestLint.Text

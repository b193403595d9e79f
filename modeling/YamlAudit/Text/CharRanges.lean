/-!
# Text — CharRanges

Sets of characters given by ranges of code points, both ends included.
-/

namespace YamlAudit

/-- A set of characters as ranges of code points. -/
structure CharRanges where
  ranges : List (Nat × Nat)

/-- Whether a character lies in one of the ranges. -/
def CharRanges.contains (s : CharRanges) (c : Char) : Bool :=
  s.ranges.any fun r => r.1 ≤ c.toNat && c.toNat ≤ r.2

end YamlAudit

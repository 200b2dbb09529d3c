/-!
# Sets of characters given by ranges

The character classes of this library are finite unions of closed ranges of
code points, written down as tables.  A table is searched from its first range
to its last; the callers answer for ASCII before they come here, so the length
of a table is felt only on the rarer characters.
-/

namespace SourceOutline
namespace Text

/-- Closed ranges of code points, in increasing order. -/
abbrev Ranges := List (Nat × Nat)

namespace Ranges

def contains (ranges : Ranges) (code : Nat) : Bool :=
  ranges.any fun range => range.1 ≤ code && code ≤ range.2

theorem contains_iff {ranges : Ranges} {code : Nat} :
    ranges.contains code = true ↔ ∃ range ∈ ranges, range.1 ≤ code ∧ code ≤ range.2 := by
  simp [contains]

end Ranges
end Text
end SourceOutline

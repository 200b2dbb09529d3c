/-!
# Lone surrogates

A text from outside may hold half of a surrogate pair, which is no character.  It is
carried as a private character of the last plane and written as the half it stands
for.
-/

namespace SourceOutline
namespace Surrogate

/-- The character that stands for a lone surrogate. -/
def char (unit : Nat) : Char :=
  Char.ofNat (0x100000 + unit)

/-- The surrogate for which a character stands. -/
def unit? (c : Char) : Option Nat :=
  if 0x10D800 ≤ c.toNat && c.toNat < 0x10E000 then some (c.toNat - 0x100000) else none

end Surrogate
end SourceOutline

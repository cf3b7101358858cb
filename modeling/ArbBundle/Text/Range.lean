/-!
# Range — sets of characters as ranges of code points
-/

namespace ArbBundle
namespace Text

/-- A set of characters, as ranges of code points with both ends included. -/
abbrev RangeTable := List (Nat × Nat)

def RangeTable.has (table : RangeTable) (c : Char) : Bool :=
  table.any fun (low, high) => low ≤ c.toNat && c.toNat ≤ high

end Text
end ArbBundle

import ArbBundle.Bytes.Word
import ArbBundle.Decimal.Binary64

/-!
# Units — amounts for display

Amounts are shown in ether or gwei as doubles.  These are for display only: every decision
compares the amounts themselves.
-/

namespace ArbBundle
namespace Wei

/-- The largest number of decimals that a power of ten in one word allows. -/
def maxDecimals : Nat := 77

/-- The double nearest to `amount / 10 ^ decimals`; no number where the divisor leaves the word. -/
def display (amount : Wei) (decimals : Nat) : Decimal.Binary64 :=
  if decimals ≤ maxDecimals then .ofRatio amount.toNat (Nat.pow 10 decimals) else .nan

def ether (amount : Wei) : Decimal.Binary64 :=
  display amount 18

def gwei (amount : Wei) : Decimal.Binary64 :=
  display amount 9

end Wei
end ArbBundle

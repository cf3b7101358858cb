import ArbBundle.Decimal.Units
import ArbBundle.Json.Record

/-!
# Profit — expected profit against the largest fees

- `Profit`: the three figures that a decision rests on
- `ProfitCheck`: which of the two fees the profit has to cover
- `ProfitCheck.threshold?`, `ProfitCheck.admits`: the decision, on the amounts themselves
- the display figures in ether, which no decision uses
-/

namespace ArbBundle

/-- The expected profit of a bundle and its largest fees. -/
structure Profit where
  expected : Wei
  /-- The largest fee of all transactions together. -/
  bundleFee : Wei
  /-- The largest fee of the settling transaction. -/
  arbitrageFee : Wei
  deriving DecidableEq

namespace Profit

/-- The expected profit less the fee of the whole bundle, in ether. -/
def netAfterBundleFee (p : Profit) : Decimal.Binary64 :=
  (Wei.ether p.expected).sub (Wei.ether p.bundleFee)

/-- The expected profit less the fee of the settling transaction, in ether. -/
def netAfterArbitrageFee (p : Profit) : Decimal.Binary64 :=
  (Wei.ether p.expected).sub (Wei.ether p.arbitrageFee)

def fieldNames : List String :=
  ["expected_profit", "max_bundle_fee", "max_arbitrage_fee"]

def ofJson? (j : Json) : Option Profit := do
  let r ← Json.Record.ofJson? fieldNames j
  return {
    expected := ← (r.slot "expected_profit").required Json.wei?
    bundleFee := ← (r.slot "max_bundle_fee").required Json.wei?
    arbitrageFee := ← (r.slot "max_arbitrage_fee").required Json.wei? }

def toJson (p : Profit) : Json :=
  Json.object [
    ("expected_profit", Json.ofWei p.expected),
    ("max_bundle_fee", Json.ofWei p.bundleFee),
    ("max_arbitrage_fee", Json.ofWei p.arbitrageFee)]

end Profit

/-- Which fee the expected profit has to cover. -/
inductive ProfitCheck
  /-- None: every bundle is admitted. -/
  | disabled
  /-- The fee of every transaction of the bundle. -/
  | strictCost
  /-- The fee of the settling transaction; the others are paid for anyway. -/
  | ignoreDistributeCost
  deriving DecidableEq

namespace ProfitCheck

def name : ProfitCheck → String
  | .disabled => "disabled"
  | .strictCost => "strict-cost"
  | .ignoreDistributeCost => "ignore-distribute-cost"

def all : List ProfitCheck :=
  [.disabled, .strictCost, .ignoreDistributeCost]

def ofName? (s : String) : Option ProfitCheck :=
  all.find? fun c => c.name = s

/-- The fee that the profit has to cover, if any. -/
def threshold? (check : ProfitCheck) (p : Profit) : Option Wei :=
  match check with
  | .disabled => none
  | .strictCost => some p.bundleFee
  | .ignoreDistributeCost => some p.arbitrageFee

/-- Whether the expected profit covers the fee; equality does. -/
def admits (check : ProfitCheck) (p : Profit) : Bool :=
  match check.threshold? p with
  | none => true
  | some fee => fee ≤ p.expected

/-- A check from its stored form: its name, or an object whose only member has that name and a null
value. -/
def ofJson? : Json → Option ProfitCheck
  | .str t => t.bind ofName?
  | .obj [(t, .null)] => t.bind ofName?
  | _ => none

def toJson (check : ProfitCheck) : Json :=
  Json.text check.name

/-- A check is found under its own name. -/
@[simp] theorem ofName?_name (c : ProfitCheck) : ofName? c.name = some c := by
  cases c <;> rfl

end ProfitCheck
end ArbBundle

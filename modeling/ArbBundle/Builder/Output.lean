import ArbBundle.Json.Parser
import ArbBundle.Text.Blank
import ArbBundle.Text.Quoted
import ArbBundle.Transaction.Decode

/-!
# Output — what a bundle builder prints

A builder prints an object with the signed transactions in order and the expected profit as text.

- `BuildError`: why there is no bundle
- `BuilderOutput.ofBytes?`: the shape of the output
- `BuilderOutput.bundle`: the profit, then the transactions in order, then the bundle; the first
  fault in that order is the error
-/

namespace ArbBundle

inductive BuildError
  /-- The command could not be started. -/
  | spawn
  /-- The command ended with a status other than success. -/
  | commandFailed (status stderr : String)
  /-- The output does not have the shape of a builder's output. -/
  | output
  | bundle (e : BundleError)
  /-- The expected profit is no amount. -/
  | profit (text : String)
  deriving DecidableEq

/-- The text of the error, where it is not left to other programs. -/
def BuildError.message? : BuildError → Option String
  | .spawn => none
  | .commandFailed status stderr => some s!"builder command exited with {status}: {stderr}"
  | .output => none
  | .bundle e => some e.message
  | .profit text => some s!"invalid expected profit {Text.quoted text}"

structure BuiltBundle where
  bundle : Bundle
  expectedProfit : Wei
  deriving DecidableEq

structure BuilderOutput where
  transactions : List Bytes
  expectedProfit : String
  deriving DecidableEq

namespace BuilderOutput

def fieldNames : List String :=
  ["transactions", "expectedProfit"]

def ofJson? (j : Json) : Option BuilderOutput := do
  let r ← Json.Record.ofJson? fieldNames j
  return {
    transactions := ← (r.slot "transactions").required (Json.list? Json.bytes?)
    expectedProfit := ← (r.slot "expectedProfit").required Json.text? }

def ofBytes? (b : Bytes) : Option BuilderOutput :=
  (Json.ofBytes? b).bind ofJson?

/-- The transactions of a list of encodings whose first one has the place `index`. -/
def decodeFrom (index : Nat) (sender : Address) : List Bytes → Except BundleError (List Transaction)
  | [] => .ok []
  | raw :: rest => do
    let tx ← Transaction.decode index raw sender
    let txs ← decodeFrom (index + 1) sender rest
    return tx :: txs

def bundle (o : BuilderOutput) (sender : Address) : Except BuildError BuiltBundle :=
  let text := Text.trim o.expectedProfit.toList
  match Numeral.wei? text with
  | none => .error (.profit (String.ofList text))
  | some profit =>
    match (decodeFrom 0 sender o.transactions).bind Bundle.ofTransactions with
    | .error e => .error (.bundle e)
    | .ok b => .ok ⟨b, profit⟩

end BuilderOutput

def BuiltBundle.ofBytes (b : Bytes) (sender : Address) : Except BuildError BuiltBundle :=
  match BuilderOutput.ofBytes? b with
  | none => .error .output
  | some o => o.bundle sender

end ArbBundle

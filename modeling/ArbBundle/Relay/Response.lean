import ArbBundle.Http
import ArbBundle.Json.Kept
import ArbBundle.Json.Parser
import ArbBundle.Json.Record
import ArbBundle.Simulation
import ArbBundle.Transport

/-!
# Response — what a relay sends back

- `RelayResponse`: the envelope of an answer, with a result, an error, or both
- `RelayResponse.decide`: what an answer means; an error outweighs a result
- `acknowledgement?`, `Simulation.ofResult?`, `submissionHash?`: the results of the requests

The status of the web server is not looked at, since relays send errors under any status; it is
named only where the answer makes no sense.
-/

namespace ArbBundle

structure RelayFault where
  code : Int
  message : String
  deriving DecidableEq

def RelayFault.ofJson? (j : Json) : Option RelayFault := do
  let r ← Json.Record.ofJson? ["code", "message"] j
  return {
    code := ← (r.slot "code").required Json.int64?
    message := ← (r.slot "message").required Json.text? }

structure RelayResponse (α : Type) where
  result : Option α
  error : Option RelayFault
  deriving DecidableEq

namespace RelayResponse

variable {α : Type}

def ofJson? (read : Json → Option α) (j : Json) : Option (RelayResponse α) := do
  let r ← Json.Record.ofJson? ["result", "error"] j
  return {
    result := ← (r.slot "result").optional read
    error := ← (r.slot "error").optional RelayFault.ofJson? }

def decide (method : String) (read : Json → Option α) (response : HttpResponse) :
    Except TransportError α :=
  match (Json.ofText? (String.ofList (Text.lossy response.body))).bind (ofJson? read) with
  | none => .error (.malformedResponse s!"{method} (HTTP {HttpStatus.line response.status})")
  | some ⟨_, some fault⟩ => .error (.relay fault.code fault.message)
  | some ⟨none, none⟩ => .error (.malformedResponse s!"{method}: missing result")
  | some ⟨some a, none⟩ => .ok a

end RelayResponse

/-- The result of a request that gives nothing back; it may be anything but null. -/
def acknowledgement? (j : Json) : Option Unit :=
  (j.kept? 1).map fun _ => ()

def TxOutcome.ofResult? (j : Json) : Option TxOutcome := do
  let r ← Json.Record.ofJson? ["txHash", "gasUsed", "error", "revert"] j
  let revert ← (r.slot "revert").withDefault none (Json.nullable? Json.text?)
  return {
    txHash := ← (r.slot "txHash").required Json.fixed?
    gasUsed := ← (r.slot "gasUsed").withDefault 0 Json.uint64?
    error := ← (r.slot "error").withDefault none (Json.nullable? Json.text?)
    revert := (revert.map fun t => Text.utf8 t.toList).getD [] }

def Simulation.ofResult? (j : Json) : Option Simulation := do
  let r ← Json.Record.ofJson? ["bundleHash", "results"] j
  return {
    bundleHash := ← (r.slot "bundleHash").required Json.fixed?
    results := ← (r.slot "results").required (Json.list? TxOutcome.ofResult?) }

def submissionHash? (j : Json) : Option Digest := do
  let r ← Json.Record.ofJson? ["bundleHash"] j
  (r.slot "bundleHash").required Json.fixed?

end ArbBundle

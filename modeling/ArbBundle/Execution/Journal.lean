import ArbBundle.Builder.Output
import ArbBundle.Chain.Basic
import ArbBundle.Confirmation
import ArbBundle.Relay.Basic
import ArbBundle.Report.Event
import ArbBundle.Verification

/-!
# Journal — what a run does, in order

- `Collaborators`: the services that a run drives
- `Call`: a request to one of them
- `Journal`: the calls made and the events reported so far, each with its time
- `Session`: the services' state and the journal; `Session.perform` makes a call and notes it,
  `Session.report` notes an event
-/

namespace ArbBundle

/-- The services that a run drives. -/
structure Collaborators (σ : Type) where
  verify : Config → Timed σ (Except ValidationError Unit)
  build : Config → Timed σ (Except BuildError BuiltBundle)
  /-- Asks the operator, unless the question is bypassed. -/
  confirm : (bypass : Bool) → Timed σ (Except ConfirmationError Bool)
  relay : Relay σ
  chain : Chain σ

inductive Call
  | verify
  | updateFeeRefund (receiver : Address)
  | build
  | simulate (bundle : Bundle) (offset : UInt64)
  | confirm (bypass : Bool)
  | networkId
  | blockNumber
  | sendAndAwait (bundle : Bundle) (rounds : UInt32) (deadline : Nat)
  deriving DecidableEq

inductive Step
  | called (call : Call)
  | reported (event : Event)
  deriving DecidableEq

/-- A step with the time at which it was made. -/
structure Entry where
  time : Nat
  step : Step
  deriving DecidableEq

abbrev Journal := List Entry

namespace Journal

def events (j : Journal) : List Event :=
  j.filterMap fun e => match e.step with
    | .called _ => none
    | .reported event => some event

def timedCalls (j : Journal) : List (Nat × Call) :=
  j.filterMap fun e => match e.step with
    | .called call => some (e.time, call)
    | .reported _ => none

def calls (j : Journal) : List Call :=
  j.timedCalls.map Prod.snd

end Journal

/-- The state of the services, and what a run has done with them. -/
structure Session (σ : Type) where
  services : σ
  journal : Journal

namespace Session

variable {σ α : Type}

def new (services : σ) : Session σ :=
  ⟨services, []⟩

def note (step : Step) : Timed (Session σ) Unit := do
  let entry : Entry := ⟨← Timed.now, step⟩
  Timed.update fun s => { s with journal := s.journal ++ [entry] }

def report (event : Event) : Timed (Session σ) Unit :=
  note (.reported event)

def perform (call : Call) (answer : Timed σ α) : Timed (Session σ) α := do
  note (.called call)
  answer.focus services fun services s => { s with services }

end Session
end ArbBundle

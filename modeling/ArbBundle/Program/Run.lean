import ArbBundle.Builder.Command
import ArbBundle.Chain.Node
import ArbBundle.Execution.Wired
import ArbBundle.Program.Launch
import ArbBundle.Report.Console

/-!
# Run — the program from its start to its exit

- `Network`: what carries requests to web servers
- `Launch.attempt`: a run over a network, with the operator's input
- `Conclusion`: what the program writes, and the status it exits with
- `Program.run`: the program as a whole
-/

namespace ArbBundle

/-- What carries a body, and the signature that goes with it, to the server with a locator. -/
structure Network (ν : Type) where
  post : (server : String) → (signature : Option String) → (body : String) →
    Service ν (Except String HttpResponse)

namespace Program

/-- The world of a run: the network, and the operator. -/
structure World (ν : Type) where
  network : ν
  /-- What the operator has typed and was not read yet. -/
  input : Bytes
  /-- What was written to ask the operator. -/
  asked : Bytes

structure Conclusion where
  output : Bytes
  /-- The text of the error that ended it. -/
  error : Option String
  status : Nat
  deriving DecidableEq

def name : String := "arb-distribute"

def version : String := "0.1.0"

def help : String :=
  let line (f : Flag) : String :=
    s!"      --{f.name}" ++ (if f.isSwitch then "\n" else " <VALUE>\n")
  s!"Usage: {name} [OPTIONS]\n\nOptions:\n" ++ String.join (Flag.all.map line)

/-- The time of day so many milliseconds past one that is given in seconds. -/
def timeOfDay (start elapsed : Nat) : String :=
  let seconds := (start + elapsed / 1000) % 86400
  let two (n : Nat) : String := String.ofList (Decimal.Binary64.padded 2 n)
  s!"{two (seconds / 3600)}:{two (seconds / 60 % 60)}:{two (seconds % 60)}"

end Program

open Program

namespace Launch

variable {ν : Type}

def post (net : Network ν) (server : String) (signature : Option String) (body : String) :
    Service (World ν) (Except String HttpResponse) :=
  (net.post server signature body).focus World.network fun network w => { w with network }

/-- A client for the relay, which watches the chain through the node. -/
def client (l : Launch) (net : Network ν) : RelayClient (Node.State (World ν)) where
  key := l.key
  post request :=
    (post net l.config.relayUrl (some request.signature) request.body).focus Node.State.world
      fun world s => { s with world }
  chain := Node.chain (post net l.config.rpcUrl none)
  pollIntervalMs := l.config.broadcast.pollIntervalMs.toNat

def confirm (bypass : Bool) : Timed (Node.State (World ν)) (Except ConfirmationError Bool) :=
  fun _ m =>
    let asked := Confirmation.confirm bypass .unlimited m.state.world.input
    let world := { m.state.world with
      input := asked.rest
      asked := m.state.world.asked ++ asked.output }
    (some asked.result, { m with state := { m.state with world } })

def collaborators (l : Launch) (net : Network ν) :
    Collaborators (RelayClient.State (Node.State (World ν))) :=
  let builder : CommandBuilder := ⟨l.environment, l.files, true⟩
  (l.client net).collaborators (fun config => pure config.verify)
    (fun config => pure (builder.build config)) confirm

def attempt (l : Launch) (net : Network ν) (network : ν) (input : Bytes) :
    Option Execution.Result × Moment (Session (RelayClient.State (Node.State (World ν)))) :=
  (Execution.run (l.collaborators net) l.config).run
    ⟨Session.new (RelayClient.State.new ⟨⟨network, input, []⟩, 0⟩), 0⟩

/-! ## What is written -/

/-- The time of day at which the wait for a bundle ends, where the clock tells the time of day so
many milliseconds past the start.  A wait of more milliseconds than a signed number of 64 bits holds
is taken for none. -/
def deadlineText (clock : Nat → String) (time : Nat) : Event → String
  | .bundleSent _ _ _ windowSecs =>
    let wait := windowSecs.toNat * 1000
    clock (if wait < 0x8000000000000000 then time + wait else time)
  | _ => ""

/-- What an entry of the journal writes; `asked` is what was written to ask the operator. -/
def entryOutput (l : Launch) (clock : Nat → String) (asked : Bytes) (e : Entry) : Bytes :=
  match e.step with
  | .called (.confirm _) => asked
  | .called _ => []
  | .reported event =>
    match l.flags.report with
    | .tracing => []
    | .console =>
      Text.utf8 (Console.render (!l.flags.noColor) (deadlineText clock e.time event) event).toList

def output (l : Launch) (clock : Nat → String) (asked : Bytes) (j : Journal) : Bytes :=
  j.flatMap (l.entryOutput clock asked)

def errorText (e : ExecutionError) : String :=
  e.message?.getD s!"{e.stage.name}: failed to build bundle"

def conclude (result : Option Execution.Result) (output : Bytes) : Conclusion :=
  match result with
  | some (.ok outcome) => ⟨output, none, if outcome.isSuccess then 0 else 1⟩
  | some (.error e) => ⟨output, some (errorText e), 1⟩
  | none => ⟨output, none, 1⟩

end Launch

namespace Program

variable {ν : Type}

def refuse : LaunchError → Conclusion
  | .usage .displayHelp => ⟨Text.utf8 help.toList, none, 0⟩
  | .usage .displayVersion => ⟨Text.utf8 s!"{name} {version}\n".toList, none, 0⟩
  | .usage _ => ⟨[], none, 2⟩
  | e => ⟨[], e.message?, 1⟩

/-- The program as a whole, and the requests that it signed. -/
def run (s : Surroundings) (net : Network ν) (network : ν) (input : Bytes)
    (clock : Nat → String) : Conclusion × List SignedRequest :=
  match Launch.prepare s with
  | .error e => (refuse e, [])
  | .ok l =>
    let (result, m) := l.attempt net network input
    let client := m.state.services
    let output := l.output clock client.world.world.asked m.state.journal
    (Launch.conclude result output, client.wire)

end Program
end ArbBundle

import ArbBundle.Program.Run

/-!
# Replay — a run as far as its answers carry it

A run is a function of what the servers answer and of what the operator types.  Given what is known
of both so far, it either comes to its end or asks for something that is not known yet.

- `Posting`: a request for a server
- `Posting.line`, `HttpResponse.ofLine?`: requests and answers as lines of text
- `Replay`: the answers that were not used yet, and the first request without one
- `Progress`: what is missing, or the end
- `Launch.progress`: how far a run comes
-/

namespace ArbBundle

structure Posting where
  server : String
  signature : Option String
  body : String
  deriving DecidableEq

def Posting.line (p : Posting) : String :=
  (Json.object [("server", Json.text p.server),
    ("signature", Json.ofOption Json.text p.signature), ("body", Json.text p.body)]).render

def HttpResponse.ofLine? (line : String) : Option HttpResponse := do
  let r ← Json.Record.ofJson? ["status", "body"] (← Json.ofText? line)
  return {
    status := ← (r.slot "status").required Json.natural?
    body := Text.utf8 (← (r.slot "body").required Json.text?).toList }

structure Answered where
  /-- How long it took, in milliseconds. -/
  delay : Nat
  response : Except String HttpResponse

/-- A network of which only the first answers are known. -/
structure Replay where
  answers : List Answered
  /-- The first request that has no answer yet, and its time. -/
  missing : Option (Nat × Posting)

namespace Replay

/-- Answers requests in order; from the first one without an answer on, nothing is answered. -/
def network : Network Replay where
  post server signature body := fun time r =>
    match r.missing, r.answers with
    | none, a :: rest => (.after a.delay a.response, { r with answers := rest })
    | none, [] => (.never, { r with missing := some (time, ⟨server, signature, body⟩) })
    | some _, _ => (.never, r)

end Replay

inductive Progress
  /-- A request has no answer yet; `output` is what was written before it. -/
  | request (time : Nat) (posting : Posting) (output : Bytes)
  /-- The operator's answer is missing. -/
  | question (output : Bytes)
  | ended (conclusion : Program.Conclusion)

namespace Launch

/-- Whether a run ended because the operator has not typed an answer. -/
def isUnanswered : Option Execution.Result → Bool
  | some (.error (.confirmation .closed)) => true
  | _ => false

/-- How far a run comes with the answers and the input so far; `isClosed` says whether there is no
more input. -/
def progress (l : Launch) (answers : List Answered) (input : Bytes) (isClosed : Bool)
    (clock : Nat → String) : Progress :=
  let (result, m) := l.attempt Replay.network ⟨answers, none⟩ input
  let world := m.state.services.world.world
  let journal := m.state.journal
  match world.network.missing with
  | some (time, posting) =>
    let before := journal.filter fun e => e.time ≤ time
    .request time posting (l.output clock world.asked before)
  | none =>
    let output := l.output clock world.asked journal
    if isUnanswered result && !isClosed then .question output
    else .ended (conclude result output)

end Launch
end ArbBundle

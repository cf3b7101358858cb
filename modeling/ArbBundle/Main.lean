import ArbBundle.Program.Replay
import Std.Time.Zoned

/-!
# Main — the program on a machine

Reads the arguments, the environment and the files, and replays the run with every answer that comes
in.  Requests are handed to a gateway, which carries them over the network: one line with the
request goes to one file, and one line with the answer comes from another.
-/

open ArbBundle

namespace Machine

/-- The variable that names the gateway's files, less their endings. -/
def gatewayVariable : String := "ARB_GATEWAY"

def fileBytes? (name : String) : IO (Option Bytes) := do
  try
    return some (← IO.FS.readBinFile name).toList
  catch _ =>
    return none

/-- The environment, from the table that the system keeps of it. -/
def environment : IO (List (String × String)) := do
  let table := ((← fileBytes? "/proc/self/environ").getD []).splitOnP (· = 0)
  return table.filterMap fun b =>
    let text := Text.lossy b
    match text.dropWhile (· ≠ '=') with
    | _ :: value => some (String.ofList (text.takeWhile (· ≠ '=')), String.ofList value)
    | [] => none

def filesOf (names : List String) : IO (List (String × Bytes)) :=
  names.filterMapM fun name => do
    return (← fileBytes? name).map fun b => (name, b)

partial def freshKey : IO Curve.SigningKey := do
  let bytes := (← IO.getRandomBytes 32).toList
  match (FixedBytes.ofList? bytes).bind Curve.SigningKey.ofBytes? with
  | some key => return key
  | none => freshKey

/-- What the program finds around it, except for the files that its command reads. -/
def surroundings (arguments : List String) : IO Surroundings := do
  let environment ← environment
  let named := arguments.flatMap fun a => [a, String.ofList (a.toList.drop "--config=".length)]
  let settings := Flags.none.config :: named
  let files ← filesOf (Surroundings.definitionsFile :: settings ++ settings.map (· ++ ".toml"))
  return { arguments, environment, files, freshKey := ← freshKey }

/-- Carries a request to its server through the gateway. -/
def carry (gateway : Option String) (p : Posting) : IO (Except String HttpResponse) := do
  try
    match gateway with
    | none => return .error "no gateway"
    | some gateway =>
      let out ← IO.FS.Handle.mk (gateway ++ ".request") .append
      out.putStrLn p.line
      out.flush
      let answer ← (← IO.FS.Handle.mk (gateway ++ ".response") .read).getLine
      return (HttpResponse.ofLine? answer).elim (.error "no answer") .ok
  catch e =>
    return .error (toString e)

/-- Writes what was not written yet, and tells how much is written now. -/
def emit (written : Nat) (output : Bytes) : IO Nat := do
  let stdout ← IO.getStdout
  stdout.write (ByteArray.mk (output.drop written).toArray)
  stdout.flush
  return max written output.length

def conclude (written : Nat) (c : Program.Conclusion) : IO UInt32 := do
  let _ ← emit written c.output
  if let some message := c.error then IO.eprintln s!"Error: {message}"
  return c.status.toUInt32

/-- Replays a run until it ends, with every answer that comes in. -/
partial def drive (l : Launch) (gateway : Option String) (clock : Nat → String) (begun : Nat)
    (answers : List Answered) (input : Bytes) (isClosed : Bool) (written : Nat) : IO UInt32 := do
  match l.progress answers input isClosed clock with
  | .ended c => conclude written c
  | .question output =>
    let written ← emit written output
    let line ← (← IO.getStdin).getLine
    drive l gateway clock begun answers (input ++ Text.utf8 line.toList) line.isEmpty written
  | .request time posting output =>
    let written ← emit written output
    let now := (← IO.monoMsNow) - begun
    IO.sleep (time - now).toUInt32
    let response ← carry gateway posting
    let delay := (← IO.monoMsNow) - begun - max time now
    drive l gateway clock begun (answers ++ [⟨delay, response⟩]) input isClosed written

end Machine

def main (arguments : List String) : IO UInt32 := do
  let s ← Machine.surroundings arguments
  match Launch.prepare s with
  | .error e => Machine.conclude 0 (Program.refuse e)
  | .ok l =>
    let files ← Machine.filesOf (CommandBuilder.words l.config.builderCommand)
    let start := (← Std.Time.PlainTime.now).toSeconds.val.toNat
    Machine.drive { l with files } (l.environment.lookup Machine.gatewayVariable)
      (Program.timeOfDay start) (← IO.monoMsNow) [] [] false 0

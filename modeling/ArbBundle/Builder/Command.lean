import ArbBundle.Builder.Output
import ArbBundle.Config
import ArbBundle.Shell.Run

/-!
# Command — building a bundle with a shell command

The command finds the node's account and its locator among its variables, and prints the bundle.
Its input is empty.

- `CommandBuilder`: what a command finds around it
- `CommandBuilder.words`: the names of files that a command may ask for
- `CommandBuilder.judge`: what a command that has ended gave
- `CommandBuilder.build`: the bundle of a configured command
-/

namespace ArbBundle

structure CommandBuilder where
  /-- The variables that it inherits. -/
  environment : List (String × String)
  /-- The files of the working directory. -/
  files : List (String × Bytes)
  /-- Whether there is a shell to run it. -/
  hasShell : Bool

namespace CommandBuilder

/-- The words of a command, any of which may name a file. -/
def words (command : String) : List String :=
  (command.toList.splitOnP fun c => !(c.isAlphanum || "./_-".toList.contains c)).map String.ofList

/-- What a command that has ended gave: the bundle that it printed, if it ended well. -/
def judge (ended : Shell.Finished) (sender : Address) : Except BuildError BuiltBundle :=
  if ended.ending = .exited 0 then BuiltBundle.ofBytes ended.output sender
  else
    let said := Text.trim (Text.lossy ended.errors)
    .error (.commandFailed ended.ending.message (String.ofList said))

/-- The variables of a command: those that it inherits, and what it needs to know of the node. -/
def environmentFor (b : CommandBuilder) (config : Config) : List (String × String) :=
  [("NODE_ADDRESS", config.nodeAddress.checksum), ("RPC_URL", config.rpcUrl)] ++ b.environment

def build (b : CommandBuilder) (config : Config) : Except BuildError BuiltBundle :=
  if b.hasShell then
    judge (Shell.run config.builderCommand (b.environmentFor config) b.files) config.nodeAddress
  else .error .spawn

end CommandBuilder
end ArbBundle

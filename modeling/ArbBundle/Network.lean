/-!
# Network — what is known of each chain

Block builders that take bundles, and the page of a transaction on the usual block explorer.
-/

namespace ArbBundle
namespace Network

def mainnet : UInt64 := 1

def holesky : UInt64 := 17000

def sepolia : UInt64 := 11155111

def mainnetBuilders : List String :=
  ["flashbots", "f1b.io", "rsync", "beaverbuild.org", "builder0x69", "Titan", "EigenPhi",
    "boba-builder", "Gambit Labs", "payload", "Loki", "BuildAI", "JetBuilder", "tbuilder",
    "penguinbuild", "bobthebuilder", "BTCS", "bloXroute"]

/-- The builders that take bundles on a network. -/
def knownBuilders (chainId : UInt64) : List String :=
  if chainId = mainnet then mainnetBuilders else ["flashbots"]

/-- What comes before the hash in the address of a transaction's page. -/
def explorerPage (chainId : UInt64) : String :=
  if chainId = holesky then "https://holesky.etherscan.io/tx/"
  else if chainId = sepolia then "https://sepolia.etherscan.io/tx/"
  else "https://etherscan.io/tx/"

end Network
end ArbBundle

/-!
# Transport — what can go wrong between the program and the services it calls
-/

namespace ArbBundle

/-- Why a call to the relay or to the chain has no answer. -/
inductive TransportError
  /-- The request did not get through. -/
  | http (reason : String)
  /-- The chain's node refused the request, or its answer makes no sense. -/
  | rpc (reason : String)
  /-- The relay refused the request. -/
  | relay (code : Int) (reason : String)
  /-- The relay's answer makes no sense. -/
  | malformedResponse (reason : String)
  /-- The request could not be signed. -/
  | signing (reason : String)
  /-- There is nothing sensible to ask. -/
  | invalidRequest (reason : String)
  deriving DecidableEq

def TransportError.message : TransportError → String
  | .http reason => s!"HTTP request failed: {reason}"
  | .rpc reason => s!"RPC error: {reason}"
  | .relay code reason => s!"relay returned error {code}: {reason}"
  | .malformedResponse reason => s!"malformed response: {reason}"
  | .signing reason => s!"request signing failed: {reason}"
  | .invalidRequest reason => s!"invalid request: {reason}"

end ArbBundle

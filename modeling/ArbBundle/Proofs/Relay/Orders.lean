import ArbBundle.Proofs.Relay.Simulation

/-!
# Orders — the requests on the wire, as a relay reads them

A relay has only the text of a request: which version of the protocol it follows, its number, its
method and its parameters.  All of these can be read back from the text that a client writes, so
what is on the wire can be said without saying how it is written.

- `Order`: what a relay may be told to do
- `Order.ofText?`: the number and the order of a text
- `RelayRequest.order_of_body`: every request is read as the order that it stands for
-/

namespace ArbBundle

inductive Order
  /-- To pay the fee refunds of a signer to a receiver from now on. -/
  | refund (signer receiver : Address)
  | simulation (inquiry : Inquiry)
  | submission (submission : Submission)

namespace Order

/-- The two accounts that refunds are about. -/
def refund? (params : Json) : Option Order := do
  let [signer, receiver] ← params.elements? | none
  return .refund (← signer.fixed?) (← receiver.fixed?)

def ofCall? (method : String) (params : Json) : Option Order :=
  if method = "flashbots_setFeeRefundRecipient" then refund? params
  else if method = "eth_callBundle" then (Inquiry.ofParams? params).map simulation
  else if method = "eth_sendBundle" then (Submission.ofParams? params).map submission
  else none

/-- The number and the order of a text, if it gives any under version 2.0 of the protocol. -/
def ofText? (s : String) : Option (Nat × Order) := do
  let request ← Json.ofText? s
  let version ← (request.member? "jsonrpc").bind Json.text?
  let id ← (request.member? "id").bind Json.natural?
  let method ← (request.member? "method").bind Json.text?
  let order ← (request.member? "params").bind (ofCall? method)
  if version = "2.0" then some (id, order) else none

end Order

namespace RelayRequest

variable {request : RelayRequest}

def order : RelayRequest → Order
  | .setFeeRefundRecipient signer receiver => .refund signer receiver
  | .callBundle transactions block => .simulation ⟨transactions, Hex.quantity block.toNat⟩
  | .sendBundle transactions block builders =>
    .submission ⟨transactions, Hex.quantity block.toNat, builders⟩

@[simp] theorem version_toJson (request : RelayRequest) (id : Nat) :
    (request.toJson id).member? "jsonrpc" = some (Json.text "2.0") := by
  simp [toJson, Json.member?, Json.object]

@[simp] theorem id_toJson (request : RelayRequest) (id : Nat) :
    (request.toJson id).member? "id" = some (Json.ofNat id) := by
  simp [toJson, Json.member?, Json.object, List.lookup_cons]

/-- The parameters of a request hold nothing but data. -/
theorem written_params (request : RelayRequest) : Json.Written request.params := by
  cases request with
  | setFeeRefundRecipient signer receiver =>
      refine .arr fun account haccount => ?_
      simp only [List.mem_cons, List.not_mem_nil, or_false] at haccount
      rcases haccount with rfl | rfl
      · exact Json.restores_fixed.written signer
      · exact Json.restores_fixed.written receiver
  | callBundle transactions block =>
      exact written_callBundle
  | sendBundle transactions block builders =>
      exact written_sendBundle

/-- Method and parameters of a request are read back as its order. -/
theorem ofCall?_params (request : RelayRequest) :
    Order.ofCall? request.method request.params = some request.order := by
  cases request with
  | setFeeRefundRecipient signer receiver =>
      have hsigner : Json.fixed? (Json.ofBytes signer.toList) = some signer :=
        Json.restores_fixed.read signer
      have hreceiver : Json.fixed? (Json.ofBytes receiver.toList) = some receiver :=
        Json.restores_fixed.read receiver
      simp [Order.ofCall?, Order.refund?, method, params, order, Json.elements?, hsigner, hreceiver]
  | callBundle transactions block =>
      simp [Order.ofCall?, method, order, inquiry_of_params]
  | sendBundle transactions block builders =>
      simp [Order.ofCall?, method, order, submission_of_params]

/-- The text of a request is read as its number and what it tells a relay to do. -/
theorem order_of_body (request : RelayRequest) (id : Nat) :
    Order.ofText? (request.body id) = some (id, request.order) := by
  rw [Order.ofText?, ofText?_body request.written_params]
  simp [Json.text, Json.text?, Json.natural?_ofNat, ofCall?_params]

/-- Requests that are numbered in a row are read as their orders, numbered in the same way. -/
theorem orders_of_bodies (requests : List RelayRequest) (first : Nat) :
    ((requests.zipIdx first).map fun p => Order.ofText? (p.1.body p.2)) =
      ((requests.map order).zipIdx first).map fun p => some (p.2, p.1) := by
  simp only [order_of_body, List.zipIdx_map, List.map_map]
  rfl

end RelayRequest
end ArbBundle

import ArbBundle.Proofs.Execution.Reported
import ArbBundle.Proofs.Json.Record
import ArbBundle.Proofs.Relay.Submissions

/-!
# Answers — what the members of a relay's answer decide

An answer is an object with a result, an error, or both, and with members that nobody asks for.  A
member that is null counts as one that is not there, and a member that cannot be read spoils the
whole answer.  An error that can be read outweighs any result that can.

- `HttpResponse.Holds`: the members of a body
- `RelayResponse.Grants`, `RelayResponse.Rejects`: the answers that give a result, or an error
- `RelayResponse.decide_eq_ok_iff_grants`, `RelayResponse.decide_eq_relay_iff_rejects`: what they
  mean
- `RelayFault.ofJson?_object_iff`: the error of an object
- `RelayResponse.Settles`: what a request comes to, by the members of its answer
- `RelayClient.Heeds`: a submission ends with the first rejection
- `RelayClient.answers_by_members`: every request and every submission does so
-/

namespace ArbBundle

/-! ## Bodies and faults -/

/-- The body of a response is an object with these members, and no name is there twice. -/
structure HttpResponse.Holds (response : HttpResponse) (members : List (String × Json)) : Prop where
  text : Json.ofText? (String.ofList (Text.lossy response.body)) = some (Json.object members)
  nodup : (members.map Prod.fst).Nodup

/-- The fault of an object is its code and its message, whatever else it holds. -/
theorem RelayFault.ofJson?_object_iff {members : List (String × Json)} {fault : RelayFault}
    (hnodup : (members.map Prod.fst).Nodup) :
    ofJson? (Json.object members) = some fault ↔
      (∃ v, ("code", v) ∈ members ∧ v.int64? = some fault.code) ∧
        ∃ v, ("message", v) ∈ members ∧ v.text? = some fault.message := by
  rw [← Json.Record.required_eq_some_iff hnodup, ← Json.Record.required_eq_some_iff hnodup, ofJson?,
    Json.Record.ofJson?_object hnodup]
  simp only [Option.bind_eq_bind, Option.bind_some, Json.Record.slot_map, List.mem_cons, true_or,
    or_true, Option.bind_eq_some_iff]
  constructor
  · rintro ⟨code, hcode, message, hmessage, hfault⟩
    cases hfault
    exact ⟨hcode, hmessage⟩
  · rintro ⟨hcode, hmessage⟩
    exact ⟨_, hcode, _, hmessage, rfl⟩

namespace RelayResponse

variable {α : Type} {method : String} {read : Json → Option α} {response : HttpResponse}
  {members : List (String × Json)}

/-! ## What an answer means -/

/-- An answer that gives a result: no error is given, and the result is given and can be read. -/
structure Grants (read : Json → Option α) (members : List (String × Json)) (a : α) : Prop where
  faultless : ∀ v, ¬ Json.Given members "error" v
  result : ∃ v, Json.Given members "result" v ∧ read v = some a

/-- An answer that gives an error: the error can be read, and so can the result if one is given. -/
structure Rejects (read : Json → Option α) (members : List (String × Json)) (fault : RelayFault) :
    Prop where
  fault : ∃ v, Json.Given members "error" v ∧ RelayFault.ofJson? v = some fault
  result : ∀ v, Json.Given members "result" v → (read v).isSome

/-- The envelope of an answer, if it can be read. -/
def envelope? (read : Json → Option α) (response : HttpResponse) : Option (RelayResponse α) :=
  (Json.ofText? (String.ofList (Text.lossy response.body))).bind (ofJson? read)

/-- A request has a result just where the envelope holds it and no error. -/
theorem decide_eq_ok_iff {a : α} :
    decide method read response = .ok a ↔ envelope? read response = some ⟨some a, none⟩ := by
  unfold decide envelope?
  generalize (Json.ofText? _).bind (ofJson? read) = envelope
  rcases envelope with _ | ⟨_ | _, _ | _⟩ <;> simp

/-- A request comes to a fault of the relay just where the envelope holds it, with a result beside
it or without. -/
theorem decide_eq_relay_iff {fault : RelayFault} :
    decide method read response = .error (.relay fault.code fault.message) ↔
      ∃ result, envelope? read response = some ⟨result, some fault⟩ := by
  unfold decide envelope?
  generalize (Json.ofText? _).bind (ofJson? read) = envelope
  cases fault
  rcases envelope with _ | ⟨_ | _, _ | ⟨_, _⟩⟩ <;> simp

/-- An answer that gives neither a result nor an error makes no sense. -/
theorem decide_malformed (hok : ∀ a, decide method read response ≠ .ok a)
    (hrelay : ∀ fault : RelayFault,
      decide method read response ≠ .error (.relay fault.code fault.message)) :
    ∃ text, decide method read response = .error (.malformedResponse text) := by
  unfold decide at hok hrelay ⊢
  generalize (Json.ofText? _).bind (ofJson? read) = envelope at hok hrelay ⊢
  -- Without an envelope, or with an empty one, there is nothing but the text of the error.
  rcases envelope with _ | ⟨_ | a, _ | fault⟩
  · exact ⟨_, rfl⟩
  · exact ⟨_, rfl⟩
  · exact absurd rfl (hrelay fault)
  · exact absurd rfl (hok a)
  · exact absurd rfl (hrelay fault)

/-- The envelope of an object has what its two members are read as. -/
theorem envelope?_eq_some_iff (h : response.Holds members) {result : Option α}
    {fault? : Option RelayFault} :
    envelope? read response = some ⟨result, fault?⟩ ↔
      (Json.Record.slotIn members "result").optional read = some result ∧
        (Json.Record.slotIn members "error").optional RelayFault.ofJson? = some fault? := by
  rw [envelope?, h.text, Option.bind_some, ofJson?, Json.Record.ofJson?_object h.nodup]
  simp only [Option.bind_eq_bind, Option.bind_some, Json.Record.slot_map, List.mem_cons, true_or,
    or_true, Option.bind_eq_some_iff]
  constructor
  · rintro ⟨_, hresult, _, hfault, henvelope⟩
    cases henvelope
    exact ⟨hresult, hfault⟩
  · rintro ⟨hresult, hfault⟩
    exact ⟨_, hresult, _, hfault, rfl⟩

/-- Read off the members of the answer: a request has a result just where they grant it. -/
theorem decide_eq_ok_iff_grants (h : response.Holds members) {a : α} :
    decide method read response = .ok a ↔ Grants read members a := by
  rw [decide_eq_ok_iff, envelope?_eq_some_iff h, Json.Record.optional_eq_some_iff h.nodup,
    Json.Record.optional_eq_none_iff h.nodup]
  exact ⟨fun ⟨hresult, hfaultless⟩ => ⟨hfaultless, hresult⟩,
    fun ⟨hfaultless, hresult⟩ => ⟨hresult, hfaultless⟩⟩

/-- Read off the members of the answer: a request comes to a fault just where they reject it so. -/
theorem decide_eq_relay_iff_rejects (h : response.Holds members) {fault : RelayFault} :
    decide method read response = .error (.relay fault.code fault.message) ↔
      Rejects read members fault := by
  rw [decide_eq_relay_iff]
  simp only [envelope?_eq_some_iff h, exists_and_right, Json.Record.optional_isSome_iff h.nodup,
    Json.Record.optional_eq_some_iff h.nodup]
  exact ⟨fun ⟨hresult, hfault⟩ => ⟨hfault, hresult⟩, fun ⟨hfault, hresult⟩ => ⟨hresult, hfault⟩⟩

/-- An object with a name that is no text makes no sense, whatever it holds. -/
theorem decide_of_nameless {named : List (Option String × Json)} {v : Json}
    (htext : Json.ofText? (String.ofList (Text.lossy response.body)) = some (.obj named))
    (hv : (none, v) ∈ named) :
    ∃ text, decide method read response = .error (.malformedResponse text) := by
  have hnames : ¬ named.all (fun m => m.1.isSome) = true := fun h =>
    Bool.false_ne_true (List.all_eq_true.1 h _ hv)
  have hrecord : ofJson? read (.obj named) = none := by
    rw [ofJson?, Json.Record.ofJson?, if_neg hnames]
    rfl
  rw [decide, htext, Option.bind_some, hrecord]
  exact ⟨_, rfl⟩

/-- What a request comes to when its answer is an object: the members decide. -/
structure Settles (read : Json → Option α) (response : HttpResponse)
    (result : Option (Except TransportError α)) : Prop where
  granted {members : List (String × Json)} : response.Holds members →
    ∀ a, result = some (.ok a) ↔ Grants read members a
  /-- An error that is given leaves no result. -/
  faulty {members : List (String × Json)} {v : Json} : response.Holds members →
    Json.Given members "error" v → ∀ a, result ≠ some (.ok a)
  rejected {members : List (String × Json)} : response.Holds members →
    ∀ fault : RelayFault, result = some (.error (.relay fault.code fault.message)) ↔
      Rejects read members fault
  /-- All other objects make no sense. -/
  malformed {members : List (String × Json)} : response.Holds members →
    (∀ a, ¬ Grants read members a) → (∀ fault, ¬ Rejects read members fault) →
    ∃ text, result = some (.error (.malformedResponse text))
  /-- Nor does one with a name that is no text. -/
  nameless {named : List (Option String × Json)} {v : Json} :
    Json.ofText? (String.ofList (Text.lossy response.body)) = some (.obj named) →
    (none, v) ∈ named → ∃ text, result = some (.error (.malformedResponse text))

/-- Whatever the members of an answer, they settle what the request comes to. -/
theorem settles_decide (method : String) (read : Json → Option α) (response : HttpResponse) :
    Settles read response (some (decide method read response)) := by
  constructor
  case granted =>
    intro members h a
    rw [Option.some_inj, decide_eq_ok_iff_grants h]
  case faulty =>
    intro members v h hv a hok
    rw [Option.some_inj, decide_eq_ok_iff_grants h] at hok
    exact hok.faultless v hv
  case rejected =>
    intro members h fault
    rw [Option.some_inj, decide_eq_relay_iff_rejects h]
  case malformed =>
    intro members h hgrants hrejects
    simp only [Option.some_inj]
    exact decide_malformed (fun a hok => hgrants a ((decide_eq_ok_iff_grants h).1 hok))
      fun fault hrelay => hrejects fault ((decide_eq_relay_iff_rejects h).1 hrelay)
  case nameless =>
    intro named v htext hv
    simp only [Option.some_inj]
    exact decide_of_nameless htext hv

end RelayResponse

/-! ## Requests and submissions -/

/-- The exchange is a submission that the relay rejects. -/
def Exchange.Rejected (fault : RelayFault) (e : Exchange) : Prop :=
  ∃ transactions block builders id signed delay response members,
    e = .posted (.sendBundle transactions block builders) id signed (.after delay (.ok response)) ∧
    response.Holds members ∧ RelayResponse.Rejects submissionHash? members fault

theorem Exchange.Rejected.failure? {fault : RelayFault} {e : Exchange} (h : e.Rejected fault) :
    e.failure? = some (.relay fault.code fault.message) := by
  obtain ⟨transactions, block, builders, id, signed, delay, response, members, rfl, hholds,
    hrejects⟩ := h
  have hdecide : RelayResponse.decide "eth_sendBundle" submissionHash? response =
      .error (.relay fault.code fault.message) :=
    (RelayResponse.decide_eq_relay_iff_rejects hholds).2 hrejects
  exact congrArg TransportError.ofResult? hdecide

namespace RelayClient

open Timed

variable {κ : Type} {c : RelayClient κ} {limit : Option Nat} {m : Moment (State κ)}

/-- A request that is made at a moment gets on the wire, and a response is there in time. -/
def Hears (c : RelayClient κ) (request : RelayRequest) (response : HttpResponse)
    (limit : Option Nat) (m : Moment (State κ)) : Prop :=
  ∃ signed delay world, SignedRequest.sign? c.key (request.body m.state.nextId) = some signed ∧
    c.post signed m.now m.state.world = (.after delay (.ok response), world) ∧
    Arrives limit m.now delay

/-- A request that is answered in time comes to what its answer means. -/
theorem call_of_hears {α : Type} {request : RelayRequest} {response : HttpResponse}
    (h : c.Hears request response limit m) (read : Json → Option α) :
    (c.call request read limit m).1 =
      some (RelayResponse.decide request.method read response) := by
  obtain ⟨signed, delay, world, hsign, hpost, harrives⟩ := h
  rw [call_of_response hsign hpost harrives]

/-- A submission that the relay rejects in time comes to the rejection, and nothing is done behind
it. -/
def Heeds (c : RelayClient κ) (limit : Option Nat) (m : Moment (State κ))
    (ending : Option (Except TransportError Bool) × Moment (State κ)) : Prop :=
  ∃ log : Log κ, ending.2.state.exchanges = log.noted.reverse ++ m.state.exchanges ∧
    log.Path c (around m) (around ending.2) ∧
    ∀ before x after fault, log = before ++ x :: after → Exchange.Rejected fault x.2 →
      x.2.Ends limit x.1.now →
      after = [] ∧ ending.1 = some (.error (.relay fault.code fault.message))

/-- A rejection in any round is the result of the whole submission, and the last thing that is
done. -/
theorem sendAndAwait_heeds (bundle : Bundle) (rounds : UInt32) (deadline : Nat) :
    c.Heeds limit m (c.sendAndAwait bundle rounds deadline limit m) := by
  cases htarget : bundle.targetBlock with
  | none =>
      -- Nothing is done about a bundle without a target.
      rw [sendAndAwait_untargeted htarget]
      exact ⟨[], rfl, rfl, fun before x after fault hlog => by simp at hlog⟩
  | some first =>
      rcases hrun : c.sendAndAwait bundle rounds deadline limit m with ⟨result, m'⟩
      simp only [sendAndAwait, htarget] at hrun
      obtain ⟨log, requests, hx, hrounds⟩ := sendRounds_rounds hrun
      refine ⟨log, hx.exchanges, hrounds.course.path, ?_⟩
      intro before x after fault hlog hrejected hends
      -- A rejection is a failure of its exchange, and a wait ends with the first failure.
      have hfailure := hrejected.failure?
      have hmem : x ∈ log := hlog ▸ List.mem_append_right before List.mem_cons_self
      have hdecisive : x.2.failure? ≠ none := by
        rw [hfailure]
        exact Option.some_ne_none _
      exact ⟨hrounds.course.last_of_decisive hlog (.inr hdecisive),
        hrounds.course.failed_iff.2 ⟨x, hmem, hfailure, hends⟩⟩

/-- Whatever a relay is asked for, and whatever status its response has, an object in the response
that names nothing twice decides what the request comes to: a result, the error of the relay, or an
answer that makes no sense.  So a submission that is rejected in any round comes to that rejection,
and asks neither the relay nor the chain for anything behind it. -/
theorem answers_by_members (c : RelayClient κ) (limit : Option Nat) (m : Moment (State κ)) :
    (∀ (α : Type) (request : RelayRequest) (read : Json → Option α) (response : HttpResponse),
      c.Hears request response limit m →
        RelayResponse.Settles read response (c.call request read limit m).1) ∧
    ∀ (bundle : Bundle) (rounds : UInt32) (deadline : Nat),
      c.Heeds limit m (c.sendAndAwait bundle rounds deadline limit m) := by
  refine ⟨fun α request read response hhears => ?_, sendAndAwait_heeds⟩
  rw [call_of_hears hhears]
  exact RelayResponse.settles_decide request.method read response

/-! ## A relay that rejects everything -/

/-- An error without a result. -/
def refused : List (String × Json) :=
  [("error", Json.object [("message", Json.text "too late"), ("code", Json.ofNat 7)])]

/-- A response that brings it. -/
def refusal : HttpResponse :=
  ⟨400, Text.utf8 (Json.object refused).chars⟩

/-- A client of a relay that gives this response, at once, to every request. -/
def refusing : RelayClient ChainScript :=
  { misnaming with post := fun _ => .steady (.after 0 (.ok refusal)) }

theorem refusal_holds : refusal.Holds refused where
  text := by
    have hlossy : Text.lossy refusal.body = (Json.object refused).chars := by
      decide +kernel
    have hwritten : (Json.object refused).Written := by
      refine .object fun m hm => ?_
      rw [List.mem_singleton.1 hm]
      refine .object fun m hm => ?_
      rcases List.mem_cons.1 hm with rfl | hm
      · exact .text _
      · rw [List.mem_singleton.1 hm]
        exact .nat 7
    rw [hlossy]
    exact Json.ofText?_render hwritten
  nodup := by
    decide

/-- The members of the error may stand in any order. -/
theorem refused_rejects {α : Type} (read : Json → Option α) :
    RelayResponse.Rejects read refused ⟨7, "too late"⟩ where
  fault := by
    refine ⟨_, ⟨List.mem_singleton_self _, nofun⟩, (RelayFault.ofJson?_object_iff (by decide)).2
      ⟨⟨Json.ofNat 7, by simp, by decide⟩, Json.text "too late", by simp, rfl⟩⟩
  result v hv := by
    have hname : "result" = "error" := congrArg Prod.fst (List.mem_singleton.1 hv.1)
    exact absurd hname (by decide)

/-- A client of that relay that has made one request before. -/
def refusedOnce : Moment (State ChainScript) :=
  ⟨⟨mining, 2, []⟩, 0⟩

theorem refusing_signs : ∃ signed, SignedRequest.sign? refusing.key
    (RelayRequest.body (.sendBundle [[]] 5 ["flashbots"]) refusedOnce.state.nextId) = some signed :=
  Option.isSome_iff_exists.1 ((sign?_isSome _ _).trans signs_submission)

/-- The client makes one submission, and does nothing else. -/
theorem refusing_posts {signed : SignedRequest} (hsign : SignedRequest.sign? refusing.key
    (RelayRequest.body (.sendBundle [[]] 5 ["flashbots"]) refusedOnce.state.nextId) =
      some signed) :
    (refusing.sendAndAwait ((default : Bundle).routed 17000 4) 3 10 none
        refusedOnce).2.state.exchanges =
      [(0, .posted (.sendBundle [[]] 5 ["flashbots"]) 2 signed (.after 0 (.ok refusal)))] := by
  have hsubmit : refusing.submit ((default : Bundle).routed 17000 4) 5 none refusedOnce = _ :=
    call_of_response hsign rfl (.inl rfl) submissionHash?
  have hdecide : RelayResponse.decide "eth_sendBundle" submissionHash? refusal =
      .error (.relay 7 "too late") :=
    (RelayResponse.decide_eq_relay_iff_rejects refusal_holds).2 (refused_rejects submissionHash?)
  have htarget : ((default : Bundle).routed 17000 4).targetBlock = some 5 := rfl
  have hrounds : (3 : UInt32).toNat = 2 + 1 := rfl
  have hnow : now none refusedOnce = (some 0, refusedOnce) := rfl
  have hopen : ¬ 10 ≤ 0 := by decide
  simp only [sendAndAwait, htarget]
  rw [hrounds, sendRounds, bind_of_some hnow, if_neg hopen, bind_of_some hsubmit]
  dsimp only [RelayRequest.method]
  rw [hdecide]
  rfl

/-- A submission to that relay is made once, and is rejected. -/
theorem refusing_rejects :
    refusing.Hears (.sendBundle [[]] 5 ["flashbots"]) refusal none refusedOnce ∧
      refusal.Holds refused ∧ RelayResponse.Rejects submissionHash? refused ⟨7, "too late"⟩ ∧
      (refusing.call (.sendBundle [[]] 5 ["flashbots"]) submissionHash? none refusedOnce).1 =
        some (.error (.relay 7 "too late")) ∧
      (refusing.sendAndAwait ((default : Bundle).routed 17000 4) 3 10 none refusedOnce).1 =
        some (.error (.relay 7 "too late")) := by
  obtain ⟨signed, hsign⟩ := refusing_signs
  have hhears : refusing.Hears (.sendBundle [[]] 5 ["flashbots"]) refusal none refusedOnce :=
    ⟨signed, 0, mining, hsign, rfl, .inl rfl⟩
  have hrejects := refused_rejects submissionHash?
  obtain ⟨hcalls, hsubmissions⟩ := answers_by_members refusing none refusedOnce
  obtain ⟨log, hlog, -, hlast⟩ := hsubmissions ((default : Bundle).routed 17000 4) 3 10
  rw [refusing_posts hsign] at hlog
  -- The log is the one submission.
  have hnoted : log.noted = [(0, .posted (.sendBundle [[]] 5 ["flashbots"]) 2 signed
      (.after 0 (.ok refusal)))] := by
    have hreversed := congrArg List.reverse hlog.symm
    simpa [refusedOnce] using hreversed
  obtain ⟨x, rfl, hx⟩ := List.map_eq_singleton_iff.1 hnoted
  obtain ⟨hstart, hposted⟩ := Prod.mk.inj hx
  have hrejected : Exchange.Rejected ⟨7, "too late"⟩ x.2 :=
    ⟨_, _, _, _, _, _, _, _, hposted, refusal_holds, hrejects⟩
  have hends : x.2.Ends none x.1.now := by
    rw [hposted]
    exact ⟨0, rfl, .inl rfl⟩
  exact ⟨hhears, refusal_holds, hrejects,
    ((hcalls _ _ submissionHash? _ hhears).rejected refusal_holds ⟨7, "too late"⟩).2 hrejects,
    (hlast [] x [] _ rfl hrejected hends).2⟩

end RelayClient
end ArbBundle

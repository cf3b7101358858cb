import ArbBundle.Proofs.Execution.Submission
import ArbBundle.Proofs.Relay.Orders

/-!
# Wire — the requests of a whole run

- `Execution.Composes`: the bundle that the builder makes for a run
- `Broadcasts`, `Decides`, `Executes`, `Transmits`: what the stages of a run put on the wire, from
  the last one to the whole run
- `RelayClient.wire_of_run`: the same for a run that starts with a new client, as the texts on the
  wire are read
-/

namespace ArbBundle

open Timed

/-- The builder's answer in a run: the settings pass, the receiver of fee refunds is installed where
there is one, and then a bundle is built. -/
def Execution.Composes {σ : Type} (c : Collaborators σ) (config : Config) (limit : Option Nat)
    (start : Moment σ) (built : BuiltBundle) : Prop :=
  ∃ verified credited composed, c.verify config limit start = (some (.ok ()), verified) ∧
    Credits c config limit verified credited ∧
    c.build config limit credited = (some (.ok built), composed)

namespace RelayClient

variable {κ α : Type} {c : RelayClient κ} {limit : Option Nat} {bundle : Bundle}
  {s s' s'' : State κ} {journal : Journal} {time : Nat}

/-! ## Broadcasts -/

/-- Nothing is put on the wire but submissions of a bundle, and not more than the settings allow. -/
def Broadcasts (config : Config) (bundle : Bundle) (s s' : State κ) : Prop :=
  ∃ sends n, s.Posts s' sends n ∧ bundle.Resends config.broadcast.retryRounds.toNat sends

theorem Broadcasts.of_posts {config : Config} {n : Nat} (h : s.Posts s' [] n) :
    Broadcasts config bundle s s' :=
  ⟨[], n, h, (bundle.resends_submissions 0 0).mono (Nat.zero_le _)⟩

theorem Broadcasts.after {config : Config} (h' : Broadcasts config bundle s' s'')
    (h : s.Posts s' [] 0) : Broadcasts config bundle s s'' := by
  obtain ⟨sends, n, hs, hsends⟩ := h'
  exact ⟨sends, n, h.after hs, hsends⟩

/-- Routing a bundle does not touch its transactions. -/
theorem Broadcasts.of_routed {config : Config} {networkId head : UInt64}
    (h : Broadcasts config (bundle.routed networkId head) s s') :
    Broadcasts config bundle s s' := by
  obtain ⟨sends, n, hs, hsends⟩ := h
  exact ⟨sends, n, hs, hsends.length_le, hsends.same⟩

variable {config : Config}

theorem awaitInclusion_broadcasts (c : RelayClient κ) (bundle : Bundle) :
    (config.broadcast.awaitInclusion c.relay bundle).Yields limit ⟨⟨s, journal⟩, time⟩
      fun _ m' => Broadcasts config bundle s m'.state.services := by
  unfold Yields
  by_cases htime : config.broadcast.HasDeadline time
  · rw [Broadcast.awaitInclusion_apply c.relay bundle htime, map_apply]
    dsimp only [Broadcast.supervised]
    -- The deadline may cut the submission short, but what it has sent by then is sent.
    rw [within_state, Session.perform_apply]
    obtain ⟨sends, n, hs, hsends⟩ := sendAndAwait_posts (rfl : c.sendAndAwait bundle
      config.broadcast.retryRounds (config.broadcast.deadlineFrom time) _ ⟨s, time⟩ = (_, _))
    exact ⟨sends, n, hs, hsends⟩
  · rw [Broadcast.awaitInclusion_halts c.relay bundle htime]
    exact .of_posts (.of_same rfl rfl)

/-- The two questions to the chain put nothing on the wire, and the wait puts submissions there. -/
theorem send_broadcasts (c : RelayClient κ) (bundle : Bundle) (bundleHash : Digest) :
    (config.broadcast.send c.relay c.watched bundle bundleHash).Yields limit ⟨⟨s, journal⟩, time⟩
      fun _ m' => Broadcasts config bundle s m'.state.services := by
  refine Session.yields_perform_bind (fun m hm => ?_) fun network m hm => ?_
  · exact .of_posts (call_aside c.chain.networkId hm).2
  have hlocated := (call_aside c.chain.networkId hm).2
  cases network with
  | error e =>
      exact .of_posts hlocated
  | ok networkId =>
      refine Session.yields_perform_bind (fun m' hm' => ?_) fun newest m' hm' => ?_
      · exact .of_posts (hlocated.after (call_aside c.chain.blockNumber hm').2)
      have hrouted := hlocated.after (call_aside c.chain.blockNumber hm').2
      cases newest with
      | error e =>
          exact .of_posts hrouted
      | ok head =>
          refine Session.yields_report_bind ?_
          refine (awaitInclusion_broadcasts c (bundle.routed networkId head)).bind
            (fun m'' h => h.of_routed.after hrouted) fun waited m'' h => ?_
          cases waited with
          | error source =>
              exact h.of_routed.after hrouted
          | ok state =>
              exact h.of_routed.after hrouted

variable (c) (verify : Config → Timed κ (Except ValidationError Unit))
  (build : Config → Timed κ (Except BuildError BuiltBundle))
  (confirm : (bypass : Bool) → Timed κ (Except ConfirmationError Bool))

theorem settle_broadcasts (bundle : Bundle) (simulation : Simulation) :
    (Execution.settle (c.collaborators verify build confirm) config bundle simulation).Yields limit
      ⟨⟨s, journal⟩, time⟩ fun _ m' => Broadcasts config bundle s m'.state.services := by
  refine (send_broadcasts c bundle simulation.bundleHash).bind (fun _ h => h) fun sent m' h => ?_
  rcases sent with ⟨e | report, routed⟩
  · exact h
  · dsimp only
    split
    · exact Session.yields_report_bind (yields_pure h)
    · exact Session.yields_report_bind (yields_pure h)

/-- Nor does the question to the operator put anything on the wire. -/
theorem proceed_broadcasts (bundle : Bundle) (simulation : Simulation) :
    (Execution.proceed (c.collaborators verify build confirm) config bundle simulation).Yields limit
      ⟨⟨s, journal⟩, time⟩ fun _ m' => Broadcasts config bundle s m'.state.services := by
  refine Session.yields_perform_bind (fun m hm => ?_) fun answer m hm => ?_
  · exact .of_posts (aside_posts hm)
  have hasked := aside_posts hm
  rcases answer with e | _ | _
  · exact .of_posts hasked
  · exact Session.yields_report_bind (yields_pure (.of_posts hasked))
  · refine yields_map ((settle_broadcasts c verify build confirm bundle simulation).mono ?_)
    exact fun r m' h => h.after hasked

/-! ## Whole runs -/

/-- What follows upon the simulation of a bundle: submissions of it, and none in a dry run. -/
def Decides (config : Config) (bundle : Bundle) (s s' : State κ) : Prop :=
  ∃ sends n, s.Posts s' sends n ∧ bundle.Resends config.broadcast.retryRounds.toNat sends ∧
    (config.dryRun = true → sends = [])

theorem Decides.of_posts {n : Nat} (h : s.Posts s' [] n) : Decides config bundle s s' :=
  ⟨[], n, h, (bundle.resends_submissions 0 0).mono (Nat.zero_le _), fun _ => rfl⟩

/-- A decision puts submissions of the bundle on the wire, and none in a dry run. -/
theorem decide_decides (built : BuiltBundle) (simulation : Simulation) (verdict : Bool) :
    (Execution.decide (c.collaborators verify build confirm) config built simulation
      verdict).Yields limit ⟨⟨s, journal⟩, time⟩
      fun _ m' => Decides config built.bundle s m'.state.services := by
  have hsame : s.Posts s [] 0 := .of_same rfl rfl
  refine Execution.yields_reportEvaluation_bind fun journal => ?_
  by_cases hd : config.dryRun = true
  · simp only [if_pos hd]
    exact Session.yields_report_bind (yields_pure (.of_posts hsame))
  simp only [if_neg hd]
  split
  · exact yields_pure (.of_posts hsame)
  split
  · exact Session.yields_report_bind (yields_pure (.of_posts hsame))
  · refine (proceed_broadcasts c verify build confirm built.bundle simulation).mono ?_
    rintro r m' ⟨sends, n, hs, hsends⟩
    exact ⟨sends, n, hs, hsends, fun h => absurd h hd⟩

/-- What a run does behind its preflight: nothing, or a simulation of what the builder has made, and
what follows upon that. -/
def Executes (config : Config) (answer : Option (Except BuildError BuiltBundle)) (s s' : State κ) :
    Prop :=
  ∃ requests n, s.Posts s' requests n ∧ (requests = [] ∨ ∃ built block sends,
    answer = some (.ok built) ∧ requests = .callBundle built.bundle.encodings block :: sends ∧
    built.bundle.Resends config.broadcast.retryRounds.toNat sends ∧
    (config.dryRun = true → sends = []))

variable {answer : Option (Except BuildError BuiltBundle)}

theorem Executes.of_posts {n : Nat} (h : s.Posts s' [] n) : Executes config answer s s' :=
  ⟨[], n, h, Or.inl rfl⟩

theorem Executes.of_decides {built : BuiltBundle} {block : UInt64}
    (h : s.Posts s' [.callBundle built.bundle.encodings block] 1)
    (h' : Decides config built.bundle s' s'') : Executes config (some (.ok built)) s s'' := by
  obtain ⟨sends, n, hs, hsends, hdry⟩ := h'
  exact ⟨_, _, h.trans hs, Or.inr ⟨built, block, sends, rfl, rfl, hsends, hdry⟩⟩

/-- A simulation that nothing follows upon. -/
theorem Executes.of_simulate {built : BuiltBundle} {offset : UInt64} {m m' : Moment (State κ)}
    {result : Option (Except TransportError (Simulation × Bool))} (hbuilt : s.Posts m.state [] 0)
    (h : c.simulate built.bundle offset limit m = (result, m')) :
    Executes config (some (.ok built)) s m'.state := by
  rcases simulate_posts h with ⟨block, hs⟩ | ⟨n, hs, -⟩
  · exact .of_decides (hbuilt.after hs) (.of_posts (.of_same rfl rfl))
  · exact .of_posts (hbuilt.after hs)

/-- Behind its preflight a run has what was built simulated, and goes on with its decision. -/
theorem execute_executes :
    let d := c.collaborators verify build confirm
    (Execution.execute d config).Yields limit ⟨⟨s, journal⟩, time⟩
      fun _ m' => Executes config (d.build config limit ⟨s, time⟩).1 s m'.state.services := by
  intro d
  refine Session.yields_perform_bind (fun m hm => ?_) fun answer m hm => ?_
  · exact .of_posts (aside_posts hm)
  rw [hm]
  have hbuilt := aside_posts hm
  rcases answer with e | built
  · exact .of_posts hbuilt
  refine Session.yields_perform_bind (fun m' hm' => ?_) fun answer m' hm' => ?_
  · exact .of_simulate c hbuilt hm'
  rcases answer with e | ⟨simulation, verdict⟩
  · exact .of_simulate c hbuilt hm'
  · rcases simulate_posts hm' with ⟨block, hs⟩ | ⟨n, -, hnone⟩
    · refine (decide_decides c verify build confirm built simulation verdict).mono fun r m'' h => ?_
      exact .of_decides (hbuilt.after hs) h
    · exact absurd rfl (hnone (simulation, verdict))

/-- The request that has fee refunds paid to the receiver, where there is one. -/
def refundRequests (c : RelayClient κ) (config : Config) : List RelayRequest :=
  config.refundTarget?.toList.map fun target =>
    .setFeeRefundRecipient c.key.address target.address

/-- What a run puts on the wire: no more than the request for fee refunds, or this one, then the
simulation of the bundle that was built, and then submissions of it. -/
def Transmits (config : Config) (refund : List RelayRequest) (composes : BuiltBundle → Prop)
    (s s' : State κ) : Prop :=
  ∃ requests n, s.Posts s' requests n ∧ (requests <+: refund ∨ ∃ built block sends,
    composes built ∧ requests = refund ++ .callBundle built.bundle.encodings block :: sends ∧
    built.bundle.Resends config.broadcast.retryRounds.toNat sends ∧
    (config.dryRun = true → sends = []))

variable {refund requests : List RelayRequest} {composes : BuiltBundle → Prop}

theorem Transmits.of_posts {n : Nat} (h : s.Posts s' requests n) (hr : requests <+: refund) :
    Transmits config refund composes s s' :=
  ⟨requests, n, h, Or.inl hr⟩

theorem Transmits.of_executes (h : s.Posts s' refund refund.length)
    (h' : Executes config answer s' s'') (hanswer : ∀ built, answer = some (.ok built) →
      composes built) : Transmits config refund composes s s'' := by
  obtain ⟨requests, n, hs, rfl | ⟨built, block, sends, hb, rfl, hsends, hdry⟩⟩ := h'
  · exact .of_posts (h.trans hs) ⟨[], by simp⟩
  · exact ⟨_, _, h.trans hs, Or.inr ⟨built, block, sends, hanswer built hb, rfl, hsends, hdry⟩⟩

/-- A request for fee refunds that nothing follows upon. -/
theorem Transmits.of_updateFeeRefund {receiver : Address} {m m' : Moment (State κ)}
    {result : Option (Except TransportError Unit)} (hverified : s.Posts m.state [] 0)
    (h : c.updateFeeRefund receiver limit m = (result, m')) :
    Transmits config [.setFeeRefundRecipient c.key.address receiver] composes s m'.state := by
  rcases updateFeeRefund_posts h with hs | ⟨hs, -⟩
  · exact .of_posts (hverified.after hs) (List.prefix_refl _)
  · exact .of_posts (hverified.after hs) List.nil_prefix

/-- A run puts the request for refunds on the wire first, then the simulation, then submissions, and
may end behind each of them. -/
theorem run_transmits :
    let d := c.collaborators verify build confirm
    (Execution.run d config).Yields limit ⟨⟨s, journal⟩, time⟩ fun _ m' =>
      Transmits config (c.refundRequests config) (Execution.Composes d config limit ⟨s, time⟩) s
        m'.state.services := by
  intro d
  refine Session.yields_perform_bind (fun m hm => ?_) fun answer m hm => ?_
  · exact .of_posts (aside_posts hm) List.nil_prefix
  have hverified := aside_posts hm
  rcases answer with e | _
  · exact .of_posts hverified List.nil_prefix
  -- Whatever the preflight comes to, the builder is asked at the moment at which it ends.
  have hcomposes (credited : Moment (State κ)) (hc : Execution.Credits d config limit m credited)
      (built : BuiltBundle) (hb : (d.build config limit credited).1 = some (.ok built)) :
      Execution.Composes d config limit ⟨s, time⟩ built :=
    ⟨m, credited, _, hm, hc, Prod.ext hb rfl⟩
  unfold refundRequests
  cases ht : config.refundTarget? with
  | none =>
      simp only [Execution.preflight, ht, pure_bind]
      refine (execute_executes c verify build confirm).mono fun r m' h => ?_
      exact .of_executes hverified h (hcomposes m (by simp [Execution.Credits, ht]))
  | some target =>
      simp only [Execution.preflight, ht, bind_assoc]
      refine Session.yields_perform_bind (fun m' hm' => ?_) fun answer m' hm' => ?_
      · exact .of_updateFeeRefund c hverified hm'
      rcases answer with e | _
      · exact .of_updateFeeRefund c hverified hm'
      rcases updateFeeRefund_posts hm' with hs | ⟨-, hnone⟩
      · simp only [bind_assoc, pure_bind]
        refine Session.yields_report_bind ?_
        refine (execute_executes c verify build confirm).mono fun r m'' h => ?_
        exact .of_executes (hverified.after hs) h
          (hcomposes m' (by simpa [Execution.Credits, ht] using hm'))
      · exact absurd rfl (hnone ())

/-- A run puts its requests on the wire under the numbers from one on, without a gap: the one for
fee refunds where there is a receiver, then one simulation, and then no more submissions than the
settings allow, and none in a dry run.  What is submitted, however often, are the transactions that
were simulated, and these are the encodings of the bundle that the builder made for the run.  All of
this is what the texts on the wire say to whoever reads them. -/
theorem wire_of_run (config : Config) (limit : Option Nat) (world : κ) (time : Nat) :
    let d := c.collaborators verify build confirm
    let start : Moment (State κ) := ⟨.new world, time⟩
    let ending := (Execution.run d config limit ⟨.new start.state, start.now⟩).2.state.services
    let refund : List Order := config.refundTarget?.toList.map fun target =>
      .refund c.key.address target.address
    ∃ orders : List Order,
      (ending.wire.map fun s => Order.ofText? s.body) =
        (orders.zipIdx 1).map (fun p => some (p.2, p.1)) ∧
      (orders <+: refund ∨ ∃ built block sends,
        Execution.Composes d config limit start built ∧
        orders = refund ++
          .simulation ⟨built.bundle.transactions.map Transaction.raw, block⟩ :: sends ∧
        sends.length ≤ config.broadcast.retryRounds.toNat ∧
        (config.dryRun = true → sends = []) ∧
        ∀ o ∈ sends, ∃ block builders,
          o = .submission ⟨built.bundle.transactions.map Transaction.raw, block, builders⟩) := by
  intro d start ending refund
  obtain ⟨requests, n, hs, hrequests⟩ : Transmits config (c.refundRequests config)
      (Execution.Composes d config limit start) start.state ending :=
    run_transmits c verify build confirm
  have hrefund : (c.refundRequests config).map RelayRequest.order = refund := by
    rw [refundRequests, List.map_map]
    rfl
  -- A new client has nothing on the wire, and begins to count at one.
  have hbodies : ending.wire.map SignedRequest.body =
      (requests.zipIdx 1).map fun p => p.1.body p.2 := hs.wire
  refine ⟨requests.map RelayRequest.order, ?_, ?_⟩
  · have hread := congrArg (List.map Order.ofText?) hbodies
    rw [List.map_map, List.map_map] at hread
    exact hread.trans (RelayRequest.orders_of_bodies requests 1)
  · rcases hrequests with hprefix | ⟨built, block, sends, hb, rfl, hsends, hdry⟩
    · exact .inl (hrefund ▸ hprefix.map _)
    · refine .inr ⟨built, Hex.quantity block.toNat, sends.map RelayRequest.order, hb, ?_, ?_,
        fun h => ?_, fun o ho => ?_⟩
      · rw [List.map_append, hrefund]
        rfl
      · rw [List.length_map]
        exact hsends.length_le
      · rw [hdry h, List.map_nil]
      · obtain ⟨request, hrequest, rfl⟩ := List.mem_map.1 ho
        obtain ⟨target, builders, rfl⟩ := hsends.same request hrequest
        exact ⟨Hex.quantity target.toNat, builders, rfl⟩

end RelayClient
end ArbBundle

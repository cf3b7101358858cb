import ArbBundle.Proofs.Relay.Exchange

/-!
# Wait — the courses that a wait for inclusion can take

- `RelayClient.Watch`: the wait of one round, as the log of its exchanges, its result and its end
- `RelayClient.Rounds`: the rounds of a submission, in the same terms
- `RelayClient.awaitBlock_watch`, `RelayClient.sendRounds_rounds`: a client takes no other courses
-/

namespace ArbBundle
namespace RelayClient

open Timed

variable {κ : Type} {c : RelayClient κ} {limit : Option Nat} {m m₁ m₂ : Moment (State κ)}

/-! ## One round -/

/-- How the wait of one round goes, from the moment at which it starts to the one at which it stops:
the receipt and the head are looked at in turn, with pauses in between. -/
inductive Watch (c : RelayClient κ) (limit : Option Nat) (deadline : Nat) (block : UInt64)
    (txHash : Digest) :
    Moment κ → Log κ → Option (Except TransportError Bool) → Moment κ → Prop where
  | settled {start stop : Moment κ} {receipt : Reply (Except TransportError (Option UInt64))}
      {result : Option (Except TransportError Bool)} :
      Exchange.Stops c limit start (.askedReceipt txHash receipt) result stop →
      Watch c limit deadline block txHash start [(start, .askedReceipt txHash receipt)] result stop
  | blind {start looked stop : Moment κ} {receipt : Reply (Except TransportError (Option UInt64))}
      {head : Reply (Except TransportError UInt64)}
      {result : Option (Except TransportError Bool)} :
      Exchange.Passes c limit start (.askedReceipt txHash receipt) looked →
      Exchange.Stops c limit looked (.askedHead head) result stop →
      Watch c limit deadline block txHash start
        [(start, .askedReceipt txHash receipt), (looked, .askedHead head)] result stop
  | closed {start looked stop : Moment κ} {delay : Nat}
      {receipt : Reply (Except TransportError (Option UInt64))} {newest : UInt64} :
      Exchange.Passes c limit start (.askedReceipt txHash receipt) looked →
      Exchange.Passes c limit looked (.askedHead (.after delay (.ok newest))) stop →
      block ≤ newest ∨ deadline ≤ stop.now →
      Watch c limit deadline block txHash start
        [(start, .askedReceipt txHash receipt), (looked, .askedHead (.after delay (.ok newest)))]
        (some (.ok false)) stop
  | asleep {start looked idle stop : Moment κ} {delay : Nat}
      {receipt : Reply (Except TransportError (Option UInt64))} {newest : UInt64} :
      Exchange.Passes c limit start (.askedReceipt txHash receipt) looked →
      Exchange.Passes c limit looked (.askedHead (.after delay (.ok newest))) idle →
      newest < block → idle.now < deadline →
      Exchange.Stops c limit idle (.paused (c.pauseLength (deadline - idle.now))) none stop →
      Watch c limit deadline block txHash start
        [(start, .askedReceipt txHash receipt), (looked, .askedHead (.after delay (.ok newest))),
          (idle, .paused (c.pauseLength (deadline - idle.now)))] none stop
  | again {start looked idle next stop : Moment κ} {delay : Nat}
      {receipt : Reply (Except TransportError (Option UInt64))} {newest : UInt64} {log : Log κ}
      {result : Option (Except TransportError Bool)} :
      Exchange.Passes c limit start (.askedReceipt txHash receipt) looked →
      Exchange.Passes c limit looked (.askedHead (.after delay (.ok newest))) idle →
      newest < block → idle.now < deadline →
      Exchange.Passes c limit idle (.paused (c.pauseLength (deadline - idle.now))) next →
      Watch c limit deadline block txHash next log result stop →
      Watch c limit deadline block txHash start
        ((start, .askedReceipt txHash receipt) ::
          (looked, .askedHead (.after delay (.ok newest))) ::
          (idle, .paused (c.pauseLength (deadline - idle.now))) :: log) result stop

/-! ## Elementary steps -/

variable {result : Option (Except TransportError Bool)}

/-- A look at a receipt ends the wait, or the wait goes on with what follows. -/
theorem receipt_bind {txHash : Digest} {rest : Timed (State κ) (Except TransportError Bool)}
    (h : (Timed.call (c.receipt txHash) >>= fun answer => match answer with
      | .error e => pure (.error e)
      | .ok (some _) => pure (.ok true)
      | .ok none => rest) limit m = (result, m₂)) :
    ∃ receipt, (Extends m m₂ [(around m, .askedReceipt txHash receipt)] 0 ∧
        Exchange.Stops c limit (around m) (.askedReceipt txHash receipt) result (around m₂)) ∨
      ∃ m₁, Extends m m₁ [(around m, .askedReceipt txHash receipt)] 0 ∧
        Exchange.Passes c limit (around m) (.askedReceipt txHash receipt) (around m₁) ∧
        rest limit m₁ = (result, m₂) := by
  rcases hr : Timed.call (c.receipt txHash) limit m with ⟨answer, m₁⟩
  obtain ⟨receipt, hg, hx, hc⟩ := receipt_comes hr
  refine ⟨receipt, ?_⟩
  cases hc with
  | cut hcut hnow =>
      rw [bind_of_none hr] at h
      cases h
      exact Or.inl ⟨hx, .cut hg hcut hnow⟩
  | answered ha hnow =>
      rename_i answer
      rw [bind_of_some hr] at h
      rcases answer with e | _ | block
      · cases h
        exact Or.inl ⟨hx, .decided hg rfl ha rfl hnow⟩
      · exact Or.inr ⟨m₁, hx, ⟨hg, ⟨_, rfl, ha, hnow⟩, rfl⟩, h⟩
      · cases h
        exact Or.inl ⟨hx, .decided hg rfl ha rfl hnow⟩

/-- A look at the head ends the wait, or the wait goes on with what the newest block says. -/
theorem head_bind {rest : UInt64 → Timed (State κ) (Except TransportError Bool)}
    (h : (Timed.call c.head >>= fun answer => match answer with
      | .error e => pure (.error e)
      | .ok newest => rest newest) limit m = (result, m₂)) :
    (∃ head, Extends m m₂ [(around m, .askedHead head)] 0 ∧
        Exchange.Stops c limit (around m) (.askedHead head) result (around m₂)) ∨
      ∃ delay newest m₁, Extends m m₁ [(around m, .askedHead (.after delay (.ok newest)))] 0 ∧
        Exchange.Passes c limit (around m) (.askedHead (.after delay (.ok newest))) (around m₁) ∧
        rest newest limit m₁ = (result, m₂) := by
  rcases hr : Timed.call c.head limit m with ⟨answer, m₁⟩
  obtain ⟨head, hg, hx, hc⟩ := head_comes hr
  cases hc with
  | cut hcut hnow =>
      rw [bind_of_none hr] at h
      cases h
      exact Or.inl ⟨head, hx, .cut hg hcut hnow⟩
  | answered ha hnow =>
      rename_i delay answer
      rw [bind_of_some hr] at h
      rcases answer with e | newest
      · cases h
        exact Or.inl ⟨_, hx, .decided hg rfl ha rfl hnow⟩
      · exact Or.inr ⟨delay, newest, m₁, hx, ⟨hg, ⟨_, rfl, ha, hnow⟩, rfl⟩, h⟩

/-- A pause is cut off, or the wait goes on behind it. -/
theorem pause_bind {delay : Nat} {rest : Timed (State κ) (Except TransportError Bool)}
    (h : (pause delay >>= fun _ => rest) limit m = (result, m₂)) :
    (Extends m m₂ [(around m, .paused delay)] 0 ∧ result = none ∧
        Exchange.Stops c limit (around m) (.paused delay) none (around m₂)) ∨
      ∃ m₁, Extends m m₁ [(around m, .paused delay)] 0 ∧
        Exchange.Passes c limit (around m) (.paused delay) (around m₁) ∧ m₁.now = m.now + delay ∧
        rest limit m₁ = (result, m₂) := by
  by_cases ha : Arrives limit m.now delay
  · obtain ⟨m₁, hp, hnow, hh, hx⟩ := pause_of_arrives (c := c) ha
    rw [bind_of_some hp] at h
    exact Or.inr ⟨m₁, hx, ⟨hh, ⟨delay, rfl, ha, hnow⟩, rfl⟩, hnow, h⟩
  · obtain ⟨m₁, hp, hnow, hh, hx⟩ := pause_of_not_arrives (c := c) ha
    rw [bind_of_none hp] at h
    cases h
    exact Or.inl ⟨hx, rfl, .cut hh (by simpa [Exchange.delay?, around] using ha) hnow⟩

/-! ## The client's waits -/

/-- As long as `left` covers the time until the deadline, a client's wait for a block takes one of
the courses of a watch. -/
theorem awaitBlock_watch {block : UInt64} {txHash : Digest} {deadline left : Nat}
    (hleft : deadline - m.now ≤ left)
    (h : c.awaitBlock block txHash deadline left limit m = (result, m₂)) :
    ∃ log, Extends m m₂ log 0 ∧
      Watch c limit deadline block txHash (around m) log result (around m₂) := by
  induction left using Nat.strongRecOn generalizing m with
  | ind left ih =>
      rw [awaitBlock] at h
      -- First the receipt is looked at, and then the head.
      rcases receipt_bind h with ⟨receipt, ⟨hx, hstop⟩ | ⟨m₁, hx, hpass, h⟩⟩
      · exact ⟨_, hx, .settled hstop⟩
      rcases head_bind h with ⟨head, hx', hstop⟩ | ⟨delay, newest, m₃, hx', hpass', h⟩
      · exact ⟨_, hx.trans hx', .blind hpass hstop⟩
      by_cases hb : block ≤ newest
      · rw [if_pos hb] at h
        cases h
        exact ⟨_, hx.trans hx', .closed hpass hpass' (Or.inl hb)⟩
      rw [if_neg hb, bind_of_some (rfl : now limit m₃ = (some m₃.now, m₃))] at h
      -- Since what is left covers the time until the deadline, only the clock counts.
      have hleft' : min left (deadline - m₃.now) = deadline - m₃.now := by
        have h₁ : m.now ≤ m₁.now := hpass.start_le
        have h₃ : m₁.now ≤ m₃.now := hpass'.start_le
        omega
      simp only [hleft'] at h
      split at h
      · have hover : deadline ≤ m₃.now := by omega
        cases h
        exact ⟨_, hx.trans hx', .closed hpass hpass' (Or.inr hover)⟩
      · rename_i htime
        have hb' : newest < block := UInt64.not_le.1 hb
        have hidle : m₃.now < deadline := by omega
        rcases pause_bind h with ⟨hx'', rfl, hstop⟩ | ⟨m₄, hx'', hpass'', hnow, h⟩
        · exact ⟨_, (hx.trans hx').trans hx'', .asleep hpass hpass' hb' hidle hstop⟩
        -- What is left shrinks with every pause, and still covers the time until the deadline.
        have hpos := c.pauseLength_pos (deadline - m₃.now)
        have hle := c.pauseLength_le htime
        obtain ⟨log, hlog, hwatch⟩ := ih _ (by omega) (by omega) h
        exact ⟨_, ((hx.trans hx').trans hx'').trans hlog,
          .again hpass hpass' hb' hidle hpass'' hwatch⟩

/-- A last look ends the wait, one way or the other. -/
theorem lastLook_cases {txHash : Digest} (h : c.lastLook txHash limit m = (result, m₂)) :
    ∃ receipt, Extends m m₂ [(around m, .askedReceipt txHash receipt)] 0 ∧
      (Exchange.Stops c limit (around m) (.askedReceipt txHash receipt) result (around m₂) ∨
        Exchange.Passes c limit (around m) (.askedReceipt txHash receipt) (around m₂) ∧
          result = some (.ok false)) := by
  have hlook : c.lastLook txHash = Timed.call (c.receipt txHash) >>= fun answer =>
      match answer with
      | .error e => pure (.error e)
      | .ok (some _) => pure (.ok true)
      | .ok none => pure (.ok false) := by
    unfold lastLook
    congr 1
    funext answer
    rcases answer with e | _ | block <;> rfl
  rw [hlook] at h
  rcases receipt_bind h with ⟨receipt, ⟨hx, hstop⟩ | ⟨m₁, hx, hpass, h⟩⟩
  · exact ⟨receipt, hx, Or.inl hstop⟩
  · cases h
    exact ⟨receipt, hx, Or.inr ⟨hpass, rfl⟩⟩

/-- A submission ends the wait, or the wait goes on behind it. -/
theorem submit_bind {bundle : Bundle} {block : UInt64}
    {rest : Timed (State κ) (Except TransportError Bool)}
    (h : (c.submit bundle block >>= fun answer => match answer with
      | .error e => pure (.error e)
      | .ok _ => rest) limit m = (result, m₂)) :
    ∃ e, Attempts (.sendBundle bundle.encodings block bundle.builders) m.state.nextId e ∧
      ((Extends m m₂ [(around m, e)] 1 ∧ Exchange.Stops c limit (around m) e result (around m₂)) ∨
        ∃ m₁, Extends m m₁ [(around m, e)] 1 ∧ Exchange.Passes c limit (around m) e (around m₁) ∧
          rest limit m₁ = (result, m₂)) := by
  rcases hr : c.submit bundle block limit m with ⟨answer, m₁⟩
  obtain ⟨e, he, hx, hc⟩ := call_concludes hr fun _ => rfl
  refine ⟨e, he, ?_⟩
  cases hc with
  | read a hpass =>
      rw [bind_of_some hr] at h
      exact Or.inr ⟨m₁, hx, hpass, h⟩
  | failed hstop =>
      rw [bind_of_some hr] at h
      cases h
      exact Or.inl ⟨hx, hstop⟩
  | cut hstop =>
      rw [bind_of_none hr] at h
      cases h
      exact Or.inl ⟨hx, hstop⟩

/-! ## All rounds -/

/-- How the rounds of a submission go, with `rounds` of them left, the next one for `block` and
under the number `id`: every round submits and then watches, and a last look follows where the
rounds or the time are used up. -/
inductive Rounds (c : RelayClient κ) (limit : Option Nat) (deadline : Nat) (bundle : Bundle) :
    (rounds : Nat) → (block : UInt64) → (id : Nat) → Moment κ → Log κ →
      Option (Except TransportError Bool) → Moment κ → Prop where
  | looked {rounds id : Nat} {start stop : Moment κ} {block : UInt64}
      {receipt : Reply (Except TransportError (Option UInt64))}
      {result : Option (Except TransportError Bool)} :
      rounds = 0 ∨ deadline ≤ start.now →
      Exchange.Stops c limit start (.askedReceipt bundle.last.hash receipt) result stop →
      Rounds c limit deadline bundle rounds block id start
        [(start, .askedReceipt bundle.last.hash receipt)] result stop
  | unseen {rounds id : Nat} {start stop : Moment κ} {block : UInt64}
      {receipt : Reply (Except TransportError (Option UInt64))} :
      rounds = 0 ∨ deadline ≤ start.now →
      Exchange.Passes c limit start (.askedReceipt bundle.last.hash receipt) stop →
      Rounds c limit deadline bundle rounds block id start
        [(start, .askedReceipt bundle.last.hash receipt)] (some (.ok false)) stop
  | unsubmitted {rounds id : Nat} {start stop : Moment κ} {block : UInt64} {e : Exchange}
      {result : Option (Except TransportError Bool)} :
      start.now < deadline →
      Attempts (.sendBundle bundle.encodings block bundle.builders) id e →
      Exchange.Stops c limit start e result stop →
      Rounds c limit deadline bundle (rounds + 1) block id start [(start, e)] result stop
  | watched {rounds id : Nat} {start sent stop : Moment κ} {block : UInt64} {e : Exchange}
      {log : Log κ} {result : Option (Except TransportError Bool)} :
      start.now < deadline →
      Attempts (.sendBundle bundle.encodings block bundle.builders) id e →
      Exchange.Passes c limit start e sent →
      Watch c limit deadline block bundle.last.hash sent log result stop →
      result ≠ some (.ok false) →
      Rounds c limit deadline bundle (rounds + 1) block id start ((start, e) :: log) result stop
  | next {rounds id : Nat} {start sent waited stop : Moment κ} {block : UInt64} {e : Exchange}
      {log log' : Log κ} {result : Option (Except TransportError Bool)} :
      start.now < deadline →
      Attempts (.sendBundle bundle.encodings block bundle.builders) id e →
      Exchange.Passes c limit start e sent →
      Watch c limit deadline block bundle.last.hash sent log (some (.ok false)) waited →
      Rounds c limit deadline bundle rounds (block + 1) (id + 1) waited log' result stop →
      Rounds c limit deadline bundle (rounds + 1) block id start ((start, e) :: log ++ log') result
        stop

/-- Each round submits, watches and hands over to the next one, whatever the services reply. -/
theorem sendRounds_rounds {bundle : Bundle} {deadline rounds : Nat} {block : UInt64}
    (h : c.sendRounds bundle deadline rounds block limit m = (result, m₂)) :
    ∃ log requests, Extends m m₂ log requests ∧
      Rounds c limit deadline bundle rounds block m.state.nextId (around m) log result
        (around m₂) := by
  induction rounds generalizing block m with
  | zero =>
      obtain ⟨receipt, hx, hstop | ⟨hpass, rfl⟩⟩ := lastLook_cases h
      · exact ⟨_, _, hx, .looked (Or.inl rfl) hstop⟩
      · exact ⟨_, _, hx, .unseen (Or.inl rfl) hpass⟩
  | succ rounds ih =>
      rw [sendRounds, bind_of_some (rfl : now limit m = (some m.now, m))] at h
      by_cases hd : deadline ≤ m.now
      · rw [if_pos hd] at h
        obtain ⟨receipt, hx, hstop | ⟨hpass, rfl⟩⟩ := lastLook_cases h
        · exact ⟨_, _, hx, .looked (Or.inr hd) hstop⟩
        · exact ⟨_, _, hx, .unseen (Or.inr hd) hpass⟩
      rw [if_neg hd] at h
      have hd' := Nat.lt_of_not_le hd
      obtain ⟨e, he, ⟨hx, hstop⟩ | ⟨m₁, hx, hpass, h⟩⟩ := submit_bind h
      · exact ⟨_, _, hx, .unsubmitted hd' he hstop⟩
      rw [bind_of_some (rfl : now limit m₁ = (some m₁.now, m₁))] at h
      rcases hw : c.awaitBlock block bundle.last.hash deadline (deadline - m₁.now) limit m₁ with
        ⟨waited, m₃⟩
      obtain ⟨log, hlog, hwatch⟩ := awaitBlock_watch (Nat.le_refl _) hw
      -- Only a round that misses the transaction is followed by another one.
      by_cases hf : waited = some (.ok false)
      · subst hf
        rw [bind_of_some hw] at h
        obtain ⟨log', requests, hlog', hrounds⟩ := ih h
        rw [hlog.nextId, hx.nextId] at hrounds
        exact ⟨_, _, (hx.trans hlog).trans hlog', .next hd' he hpass hwatch hrounds⟩
      · have hend : result = waited ∧ m₂ = m₃ := by
          rcases waited with _ | error | _ | _
          · rw [bind_of_none hw] at h
            cases h
            exact ⟨rfl, rfl⟩
          · rw [bind_of_some hw] at h
            cases h
            exact ⟨rfl, rfl⟩
          · exact absurd rfl hf
          · rw [bind_of_some hw] at h
            cases h
            exact ⟨rfl, rfl⟩
        obtain ⟨rfl, rfl⟩ := hend
        exact ⟨_, _, hx.trans hlog, .watched hd' he hpass hwatch hf⟩

end RelayClient
end ArbBundle

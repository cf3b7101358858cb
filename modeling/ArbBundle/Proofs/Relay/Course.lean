import ArbBundle.Proofs.Relay.Wait

/-!
# Course — a wait for inclusion, seen from outside

Rounds, deadlines and heads aside, a wait is one exchange after the other.  Each of them leaves the
wait undecided, up to the one that ends it; where there is none, the wait has missed the
transaction.

- `RelayClient.Log.Path`: the exchanges of a log follow upon each other
- `RelayClient.Course`: the exchanges of a wait, up to the one that ends it
- `Watch.course`, `Rounds.course`: every wait of a client is one
- `Course.included_iff`, `Course.failed_iff`: a wait comes to what one of its exchanges finds in
  time
- `Course.last_of_decisive`: nothing follows upon such an exchange
- `Course.times`, `Course.stop_le`: a wait keeps to its limit
-/

namespace ArbBundle

open Timed

namespace Exchange

/-- The exchange does not ask for the receipt of any other transaction. -/
def Concerns (txHash : Digest) (e : Exchange) : Prop :=
  ∀ asked reply, e = .askedReceipt asked reply → asked = txHash

/-- The exchange, begun at `start`, has ended before it would be cut off. -/
def Ends (limit : Option Nat) (start : Nat) (e : Exchange) : Prop :=
  ∃ delay, e.delay? = some delay ∧ Arrives limit start delay

/-- The exchange, begun at `start`, has ended by the deadline. -/
def EndsBy (deadline start : Nat) (e : Exchange) : Prop :=
  ∃ delay, e.delay? = some delay ∧ start + delay ≤ deadline

variable {e : Exchange} {txHash : Digest}

/-- Begun by the deadline, an exchange is not cut off just where it has ended by then. -/
theorem ends_iff {deadline start : Nat} (h : start ≤ deadline) :
    e.Ends (some deadline) start ↔ e.EndsBy deadline start := by
  unfold Ends EndsBy
  refine exists_congr fun delay => and_congr_right fun _ => ?_
  exact ⟨fun ha => ha.le_of_le h, arrives_of_le⟩

theorem concerns_receipt (reply : Reply (Except TransportError (Option UInt64))) :
    (askedReceipt txHash reply).Concerns txHash := by
  intro asked reply' h
  cases h
  rfl

theorem concerns_head (reply : Reply (Except TransportError UInt64)) :
    (askedHead reply).Concerns txHash := by
  intro asked reply' h
  cases h

theorem concerns_pause (delay : Nat) : (paused delay).Concerns txHash := by
  intro asked reply h
  cases h

/-- An exchange of a wait decides for inclusion just where it finds the transaction mined. -/
theorem verdict?_eq_true_iff (h : e.Concerns txHash) :
    e.verdict? = some (.ok true) ↔ e.Sights txHash := by
  constructor
  · intro hv
    unfold verdict? at hv
    split at hv
    · rename_i asked delay block
      rw [h asked _ rfl]
      exact ⟨delay, block, rfl⟩
    · rcases hf : e.failure? with _ | error
      · rw [hf] at hv
        cases hv
      · rw [hf] at hv
        cases hv
  · rintro ⟨delay, block, rfl⟩
    rfl

/-- A look at a receipt that ends and decides nothing is one that finds no receipt. -/
theorem unseen_of_undecided {limit : Option Nat} {time : Nat}
    {reply : Reply (Except TransportError (Option UInt64))}
    (hends : (askedReceipt txHash reply).Ends limit time)
    (hv : (askedReceipt txHash reply).verdict? = none) :
    ∃ delay, reply = .after delay (.ok none) := by
  obtain ⟨delay, hd, -⟩ := hends
  rcases reply with ⟨delay', e | _ | block⟩ | _
  · cases hv
  · exact ⟨delay', rfl⟩
  · cases hv
  · cases hd

theorem Passes.ends {κ : Type} {c : RelayClient κ} {limit : Option Nat} {start stop : Moment κ}
    (h : Passes c limit start e stop) : e.Ends limit start.now := by
  obtain ⟨delay, hd, ha, -⟩ := h.in_time
  exact ⟨delay, hd, ha⟩

end Exchange

namespace RelayClient

variable {κ : Type} {c : RelayClient κ} {limit : Option Nat} {deadline : Nat} {txHash : Digest}
  {bundle : Bundle} {start mid stop : Moment κ} {log log' : Log κ}
  {result : Option (Except TransportError Bool)}

theorem Attempts.concerns {request : RelayRequest} {id : Nat} {e : Exchange}
    (h : Attempts request id e) : e.Concerns txHash := by
  intro asked reply he
  subst he
  cases h

/-- An attempt behind which the wait goes on was put on the wire, and was taken. -/
theorem Attempts.taken_of_passes {request : RelayRequest} {id : Nat} {e : Exchange}
    (h : Attempts request id e) (hpass : e.Passes c limit start stop) :
    ∃ signed delay response, e = .posted request id signed (.after delay (.ok response)) ∧
      request.fault? response = none := by
  obtain ⟨delay, hd, -⟩ := hpass.in_time
  have hv := hpass.undecided
  cases h with
  | unsigned =>
      cases hv
  | posted signed reply =>
      rcases reply with ⟨delay', reason | response⟩ | _
      · cases hv
      · refine ⟨signed, delay', response, rfl, ?_⟩
        simpa [Exchange.verdict?, Exchange.failure?] using hv
      · cases hd

/-! ## Paths -/

/-- The exchanges of a log follow upon each other: each one begins where the services were left by
the one before, and not earlier. -/
def Log.Path (c : RelayClient κ) : Moment κ → Log κ → Moment κ → Prop
  | start, [], stop => stop = start
  | start, x :: log, stop => x.1 = start ∧ ∃ next : Moment κ,
      x.2.Happens c start next.state ∧ start.now ≤ next.now ∧ Log.Path c next log stop

/-- Every exchange of a log is what came of it at its own moment. -/
theorem Log.Path.happens (h : log.Path c start stop) :
    ∀ x ∈ log, ∃ world, x.2.Happens c x.1 world := by
  induction log generalizing start with
  | nil =>
      exact fun x hx => absurd hx List.not_mem_nil
  | cons x log ih =>
      obtain ⟨rfl, next, hh, -, hrest⟩ := h
      exact List.forall_mem_cons.2 ⟨⟨_, hh⟩, ih hrest⟩

/-! ## Courses -/

/-- A wait for a transaction, one exchange after the other, up to the one that ends it. -/
inductive Course (c : RelayClient κ) (limit : Option Nat) (txHash : Digest) :
    Moment κ → Log κ → Option (Except TransportError Bool) → Moment κ → Prop where
  | missed {start : Moment κ} : Course c limit txHash start [] (some (.ok false)) start
  | ended {start stop : Moment κ} {e : Exchange} {result : Option (Except TransportError Bool)} :
      e.Concerns txHash → e.Stops c limit start result stop →
      Course c limit txHash start [(start, e)] result stop
  | going {start next stop : Moment κ} {e : Exchange} {log : Log κ}
      {result : Option (Except TransportError Bool)} :
      e.Concerns txHash → e.Passes c limit start next → Course c limit txHash next log result stop →
      Course c limit txHash start ((start, e) :: log) result stop

namespace Course

/-- A course that has seen nothing may be carried on. -/
theorem append (h : Course c limit txHash start log (some (.ok false)) mid)
    (h' : Course c limit txHash mid log' result stop) :
    Course c limit txHash start (log ++ log') result stop := by
  generalize hmissed : (some (.ok false) : Option (Except TransportError Bool)) = missed at h
  induction h with
  | missed =>
      exact h'
  | ended _ hstop =>
      -- A wait that is ended by an exchange has not missed its transaction.
      exact absurd hmissed.symm hstop.ne_missed
  | going hc hpass _ ih =>
      exact .going hc hpass (ih h' hmissed)

theorem path (h : Course c limit txHash start log result stop) : log.Path c start stop := by
  induction h with
  | missed =>
      rfl
  | ended _ hstop =>
      cases hstop with
      | decided hh _ _ _ hnow =>
          exact ⟨rfl, _, hh, by omega, rfl⟩
      | cut hh _ hnow =>
          exact ⟨rfl, _, hh, by omega, rfl⟩
  | going _ hpass _ ih =>
      exact ⟨rfl, _, hpass.happens, hpass.start_le, ih⟩

theorem concerns (h : Course c limit txHash start log result stop) :
    ∀ x ∈ log, x.2.Concerns txHash := by
  induction h with
  | missed =>
      exact fun x hx => absurd hx List.not_mem_nil
  | ended hc _ =>
      exact fun x hx => List.mem_singleton.1 hx ▸ hc
  | going hc _ _ ih =>
      exact List.forall_mem_cons.2 ⟨hc, ih⟩

/-! ## What a course comes to -/

/-- A wait comes to what one of its exchanges decides in time. -/
theorem decides_iff {r : Except TransportError Bool}
    (h : Course c limit txHash start log result stop) (hr : r ≠ .ok false) :
    result = some r ↔ ∃ x ∈ log, x.2.verdict? = some r ∧ x.2.Ends limit x.1.now := by
  induction h with
  | missed =>
      simpa using Ne.symm hr
  | ended _ hstop =>
      cases hstop with
      | decided _ hd ha hv _ =>
          simp only [List.mem_singleton, exists_eq_left, hv]
          exact ⟨fun h => ⟨h, _, hd, ha⟩, And.left⟩
      | cut _ hcut _ =>
          -- What is cut off may decide something, but not in time.
          refine ⟨(nomatch ·), fun h => ?_⟩
          simp only [List.mem_singleton, exists_eq_left] at h
          obtain ⟨-, delay, hd, ha⟩ := h
          exact absurd ha (hcut delay hd)
  | going _ hpass _ ih =>
      simp only [List.mem_cons, exists_eq_or_imp, hpass.undecided, ih]
      simp

/-- Nothing follows upon an exchange that decides something, in time or not. -/
theorem last_of_verdict {before after : Log κ} {x : Moment κ × Exchange}
    (h : Course c limit txHash start log result stop) (hlog : log = before ++ x :: after)
    (hx : x.2.verdict? ≠ none) : after = [] := by
  induction h generalizing before with
  | missed =>
      exact absurd (congrArg List.length hlog) (by simp)
  | ended _ _ =>
      have hlen := congrArg List.length hlog
      simp only [List.length_append, List.length_cons, List.length_nil] at hlen
      exact List.length_eq_zero_iff.1 (by omega)
  | going _ hpass _ ih =>
      rcases before with _ | ⟨y, before⟩
      · -- The wait has gone on behind this exchange, so it decided nothing.
        cases hlog
        exact absurd hpass.undecided hx
      · cases hlog
        exact ih rfl

/-- A wait ends well if and only if it finds its transaction mined in time. -/
theorem included_iff (h : Course c limit txHash start log result stop) :
    result = some (.ok true) ↔ ∃ x ∈ log, x.2.Sights txHash ∧ x.2.Ends limit x.1.now := by
  refine (h.decides_iff (by simp)).trans ?_
  refine exists_congr fun x => and_congr_right fun hx => and_congr_left fun _ => ?_
  exact Exchange.verdict?_eq_true_iff (h.concerns x hx)

/-- A wait fails if and only if one of its exchanges fails in time. -/
theorem failed_iff {e : TransportError} (h : Course c limit txHash start log result stop) :
    result = some (.error e) ↔ ∃ x ∈ log, x.2.failure? = some e ∧ x.2.Ends limit x.1.now := by
  refine (h.decides_iff (by simp)).trans ?_
  refine exists_congr fun x => and_congr_right fun _ => and_congr_left fun _ => ?_
  exact Exchange.verdict?_eq_error_iff

/-- Nothing follows upon an exchange that finds the transaction mined or that fails. -/
theorem last_of_decisive {before after : Log κ} {x : Moment κ × Exchange}
    (h : Course c limit txHash start log result stop) (hlog : log = before ++ x :: after)
    (hx : x.2.Sights txHash ∨ x.2.failure? ≠ none) : after = [] := by
  refine h.last_of_verdict hlog ?_
  rcases hx with ⟨delay, block, hx⟩ | hx
  · rw [hx]
    exact Option.some_ne_none _
  · obtain ⟨e, he⟩ := Option.ne_none_iff_exists'.1 hx
    rw [Exchange.verdict?_eq_error_iff.2 he]
    exact Option.some_ne_none _

/-- A wait that misses its transaction has come to no decision. -/
theorem undecided_of_missed (h : Course c limit txHash start log (some (.ok false)) stop) :
    ∀ x ∈ log, x.2.verdict? = none := by
  generalize hmissed : (some (.ok false) : Option (Except TransportError Bool)) = missed at h
  induction h with
  | missed =>
      exact fun x hx => absurd hx List.not_mem_nil
  | ended _ hstop =>
      exact absurd hmissed.symm hstop.ne_missed
  | going _ hpass _ ih =>
      exact List.forall_mem_cons.2 ⟨hpass.undecided, ih hmissed⟩

/-- In a wait that finishes nothing is cut off. -/
theorem ends_of_finished {r : Except TransportError Bool}
    (h : Course c limit txHash start log (some r) stop) : ∀ x ∈ log, x.2.Ends limit x.1.now := by
  generalize hfinished : some r = finished at h
  induction h with
  | missed =>
      exact fun x hx => absurd hx List.not_mem_nil
  | ended _ hstop =>
      cases hstop with
      | decided _ hd ha _ _ =>
          exact fun x hx => List.mem_singleton.1 hx ▸ ⟨_, hd, ha⟩
      | cut =>
          cases hfinished
  | going _ hpass _ ih =>
      exact List.forall_mem_cons.2 ⟨hpass.ends, ih hfinished⟩

/-! ## Times -/

theorem start_le (h : Course c limit txHash start log result stop) : start.now ≤ stop.now := by
  induction h with
  | missed =>
      exact Nat.le_refl _
  | ended _ hstop =>
      cases hstop with
      | decided _ _ _ _ hnow =>
          omega
      | cut _ _ hnow =>
          omega
  | going _ hpass _ ih =>
      exact Nat.le_trans hpass.start_le ih

/-- Every exchange of a course begins between its start and its stop. -/
theorem times (h : Course c limit txHash start log result stop) :
    ∀ x ∈ log, start.now ≤ x.1.now ∧ x.1.now ≤ stop.now := by
  induction h with
  | missed =>
      exact fun x hx => absurd hx List.not_mem_nil
  | ended hc hstop =>
      intro x hx
      rw [List.mem_singleton.1 hx]
      exact ⟨Nat.le_refl _, (ended hc hstop).start_le⟩
  | going hc hpass hrest ih =>
      refine List.forall_mem_cons.2 ⟨⟨Nat.le_refl _, ?_⟩, fun x hx => ?_⟩
      · exact Nat.le_trans hpass.start_le hrest.start_le
      · exact ⟨Nat.le_trans hpass.start_le (ih x hx).1, (ih x hx).2⟩

/-- A wait that starts by a deadline stops by it, when the wait is cut off no later. -/
theorem stop_le_of_le {cutoff : Nat} (h : Course c (some cutoff) txHash start log result stop)
    (hcutoff : cutoff ≤ deadline) (hs : start.now ≤ deadline) : stop.now ≤ deadline := by
  induction h with
  | missed =>
      exact hs
  | ended _ hstop =>
      cases hstop with
      | decided _ _ ha _ hnow =>
          rw [hnow]
          exact (ha.mono hcutoff).le_of_le hs
      | cut _ _ hnow =>
          omega
  | going _ hpass _ ih =>
      obtain ⟨delay, -, ha, hnow⟩ := hpass.in_time
      exact ih (hnow ▸ (ha.mono hcutoff).le_of_le hs)

/-- A wait that starts before its limit stops there at the latest. -/
theorem stop_le (h : Course c (some deadline) txHash start log result stop)
    (hs : start.now ≤ deadline) : stop.now ≤ deadline :=
  h.stop_le_of_le (Nat.le_refl deadline) hs

end Course

/-! ## The waits of a client -/

/-- The wait of one round is a course. -/
theorem Watch.course {block : UInt64}
    (h : Watch c limit deadline block txHash start log result stop) :
    Course c limit txHash start log result stop := by
  induction h with
  | settled hstop =>
      exact .ended (Exchange.concerns_receipt _) hstop
  | blind hpass hstop =>
      exact .going (Exchange.concerns_receipt _) hpass (.ended (Exchange.concerns_head _) hstop)
  | closed hpass hpass' _ =>
      exact .going (Exchange.concerns_receipt _) hpass
        (.going (Exchange.concerns_head _) hpass' .missed)
  | asleep hpass hpass' _ _ hstop =>
      exact .going (Exchange.concerns_receipt _) hpass
        (.going (Exchange.concerns_head _) hpass' (.ended (Exchange.concerns_pause _) hstop))
  | again hpass hpass' _ _ hpass'' _ ih =>
      exact .going (Exchange.concerns_receipt _) hpass
        (.going (Exchange.concerns_head _) hpass' (.going (Exchange.concerns_pause _) hpass'' ih))

/-- The watch of a round that is over before the deadline has seen the block of the round. -/
theorem Watch.reached_of_early {block : UInt64}
    (h : Watch c limit deadline block txHash start log (some (.ok false)) stop)
    (hstop : stop.now < deadline) :
    ∃ watch reached delay newest,
      log = watch ++ [(reached, .askedHead (.after delay (.ok newest)))] ∧
      (∀ x ∈ watch, x.2.posting? = none) ∧ block ≤ newest := by
  generalize hmissed : (some (.ok false) : Option (Except TransportError Bool)) = missed at h
  induction h with
  | settled hs =>
      exact absurd hmissed.symm hs.ne_missed
  | blind _ hs =>
      exact absurd hmissed.symm hs.ne_missed
  | closed _ _ hover =>
      rcases hover with hblock | hlate
      · exact ⟨[_], _, _, _, rfl, by simp [Exchange.posting?], hblock⟩
      · omega
  | asleep =>
      cases hmissed
  | again _ _ _ _ _ _ ih =>
      obtain ⟨watch, reached, delay, newest, rfl, hquiet, hblock⟩ := ih hstop hmissed
      exact ⟨_ :: _ :: _ :: watch, reached, delay, newest, rfl,
        by simpa [Exchange.posting?] using hquiet, hblock⟩

/-- The rounds of a submission are one course, the submissions among them. -/
theorem Rounds.course {rounds id : Nat} {block : UInt64}
    (h : Rounds c limit deadline bundle rounds block id start log result stop) :
    Course c limit bundle.last.hash start log result stop := by
  induction h with
  | looked _ hstop =>
      exact .ended (Exchange.concerns_receipt _) hstop
  | unseen _ hpass =>
      exact .going (Exchange.concerns_receipt _) hpass .missed
  | unsubmitted _ he hstop =>
      exact .ended he.concerns hstop
  | watched _ he hpass hwatch _ =>
      exact .going he.concerns hpass hwatch.course
  | next _ he hpass hwatch _ ih =>
      exact .going he.concerns hpass (hwatch.course.append ih)

end RelayClient
end ArbBundle

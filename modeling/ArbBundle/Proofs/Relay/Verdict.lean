import ArbBundle.Chain.Scripted
import ArbBundle.Proofs.Relay.Requests

/-!
# Verdict — no inclusion is lost, and none is invented

- `RelayClient.Lasting`: on a chain, what is mined stays mined
- `Log.Path.mined_last`: on a path over such a chain, what was mined at any point is mined at the
  last one
- `Rounds.looks_last`: rounds that miss their transaction end with a look at its receipt
- `RelayClient.verdict_iff_sighted`: what a submission that finishes says, and what it has seen
- `RelayClient.heeded_run`: a submission whose transaction is mined in its second round
-/

namespace ArbBundle
namespace RelayClient

open Timed

variable {κ : Type} {c : RelayClient κ} {limit : Option Nat} {deadline : Nat} {txHash : Digest}
  {bundle : Bundle} {start stop : Moment κ} {log before : Log κ} {mined : Moment κ → Prop}

/-! ## Chains that keep what is mined -/

/-- A transaction that is mined stays mined: nothing that the client does undoes it, and no look at
its receipt that is answered finds it missing. -/
structure Lasting (c : RelayClient κ) (txHash : Digest) (mined : Moment κ → Prop) : Prop where
  stays {m m' : Moment κ} {e : Exchange} :
    mined m → e.Happens c m m'.state → m.now ≤ m'.now → mined m'
  seen {m : Moment κ} {delay : Nat} {world : κ} :
    mined m → c.chain.inclusionBlock txHash m.now m.state ≠ (.after delay (.ok none), world)

/-- On a lasting chain, a transaction that is mined at the start is mined at every exchange. -/
theorem Log.Path.mined_of_start (hl : Lasting c txHash mined) (h : log.Path c start stop)
    (hm : mined start) : ∀ x ∈ log, mined x.1 := by
  induction log generalizing start with
  | nil =>
      exact fun x hx => absurd hx List.not_mem_nil
  | cons x log ih =>
      obtain ⟨rfl, next, hh, hle, hrest⟩ := h
      exact List.forall_mem_cons.2 ⟨hm, ih hrest (hl.stays hm hh hle)⟩

/-- What was mined at any point of a path is mined at the last one. -/
theorem Log.Path.mined_last {y : Moment κ × Exchange} (hl : Lasting c txHash mined)
    (h : Log.Path c start (before ++ [y]) stop) (hm : ∃ x ∈ before ++ [y], mined x.1) :
    mined y.1 := by
  induction before generalizing start with
  | nil =>
      simpa using hm
  | cons x before ih =>
      obtain ⟨rfl, next, hh, hle, hrest⟩ := h
      rcases hm with ⟨z, hz, hm⟩
      rcases List.mem_cons.1 hz with rfl | hz
      · -- What was mined here stays mined all along the rest of the path.
        exact Log.Path.mined_of_start hl hrest (hl.stays hm hh hle) y (by simp)
      · exact ih hrest ⟨z, hz, hm⟩

/-! ## Waits that miss their transaction -/

/-- Every look at a receipt was answered, and without finding one. -/
theorem Course.unseen_of_missed (h : Course c limit txHash start log (some (.ok false)) stop) :
    ∀ x ∈ log, ∀ asked reply, x.2 = .askedReceipt asked reply →
      ∃ delay, reply = .after delay (.ok none) := by
  intro x hx asked reply hreply
  have he := h.ends_of_finished x hx
  have hv := h.undecided_of_missed x hx
  rw [hreply] at he hv
  exact Exchange.unseen_of_undecided he hv

/-- Rounds that miss their transaction end with a look at its receipt. -/
theorem Rounds.looks_last {rounds id : Nat} {block : UInt64}
    (h : Rounds c limit deadline bundle rounds block id start log (some (.ok false)) stop) :
    ∃ before last delay, log =
      before ++ [(last, .askedReceipt bundle.last.hash (.after delay (.ok none)))] := by
  have hlast : ∃ before last reply, log =
      before ++ [(last, .askedReceipt bundle.last.hash reply)] := by
    generalize hmissed : (some (.ok false) : Option (Except TransportError Bool)) = missed at h
    induction h with
    | looked _ _ =>
        exact ⟨[], _, _, rfl⟩
    | unseen _ _ =>
        exact ⟨[], _, _, rfl⟩
    | unsubmitted _ _ hstop =>
        exact absurd hmissed.symm hstop.ne_missed
    | watched _ _ _ _ hne =>
        exact absurd hmissed.symm hne
    | next _ _ _ _ _ ih =>
        obtain ⟨before, last, reply, rfl⟩ := ih hmissed
        exact ⟨_, last, reply, (List.append_assoc _ _ _).symm⟩
  obtain ⟨before, last, reply, rfl⟩ := hlast
  obtain ⟨delay, rfl⟩ := h.course.unseen_of_missed _
    (List.mem_append_right before (List.mem_singleton_self _)) _ reply rfl
  exact ⟨before, last, delay, rfl⟩

/-- Rounds do not miss what is mined for good at any point of them. -/
theorem Rounds.not_mined_of_missed {rounds id : Nat} {block : UInt64}
    (h : Rounds c limit deadline bundle rounds block id start log (some (.ok false)) stop)
    (hl : Lasting c bundle.last.hash mined) : ¬ ∃ x ∈ log, mined x.1 := by
  intro hm
  -- The last look would have found it.
  obtain ⟨before, last, delay, rfl⟩ := h.looks_last
  have hlook := h.course.path.mined_last hl hm
  obtain ⟨world, hh⟩ := h.course.path.happens _
    (List.mem_append_right before (List.mem_singleton_self _))
  cases hh with
  | askedReceipt hasked =>
      exact hl.seen hlook hasked

/-! ## What a submission says -/

/-- A submission that finishes has found its transaction mined if and only if it says so, and has
failed if and only if one of its exchanges has; either way that exchange is the last one.  Where it
says that the transaction was not mined, none of its looks at the receipt found it, and one of them
is its very last exchange; so a transaction that is mined for good by the time of any exchange, such
as the last look at the head, is found. -/
theorem verdict_iff_sighted (c : RelayClient κ) (bundle : Bundle) {first : UInt64}
    (rounds : UInt32) (deadline : Nat) (limit : Option Nat) {m m' : Moment (State κ)}
    {r : Except TransportError Bool} (htarget : bundle.targetBlock = some first)
    (hrun : c.sendAndAwait bundle rounds deadline limit m = (some r, m')) :
    ∃ log : Log κ, m'.state.exchanges = log.noted.reverse ++ m.state.exchanges ∧
      log.Path c (around m) (around m') ∧
      (∀ x ∈ log, x.2.Concerns bundle.last.hash) ∧
      (r = .ok true ↔ ∃ x ∈ log, x.2.Sights bundle.last.hash) ∧
      (∀ e, r = .error e ↔ ∃ x ∈ log, x.2.failure? = some e) ∧
      (∀ before x after, log = before ++ x :: after →
        x.2.Sights bundle.last.hash ∨ x.2.failure? ≠ none → after = []) ∧
      (r = .ok false →
        (∀ x ∈ log, ∀ asked reply, x.2 = .askedReceipt asked reply →
          ∃ delay, reply = .after delay (.ok none)) ∧
        ∃ before last delay, log =
          before ++ [(last, .askedReceipt bundle.last.hash (.after delay (.ok none)))]) ∧
      (∀ mined, Lasting c bundle.last.hash mined → (∃ x ∈ log, mined x.1) →
        (∀ x ∈ log, x.2.failure? = none) → r = .ok true) := by
  have hsend : c.sendAndAwait bundle rounds deadline =
      c.sendRounds bundle deadline rounds.toNat first := by
    simp only [sendAndAwait, htarget]
  rw [hsend] at hrun
  obtain ⟨log, requests, hx, hrounds⟩ := sendRounds_rounds hrun
  have hcourse := hrounds.course
  have hends := hcourse.ends_of_finished
  -- The submission has finished, so all its exchanges are in time, and the limit plays no part.
  have htrue : r = .ok true ↔ ∃ x ∈ log, x.2.Sights bundle.last.hash := by
    rw [← Option.some_inj, hcourse.included_iff]
    exact exists_congr fun x => and_congr_right fun hx => and_iff_left (hends x hx)
  have herror (e : TransportError) : r = .error e ↔ ∃ x ∈ log, x.2.failure? = some e := by
    rw [← Option.some_inj, hcourse.failed_iff]
    exact exists_congr fun x => and_congr_right fun hx => and_iff_left (hends x hx)
  refine ⟨log, hx.exchanges, hcourse.path, hcourse.concerns, htrue, herror,
    fun before x after => hcourse.last_of_decisive, fun hr => ?_, fun mined hl hm hok => ?_⟩
  · subst hr
    exact ⟨hcourse.unseen_of_missed, hrounds.looks_last⟩
  · rcases r with e | _ | _
    · obtain ⟨x, hx, hf⟩ := (herror e).1 rfl
      exact absurd (hok x hx) (by rw [hf]; exact Option.some_ne_none e)
    · exact absurd hm (hrounds.not_mined_of_missed hl)
    · rfl

/-! ## A transaction that is mined in the second round -/

/-- The answer that names a bundle. -/
def taken : Json :=
  Json.object [("result", Json.object [("bundleHash", Json.ofBytes (List.replicate 32 0))])]

/-- The response that gives that answer, at once. -/
def takenReply : Reply (Except String HttpResponse) :=
  .after 0 (.ok ⟨200, Text.utf8 taken.chars⟩)

theorem one_lt_order : 1 < Curve.order := by decide

/-- A client of a relay that takes whatever it is sent, and of a chain whose answers are laid
down. -/
def heeded : RelayClient ChainScript where
  key := ⟨1, Nat.one_pos, one_lt_order⟩
  post _ := .steady takenReply
  chain := ChainScript.chain
  pollIntervalMs := 1000

/-- A bundle of one blank transaction, for the fifth block and a single builder. -/
def blankBundle : Bundle :=
  ⟨[⟨.zero 32, .zero, none, 0, 0, 0, 0, 0, [], []⟩], List.cons_ne_nil _ _, some 5, ["flashbots"]⟩

/-- A chain that goes from the fourth block to the fifth between two questions, and has a receipt at
the third look for it. -/
def ripening : ChainScript :=
  ⟨.ok 17000, [.ok 4, .ok 5], [.ok none, .ok none, .ok (some 6)]⟩

/-- That chain when all has been asked. -/
def ripe : ChainScript :=
  ⟨.ok 17000, [.ok 5], [.ok (some 6)]⟩

theorem written_taken : taken.Written := by
  refine .object fun m hm => ?_
  rw [List.mem_singleton.1 hm]
  refine .object fun m hm => ?_
  rw [List.mem_singleton.1 hm]
  exact .text _

theorem lossy_taken : Text.lossy (Text.utf8 taken.chars) = taken.chars := by
  decide +kernel

theorem submissionHash?_taken :
    RelayResponse.ofJson? submissionHash? taken = some ⟨some (.zero 32), none⟩ := by
  decide +kernel

theorem signs_fifth :
    (heeded.key.signMessage? ('0' :: 'x' :: Hex.encode (Keccak.hash
      (Text.utf8 ((RelayRequest.sendBundle [[]] 5 ["flashbots"]).toJson 1).chars)).toList)).isSome
        = true := by
  decide +kernel

theorem signs_sixth :
    (heeded.key.signMessage? ('0' :: 'x' :: Hex.encode (Keccak.hash
      (Text.utf8 ((RelayRequest.sendBundle [[]] 6 ["flashbots"]).toJson 2).chars)).toList)).isSome
        = true := by
  decide +kernel

/-- A submission that can be signed is taken. -/
theorem heeded_submits {block : UInt64} {m : Moment (State ChainScript)}
    (hsign : (heeded.key.signMessage? ('0' :: 'x' :: Hex.encode (Keccak.hash (Text.utf8
      ((RelayRequest.sendBundle [[]] block ["flashbots"]).toJson m.state.nextId).chars)).toList)
        ).isSome = true) :
    ∃ signed, heeded.submit blankBundle block limit m = (some (.ok (.zero 32)),
      ⟨⟨m.state.world, m.state.nextId + 1, (m.now, .posted (.sendBundle [[]] block ["flashbots"])
        m.state.nextId signed takenReply) :: m.state.exchanges⟩, m.now⟩) :=
  call_of_steady (fun _ => rfl) ((sign?_isSome _ _).trans hsign)
    (decide_of_written written_taken lossy_taken submissionHash?_taken)

/-- The wait for the fifth block takes one pause, and misses the receipt. -/
theorem heeded_waits (hlimit : inTime limit 1000) (id : Nat) (before : List (Nat × Exchange)) :
    heeded.awaitBlock 5 (.zero 32) 60000 60000 limit ⟨⟨ripening, id, before⟩, 0⟩ =
      (some (.ok false), ⟨⟨ripe, id, (1000, .askedHead (.after 0 (.ok 5))) ::
        (1000, .askedReceipt (.zero 32) (.after 0 (.ok none))) :: (0, .paused 1000) ::
        (0, .askedHead (.after 0 (.ok 4))) ::
        (0, .askedReceipt (.zero 32) (.after 0 (.ok none))) :: before⟩, 1000⟩) := by
  have hpause (world : ChainScript) (before : List (Nat × Exchange)) :
      pause 1000 limit ⟨⟨world, id, before⟩, 0⟩ =
        (some (), ⟨⟨world, id, (0, .paused 1000) :: before⟩, 1000⟩) :=
    if_pos (.inr hlimit)
  -- The first look and the first answer leave the second ones.
  have hlook : Timed.call (heeded.receipt (.zero 32)) limit ⟨⟨ripening, id, before⟩, 0⟩ =
      (some (.ok none), ⟨⟨⟨.ok 17000, [.ok 4, .ok 5], [.ok none, .ok (some 6)]⟩, id,
        (0, .askedReceipt (.zero 32) (.after 0 (.ok none))) :: before⟩, 0⟩) := rfl
  have hhead (before : List (Nat × Exchange)) : Timed.call heeded.head limit
      ⟨⟨⟨.ok 17000, [.ok 4, .ok 5], [.ok none, .ok (some 6)]⟩, id, before⟩, 0⟩ =
      (some (.ok 4), ⟨⟨⟨.ok 17000, [.ok 5], [.ok none, .ok (some 6)]⟩, id,
        (0, .askedHead (.after 0 (.ok 4))) :: before⟩, 0⟩) := rfl
  have hlength : heeded.pauseLength 60000 = 1000 := rfl
  rw [awaitBlock, bind_of_some hlook]
  dsimp only
  rw [bind_of_some (hhead _)]
  dsimp only
  rw [if_neg (by decide), bind_of_some (now_apply limit _)]
  dsimp only
  rw [dif_neg (by decide), Nat.sub_zero, Nat.min_self, hlength, bind_of_some (hpause _ _),
    awaitBlock]
  rfl

/-- The exchanges of the run, the last one first. -/
def heededExchanges (first second : SignedRequest) : List (Nat × Exchange) :=
  [(1000, .askedReceipt (.zero 32) (.after 0 (.ok (some 6)))),
    (1000, .posted (.sendBundle [[]] 6 ["flashbots"]) 2 second takenReply),
    (1000, .askedHead (.after 0 (.ok 5))),
    (1000, .askedReceipt (.zero 32) (.after 0 (.ok none))),
    (0, .paused 1000),
    (0, .askedHead (.after 0 (.ok 4))),
    (0, .askedReceipt (.zero 32) (.after 0 (.ok none))),
    (0, .posted (.sendBundle [[]] 5 ["flashbots"]) 1 first takenReply)]

/-- The bundle is submitted for the fifth block, and the receipt is not there yet; a pause later the
head has got that far, the bundle is submitted for the sixth block, and the receipt is found. -/
theorem heeded_run (hlimit : inTime limit 1000) :
    ∃ first second, heeded.sendAndAwait blankBundle 3 60000 limit ⟨.new ripening, 0⟩ =
      (some (.ok true), ⟨⟨ripe, 3, heededExchanges first second⟩, 1000⟩) := by
  obtain ⟨first, hfirst⟩ : ∃ signed, heeded.submit blankBundle 5 limit ⟨.new ripening, 0⟩ = _ :=
    heeded_submits signs_fifth
  let waited : Moment (State ChainScript) := ⟨⟨ripe, 2, (heededExchanges first first).drop 2⟩, 1000⟩
  obtain ⟨second, hsecond⟩ : ∃ signed, heeded.submit blankBundle 6 limit waited = _ :=
    heeded_submits signs_sixth
  have hwait : heeded.awaitBlock 5 (.zero 32) 60000 60000 limit
      ⟨⟨ripening, 2, (heededExchanges first first).drop 7⟩, 0⟩ = (some (.ok false), waited) :=
    heeded_waits hlimit 2 _
  have hround : heeded.sendRounds blankBundle 60000 2 6 limit waited =
      (some (.ok true), ⟨⟨ripe, 3, heededExchanges first second⟩, 1000⟩) := by
    have hearly : 1000 < 60000 := by decide
    rw [sendRounds, bind_of_some (now_apply limit _), if_neg (Nat.not_le.2 hearly),
      bind_of_some hsecond]
    dsimp only
    rw [bind_of_some (now_apply limit _), awaitBlock]
    rfl
  have htarget : blankBundle.targetBlock = some 5 := rfl
  have hrounds : (3 : UInt32).toNat = 2 + 1 := rfl
  refine ⟨first, second, ?_⟩
  simp only [sendAndAwait, htarget]
  rw [hrounds, sendRounds, bind_of_some (now_apply limit _), if_neg (by decide),
    bind_of_some hfirst]
  dsimp only
  rw [bind_of_some (now_apply limit _)]
  exact (bind_of_some hwait).trans hround

/-- A submission that misses its transaction in the first round, and finds it in the second one,
ends there. -/
theorem second_round_sights :
    let start : Moment (State ChainScript) := ⟨.new ripening, 0⟩
    blankBundle.targetBlock = some 5 ∧
      ∃ m', heeded.sendAndAwait blankBundle 3 60000 none start = (some (.ok true), m') ∧
        ∃ (log : Log ChainScript) (first second : SignedRequest),
          log.noted.reverse = heededExchanges first second ∧
          log.Path heeded (around start) (around m') ∧
          (∃ x ∈ log, x.2.Sights blankBundle.last.hash) ∧
          ∀ before x after, log = before ++ x :: after → x.2.Sights blankBundle.last.hash →
            after = [] := by
  intro start
  obtain ⟨first, second, hrun⟩ := heeded_run (nofun : inTime none 1000)
  obtain ⟨log, hlog, hpath, -, htrue, -, hlast, -⟩ :=
    verdict_iff_sighted heeded blankBundle 3 60000 none rfl hrun
  have hnoted : log.noted.reverse = heededExchanges first second :=
    (List.append_nil _).symm.trans hlog.symm
  exact ⟨rfl, _, hrun, log, first, second, hnoted, hpath, htrue.1 rfl,
    fun before x after h hs => hlast before x after h (.inl hs)⟩

end RelayClient
end ArbBundle

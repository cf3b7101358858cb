import ArbBundle.Proofs.Json.Record
import ArbBundle.Proofs.Relay.Requests
import ArbBundle.Proofs.Relay.Verdict

/-!
# Submissions — for which blocks a bundle is submitted, and when

- `Hex.Minimal`: a number in hexadecimal without a needless digit
- `Submission.ofText?`: what a text on the wire submits, as a relay reads it
- `Rounds.submits_first`, `Rounds.in_time`: submissions begin at once, and before the deadline
- `Rounds.reached_between`: what lies between two submissions
- `RelayClient.submits_blocks_in_a_row`: all submissions of a bundle
-/

namespace ArbBundle

/-! ## Numbers in hexadecimal -/

namespace Hex

/-- A text is a number in hexadecimal: behind the mark `0x` stand its digits, in lower case and
without a needless zero in front. -/
structure Minimal (s : String) (n : Nat) : Prop where
  digits : ∃ ds, s.toList = '0' :: 'x' :: ds ∧ ds ≠ [] ∧
    (∀ d ∈ ds, d ∈ "0123456789abcdef".toList) ∧ (ds.head? = some '0' → ds = ['0'])
  value : Numeral.nat? s.toList = some n

theorem mem_digits_of_mem_ofNat {n : Nat} {d : Char} (h : d ∈ ofNat n) :
    d ∈ "0123456789abcdef".toList := by
  have hdigit : ∀ m : Fin 16, Nat.digitChar m ∈ "0123456789abcdef".toList := by
    decide
  unfold ofNat at h
  induction n using Nat.strongRecOn with
  | ind n ih =>
      rw [Nat.toDigits_eq_if (by decide)] at h
      split at h
      · -- A number below the base is its only digit.
        rename_i hsmall
        rw [List.mem_singleton.1 h]
        exact hdigit ⟨n, hsmall⟩
      · rcases List.mem_append.1 h with hfront | hlast
        · exact ih (n / 16) (by omega) hfront
        · rw [List.mem_singleton.1 hlast]
          exact hdigit ⟨n % 16, Nat.mod_lt n (by decide)⟩

/-- A quantity is written minimally. -/
theorem minimal_quantity (n : Nat) : Minimal (quantity n) n where
  digits := by
    refine ⟨ofNat n, String.toList_ofList, Nat.toDigits_ne_nil,
      fun d => mem_digits_of_mem_ofNat, ?_⟩
    intro hzero
    by_cases hn : n = 0
    · subst hn
      rfl
    · obtain ⟨d, ds, hd⟩ := List.exists_cons_of_ne_nil (Nat.toDigits_ne_nil (b := 16) (n := n))
      rw [ofNat, hd, List.head?_cons, Option.some_inj] at hzero
      exact absurd hzero (Json.Token.head_toDigits_ne_zero (by decide) hn hd)
  value := by
    rw [quantity, String.toList_ofList]
    exact Numeral.digits?_toDigits n

end Hex

/-! ## Submissions on the wire -/

/-- The first member of an object under a name. -/
def Json.member? (name : String) : Json → Option Json
  | .obj members => members.lookup (some name)
  | _ => none

/-- What a relay is asked to include, and where. -/
structure Submission where
  transactions : List Bytes
  block : String
  builders : List String

namespace Submission

/-- The submission of some parameters; it goes to no builder in particular where none is named. -/
def ofParams? (params : Json) : Option Submission := do
  let [p] ← params.elements? | none
  let transactions ← (p.member? "txs").bind (Json.list? Json.bytes?)
  let block ← (p.member? "blockNumber").bind Json.text?
  let builders ← match p.member? "builders" with
    | some names => Json.list? Json.text? names
    | none => some []
  return ⟨transactions, block, builders⟩

/-- The submission that a text makes, if it makes one. -/
def ofText? (s : String) : Option Submission := do
  let request ← Json.ofText? s
  let method ← (request.member? "method").bind Json.text?
  if method = "eth_sendBundle" then (request.member? "params").bind ofParams? else none

end Submission

namespace RelayRequest

variable {request : RelayRequest} {transactions : List Bytes} {block : UInt64}
  {builders : List String}

/-- The text of a request gives the request back where its parameters are data. -/
theorem ofText?_body (h : Json.Written request.params) (id : Nat) :
    Json.ofText? (request.body id) = some (request.toJson id) := by
  refine Json.ofText?_render (.object ?_)
  simp [h, Json.Written.text, Json.Written.nat]

@[simp] theorem method_toJson (request : RelayRequest) (id : Nat) :
    (request.toJson id).member? "method" = some (Json.text request.method) := by
  simp [toJson, Json.member?, Json.object, List.lookup_cons]

@[simp] theorem params_toJson (request : RelayRequest) (id : Nat) :
    (request.toJson id).member? "params" = some request.params := by
  simp [toJson, Json.member?, Json.object, List.lookup_cons]

theorem written_blockText (block : UInt64) : Json.Written (blockText block) :=
  .text _

theorem text?_blockText (block : UInt64) :
    (blockText block).text? = some (Hex.quantity block.toNat) :=
  rfl

/-- The parameters of a submission are data. -/
theorem written_sendBundle : Json.Written (sendBundle transactions block builders).params := by
  have htxs : Json.Written (transactionTexts transactions) :=
    Json.restores_bytes.list.written transactions
  have hbuilders : Json.Written (.arr (builders.map Json.text)) :=
    Json.restores_text.list.written builders
  refine .arr (List.forall_mem_singleton.2 (.object ?_))
  cases builders with
  | nil =>
      simp [htxs, written_blockText]
  | cons name names =>
      simpa [htxs, written_blockText] using hbuilders

/-- The parameters of a submission are read as the submission. -/
theorem submission_of_params :
    Submission.ofParams? (sendBundle transactions block builders).params =
      some ⟨transactions, Hex.quantity block.toNat, builders⟩ := by
  have htxs : Json.list? Json.bytes? (transactionTexts transactions) = some transactions :=
    Json.restores_bytes.list.read transactions
  have hbuilders : Json.list? Json.text? (.arr (builders.map Json.text)) = some builders :=
    Json.restores_text.list.read builders
  -- The builders are written only where there are some.
  cases builders with
  | nil =>
      simp [params, Submission.ofParams?, Json.elements?, Json.member?, Json.object,
        List.lookup_cons, htxs, text?_blockText]
  | cons name names =>
      rw [List.map_cons] at hbuilders
      simp [params, Submission.ofParams?, Json.elements?, Json.member?, Json.object,
        List.lookup_cons, htxs, text?_blockText, hbuilders]

/-- The text of a submission is read as the submission. -/
theorem submission_of_body (id : Nat) :
    Submission.ofText? ((sendBundle transactions block builders).body id) =
      some ⟨transactions, Hex.quantity block.toNat, builders⟩ := by
  rw [Submission.ofText?, ofText?_body written_sendBundle]
  simp [method, submission_of_params, Json.text, Json.text?]

end RelayRequest

/-! ## The blocks of a submission -/

theorem toNat_next {block : UInt64} {rounds : Nat} (h : block.toNat + (rounds + 1) < UInt64.size) :
    (block + 1).toNat = block.toNat + 1 := by
  rw [UInt64.toNat_add, UInt64.toNat_one]
  exact Nat.mod_eq_of_lt (Nat.lt_of_le_of_lt (by omega) h)

/-- Each of the submissions for some blocks in a row is for its own block. -/
theorem Bundle.submissions_place {bundle : Bundle} {block : UInt64} {rounds r : Nat}
    {request : RelayRequest} (hblocks : block.toNat + rounds < UInt64.size)
    (h : (bundle.submissions block rounds)[r]? = some request) :
    ∃ target : UInt64, request = .sendBundle bundle.encodings target bundle.builders ∧
      target.toNat = block.toNat + r := by
  induction rounds generalizing block r with
  | zero =>
      cases h
  | succ rounds ih =>
      cases r with
      | zero =>
          cases h
          exact ⟨block, rfl, rfl⟩
      | succ r =>
          have h' : (bundle.submissions (block + 1) rounds)[r]? = some request := h
          have hnext := toNat_next hblocks
          obtain ⟨target, hrequest, htarget⟩ := ih (by omega) h'
          exact ⟨target, hrequest, by omega⟩

namespace Exchange

theorem signed?_eq_none_iff {e : Exchange} : e.signed? = none ↔ e.posting? = none := by
  cases e <;> simp [signed?, posting?]

end Exchange

namespace RelayClient

variable {κ : Type} {c : RelayClient κ} {limit : Option Nat} {deadline : Nat} {txHash : Digest}
  {bundle : Bundle} {start stop : Moment κ} {log : Log κ} {m m' : Moment (State κ)}
  {result : Option (Except TransportError Bool)}

def Log.sent (log : Log κ) : List SignedRequest :=
  log.filterMap fun x => x.2.signed?

theorem Log.sent_eq (log : Log κ) : log.sent = log.noted.filterMap fun x => x.2.signed? := by
  rw [sent, noted, List.filterMap_map]
  rfl

theorem Log.length_sent (log : Log κ) : log.sent.length = log.postings.length := by
  have hsame (x : Moment κ × Exchange) : x.2.signed?.isSome = x.2.posting?.isSome := by
    cases x.2 <;> rfl
  simp only [sent, postings, List.length_filterMap_eq_countP, hsame]

/-- Each text on the wire is that of the request at its place. -/
theorem Log.body_of_sent {requests : List RelayRequest} {id r : Nat} {signed : SignedRequest}
    (hhonest : ∀ x ∈ log, x.2.Honest) (hpostings : log.postings = requests.zipIdx id)
    (h : log.sent[r]? = some signed) :
    ∃ request, requests[r]? = some request ∧ signed.body = request.body (id + r) := by
  have hnoted : log.noted.filterMap (fun x => x.2.signed?) = log.sent :=
    List.filterMap_map
  have hbodies := Log.body_postings hhonest
  rw [hnoted, hpostings] at hbodies
  -- The texts in the order in which they are sent are the bodies in the order of the requests.
  have hbody := congrArg (·[r]?) hbodies
  simp only [List.getElem?_map, h, List.getElem?_zipIdx, Option.map_some, Option.map_map] at hbody
  obtain ⟨request, hrequest, hsame⟩ := Option.map_eq_some_iff.1 hbody.symm
  exact ⟨request, hrequest, hsame.symm⟩

/-! ## Rounds -/

/-- Between its submissions a client puts nothing on the wire. -/
theorem Watch.quiet {block : UInt64}
    (h : Watch c limit deadline block txHash start log result stop) :
    ∀ x ∈ log, x.2.posting? = none :=
  List.filterMap_eq_nil_iff.1 h.postings

/-- Where there are rounds and time left, the first thing that is done is a submission. -/
theorem Rounds.submits_first {rounds id : Nat} {block : UInt64}
    (h : Rounds c limit deadline bundle rounds block id start log result stop)
    (hrounds : rounds ≠ 0) (htime : start.now < deadline) :
    ∃ e rest, log = (start, e) :: rest ∧
      Attempts (.sendBundle bundle.encodings block bundle.builders) id e := by
  have hopen : ¬ (rounds = 0 ∨ deadline ≤ start.now) :=
    not_or.2 ⟨hrounds, Nat.not_le.2 htime⟩
  cases h with
  | looked hover _ =>
      exact absurd hover hopen
  | unseen hover _ =>
      exact absurd hover hopen
  | unsubmitted _ he _ =>
      exact ⟨_, [], rfl, he⟩
  | watched _ he _ _ _ =>
      exact ⟨_, _, rfl, he⟩
  | next _ he _ _ _ =>
      exact ⟨_, _, rfl, he⟩

/-- Every submission starts before the deadline. -/
theorem Rounds.in_time {rounds id : Nat} {block : UInt64}
    (h : Rounds c limit deadline bundle rounds block id start log result stop) :
    ∀ x ∈ log, x.2.posting? ≠ none → x.1.now < deadline := by
  induction h with
  | looked _ _ =>
      intro x hx hsent
      rw [List.mem_singleton.1 hx] at hsent
      exact absurd rfl hsent
  | unseen _ _ =>
      intro x hx hsent
      rw [List.mem_singleton.1 hx] at hsent
      exact absurd rfl hsent
  | unsubmitted htime _ _ =>
      intro x hx _
      rw [List.mem_singleton.1 hx]
      exact htime
  | watched htime _ _ hwatch _ =>
      refine List.forall_mem_cons.2 ⟨fun _ => htime, fun x hx hsent => ?_⟩
      exact absurd (hwatch.quiet x hx) hsent
  | next htime _ _ hwatch _ ih =>
      rw [List.cons_append]
      refine List.forall_mem_cons.2 ⟨fun _ => htime, fun x hx hsent => ?_⟩
      rcases List.mem_append.1 hx with hx | hx
      · exact absurd (hwatch.quiet x hx) hsent
      · exact ih x hx hsent

/-- A watch begins with a look at the receipt. -/
theorem Watch.looks_first {block : UInt64}
    (h : Watch c limit deadline block txHash start log result stop) :
    ∃ reply, (start, .askedReceipt txHash reply) ∈ log := by
  cases h <;> exact ⟨_, List.mem_cons_self⟩

/-- The watch of a round that is over before the deadline has found no receipt, and it has seen the
block of the round. -/
theorem Watch.passed_of_early {block : UInt64}
    (h : Watch c limit deadline block txHash start log (some (.ok false)) stop)
    (hstop : stop.now < deadline) :
    (∃ z ∈ log, ∃ delay, z.2 = .askedReceipt txHash (.after delay (.ok none))) ∧
      ∃ z ∈ log, ∃ delay newest, z.2 = .askedHead (.after delay (.ok newest)) ∧
        block ≤ newest := by
  constructor
  · obtain ⟨reply, hlook⟩ := h.looks_first
    obtain ⟨delay, rfl⟩ := h.course.unseen_of_missed _ hlook txHash reply rfl
    exact ⟨_, hlook, delay, rfl⟩
  · obtain ⟨watch, reached, delay, newest, rfl, -, hblock⟩ := h.reached_of_early hstop
    exact ⟨_, List.mem_append_right watch (List.mem_singleton_self _), delay, newest, rfl, hblock⟩

theorem Log.two_le_length_of_split {before middle after : Log κ} {x y : Moment κ × Exchange}
    (h : log = before ++ x :: (middle ++ y :: after)) : 2 ≤ log.length := by
  rw [h]
  simp only [List.length_append, List.length_cons]
  omega

/-- An exchange that sends something lies behind exchanges that send nothing. -/
theorem Log.split_quiet {quiet rest front back : Log κ} {y : Moment κ × Exchange}
    (h : quiet ++ rest = front ++ y :: back) (hquiet : ∀ z ∈ quiet, z.2.posting? = none)
    (hy : y.2.posting? ≠ none) :
    ∃ between, front = quiet ++ between ∧ rest = between ++ y :: back := by
  rcases List.append_eq_append_iff.1 h with ⟨between, hfront, hrest⟩ | ⟨between, hquiet', hback⟩
  · exact ⟨between, hfront, hrest⟩
  · cases between with
    | nil =>
        exact ⟨[], by simpa using hquiet'.symm, hback.symm⟩
    | cons z between =>
        -- The exchange would be one of the quiet ones.
        cases hback
        exact absurd (hquiet y (by simp [hquiet'])) hy

/-- Between a submission and a later one, a look at the receipt has found nothing, and the chain has
told of a block that is not below the one of the former. -/
theorem Rounds.reached_between {rounds id : Nat} {block : UInt64}
    (h : Rounds c limit deadline bundle rounds block id start log result stop)
    (hblocks : block.toNat + rounds < UInt64.size) {before middle after : Log κ}
    {x y : Moment κ × Exchange} (hlog : log = before ++ x :: (middle ++ y :: after))
    (hx : x.2.posting? ≠ none) (hy : y.2.posting? ≠ none) :
    (∃ z ∈ middle, ∃ delay, z.2 = .askedReceipt bundle.last.hash (.after delay (.ok none))) ∧
      ∃ z ∈ middle, ∃ delay newest, z.2 = .askedHead (.after delay (.ok newest)) ∧
        block.toNat + before.postings.length ≤ newest.toNat := by
  induction h generalizing before with
  | looked _ _ =>
      exact absurd (Log.two_le_length_of_split hlog) (Nat.not_succ_le_self 1)
  | unseen _ _ =>
      exact absurd (Log.two_le_length_of_split hlog) (Nat.not_succ_le_self 1)
  | unsubmitted _ _ _ =>
      exact absurd (Log.two_le_length_of_split hlog) (Nat.not_succ_le_self 1)
  | watched _ _ _ hwatch _ =>
      -- Behind its only submission this round sends nothing.
      have hmem : y ∈ (before ++ x :: (middle ++ y :: after)).tail := by
        cases before <;> simp
      rw [← hlog] at hmem
      exact absurd (hwatch.quiet y hmem) hy
  | next htime he hpass hwatch hrest ih =>
      rename_i rounds id start sent waited stop block e watch log result
      cases before with
      | nil =>
          obtain ⟨rfl, htail⟩ := List.cons.inj hlog
          obtain ⟨between, rfl, rfl⟩ := Log.split_quiet htail hwatch.quiet hy
          -- The later submission is in time, so this round was over in time as well.
          have hmem : y ∈ between ++ y :: after :=
            List.mem_append_right between List.mem_cons_self
          have hearly : waited.now < deadline :=
            Nat.lt_of_le_of_lt (hrest.course.times y hmem).1 (hrest.in_time y hmem hy)
          obtain ⟨⟨z, hz, hreceipt⟩, w, hw, delay, newest, hhead, hnewest⟩ :=
            hwatch.passed_of_early hearly
          exact ⟨⟨z, List.mem_append_left between hz, hreceipt⟩, w,
            List.mem_append_left between hw, delay, newest, hhead, UInt64.le_iff_toNat_le.1 hnewest⟩
      | cons first before =>
          obtain ⟨rfl, htail⟩ := List.cons.inj hlog
          obtain ⟨between, rfl, rfl⟩ := Log.split_quiet htail hwatch.quiet hx
          obtain ⟨signed, delay, response, rfl, -⟩ := he.taken_of_passes hpass
          have hnext := toNat_next hblocks
          obtain ⟨hreceipt, z, hz, delay', newest, hhead, hnewest⟩ := ih (by omega) rfl
          refine ⟨hreceipt, z, hz, delay', newest, hhead, ?_⟩
          -- Of what lies before, this round has sent one request, and the others are behind it.
          rw [Log.postings_cons, Log.postings_append, hwatch.postings, List.length_append]
          change block.toNat + (1 + between.postings.length) ≤ newest.toNat
          omega

/-! ## Whole submissions -/

/-- Without a target block a submission is refused before anything is done. -/
theorem sendAndAwait_untargeted {rounds : UInt32} (h : bundle.targetBlock = none) :
    c.sendAndAwait bundle rounds deadline limit m =
      (some (.error (.invalidRequest "bundle has no target block")), m) := by
  simp only [sendAndAwait, h]
  rfl

/-- A bundle without a target is refused, and nothing is done.  A targeted bundle is submitted at
once where there are rounds and time.  Its submissions are requests for blocks in a row from its
target on, no more than the rounds that are allowed, each with all transactions and builders of the
bundle and with the number of its block in hexadecimal.  Each one starts before the deadline, and
before a later one starts, a look at the receipt has found nothing, and the chain has told of a
block that is not below the one of the former. -/
theorem submits_blocks_in_a_row (c : RelayClient κ) (bundle : Bundle) (rounds : UInt32)
    (deadline : Nat) (limit : Option Nat) (m : Moment (State κ)) :
    let ending := (c.sendAndAwait bundle rounds deadline limit m).2
    (bundle.targetBlock = none → c.sendAndAwait bundle rounds deadline limit m =
      (some (.error (.invalidRequest "bundle has no target block")), m)) ∧
    ∀ first, bundle.targetBlock = some first → first.toNat + rounds.toNat < UInt64.size →
      ∃ log : Log κ, ending.state.exchanges = log.noted.reverse ++ m.state.exchanges ∧
        log.Path c (around m) (around ending) ∧
        (rounds.toNat ≠ 0 → m.now < deadline → ∃ e rest, log = (around m, e) :: rest ∧
          Attempts (.sendBundle bundle.encodings first bundle.builders) m.state.nextId e) ∧
        log.sent.length ≤ rounds.toNat ∧
        (∀ r signed, log.sent[r]? = some signed → ∃ block,
          Submission.ofText? signed.body = some ⟨bundle.encodings, block, bundle.builders⟩ ∧
          Hex.Minimal block (first.toNat + r)) ∧
        (∀ x ∈ log, x.2.signed? ≠ none → x.1.now < deadline) ∧
        ∀ before x middle y after, log = before ++ x :: (middle ++ y :: after) →
          x.2.signed? ≠ none → y.2.signed? ≠ none →
          (∃ z ∈ middle, ∃ delay,
            z.2 = .askedReceipt bundle.last.hash (.after delay (.ok none))) ∧
          ∃ z ∈ middle, ∃ delay newest, z.2 = .askedHead (.after delay (.ok newest)) ∧
            first.toNat + (Log.sent before).length ≤ newest.toNat := by
  intro ending
  refine ⟨sendAndAwait_untargeted, fun first htarget hblocks => ?_⟩
  have hrun : c.sendRounds bundle deadline rounds.toNat first limit m =
      ((c.sendAndAwait bundle rounds deadline limit m).1, ending) := by
    simp only [ending, sendAndAwait, htarget]
  obtain ⟨log, requests, hx, hrounds⟩ := sendRounds_rounds hrun
  obtain ⟨k, hk, hpostings⟩ := hrounds.postings
  have hhonest : ∀ x ∈ log, x.2.Honest := by
    intro x hmem
    obtain ⟨world, hh⟩ := hrounds.course.path.happens x hmem
    exact hh.honest
  -- What is signed is what is posted, so the facts about postings carry over to the wire.
  simp only [ne_eq, Exchange.signed?_eq_none_iff, Log.length_sent]
  refine ⟨log, hx.exchanges, hrounds.course.path, hrounds.submits_first, ?_, ?_, hrounds.in_time,
    ?_⟩
  · rw [hpostings, List.length_zipIdx]
    exact ((bundle.resends_submissions first k).mono hk).length_le
  · intro r signed hsigned
    obtain ⟨request, hrequest, hbody⟩ := Log.body_of_sent hhonest hpostings hsigned
    obtain ⟨target, rfl, htarget⟩ := Bundle.submissions_place (by omega) hrequest
    rw [hbody, ← htarget]
    exact ⟨_, RelayRequest.submission_of_body _, Hex.minimal_quantity target.toNat⟩
  · intro before x middle y after hlog hx hy
    exact hrounds.reached_between hblocks hlog hx hy

/-- What that client puts on the wire reads as two submissions, for the fifth block and for the
sixth. -/
theorem heeded_submits_fifth_and_sixth :
    let start : Moment (State ChainScript) := ⟨.new ripening, 0⟩
    blankBundle.targetBlock = some 5 ∧ (5 : UInt64).toNat + (3 : UInt32).toNat < UInt64.size ∧
      ∃ (log : Log ChainScript) (first second : SignedRequest) (block block' : String),
        (heeded.sendAndAwait blankBundle 3 60000 none start).2.state.exchanges =
          log.noted.reverse ∧
        log.sent = [first, second] ∧
        Submission.ofText? first.body = some ⟨[[]], block, ["flashbots"]⟩ ∧ Hex.Minimal block 5 ∧
        Submission.ofText? second.body = some ⟨[[]], block', ["flashbots"]⟩ ∧
        Hex.Minimal block' 6 ∧
        ∀ x ∈ log, x.2.signed? ≠ none → x.1.now < 60000 := by
  intro start
  have hblocks : (5 : UInt64).toNat + (3 : UInt32).toNat < UInt64.size := by decide
  obtain ⟨first, second, hrun⟩ := heeded_run (nofun : Timed.inTime none 1000)
  obtain ⟨log, hlog, -, -, -, hsent, htime, -⟩ :=
    (submits_blocks_in_a_row heeded blankBundle 3 60000 none start).2 5 rfl hblocks
  have hexchanges : (heeded.sendAndAwait blankBundle 3 60000 none start).2.state.exchanges =
      log.noted.reverse := hlog.trans (List.append_nil _)
  have hnoted : log.noted = (heededExchanges first second).reverse := by
    rw [← List.reverse_reverse log.noted, ← hexchanges, hrun]
  have hwire : log.sent = [first, second] := by
    rw [log.sent_eq, hnoted]
    rfl
  rw [hwire] at hsent
  obtain ⟨block, hfirst, hfifth⟩ := hsent 0 first rfl
  obtain ⟨block', hsecond, hsixth⟩ := hsent 1 second rfl
  exact ⟨rfl, hblocks, log, first, second, block, block', hexchanges, hwire, hfirst, hfifth,
    hsecond, hsixth, htime⟩

end RelayClient
end ArbBundle

import ArbBundle.Proofs.Rlp.Reads

/-!
# Stable — bytes behind a value change nothing about it

A reader that has found a value finds the same value when more bytes stand behind the input, and
leaves them where they are.  No reader looks at the end of the input: a list is read inside its
payload, or it is measured by the bytes that its fields took.

- `Reader.Stable`: the law; `Stable.bind` and `Stable.ite` pass it on
- `readsHeads_header`: heads, whose payloads are there as a whole
- `stable_string` to `stable_flag`: the plain values
- `stable_listOf`, `stable_spanning`: lists of items, and the fields of a transaction;
  `spanning_eq_ok_iff`: what such fields are
-/

namespace ArbBundle
namespace Rlp
namespace Reader

variable {α β : Type}

/-! ## The law -/

/-- A value that was found is found in front of more bytes as well. -/
def Stable (read : Reader α) : Prop :=
  ∀ ⦃input : Bytes⦄ ⦃a : α⦄ ⦃rest : Bytes⦄, read input = .ok (a, rest) →
    ∀ behind, read (input ++ behind) = .ok (a, rest ++ behind)

theorem stable_pure (a : α) : Stable (pure a) := by
  intro input a' rest h behind
  cases h
  rfl

theorem stable_throw (fault : Error) : Stable (throw fault : Reader α) := by
  intro input a rest h
  cases h

/-- What does not hang on the input leaves it as it is. -/
theorem stable_lift (result : Except Error α) : Stable (liftM result : Reader α) := by
  intro input a rest h behind
  cases result with
  | error fault =>
      cases h
  | ok found =>
      cases h
      rfl

/-- Stable readers may follow upon each other. -/
theorem Stable.bind {x : Reader α} {f : α → Reader β} (hx : Stable x) (hf : ∀ a, Stable (f a)) :
    Stable (x >>= f) := by
  intro input b rest h behind
  obtain ⟨a, between, hfirst, hsecond⟩ := ok_of_bind h
  rw [bind_of_ok (hx hfirst behind)]
  exact hf a hsecond behind

theorem Stable.map {x : Reader α} {g : α → β} (hx : Stable x) : Stable (g <$> x) :=
  hx.bind fun a => stable_pure (g a)

theorem Stable.ite {c : Prop} [Decidable c] {x y : Reader α} (hx : Stable x) (hy : Stable y) :
    Stable (if c then x else y) := by
  split
  · exact hx
  · exact hy

/-- A value that passes a check. -/
theorem Stable.unless {c : Prop} [Decidable c] {fault : Error} {x : Unit → Reader α}
    (hx : Stable (x ())) : Stable (if c then throw fault >>= x else x ()) :=
  Stable.ite ((stable_throw fault).bind fun _ => hx) hx

/-- A first byte that chooses the reader: bytes behind the input do not change it, unless there was
none. -/
theorem Stable.peek {x : Option UInt8 → Reader α} (hempty : ∀ found, x none [] ≠ .ok found)
    (hx : ∀ b, Stable (x (some b))) : Stable (do x (← get).head?) := by
  intro input a rest hread behind
  cases input with
  | nil =>
      exact absurd hread (hempty _)
  | cons b bytes =>
      exact hx b hread behind

/-! ## Heads -/

/-- A reader of heads that tells the same in front of more bytes, and only of payloads that are
there as a whole. -/
structure ReadsHeads (read : Reader Header) : Prop where
  stable : Stable read
  complete : ∀ ⦃input : Bytes⦄ ⦃h : Header⦄ ⦃rest : Bytes⦄, read input = .ok (h, rest) →
    h.length ≤ rest.length

theorem readsHeads_checked (isList : Bool) (length : Nat) :
    ReadsHeads (checked isList length) := by
  have hinv {input rest : Bytes} {h : Header}
      (hread : checked isList length input = .ok (h, rest)) :
      length ≤ input.length ∧ h = ⟨isList, length⟩ ∧ rest = input := by
    unfold checked at hread
    split at hread
    · cases hread
    · rename_i henough
      cases hread
      exact ⟨Nat.not_lt.1 henough, rfl, rfl⟩
  constructor
  · intro input h rest hread behind
    obtain ⟨henough, rfl, rfl⟩ := hinv hread
    exact checked_of_le (by simp only [List.length_append]; omega)
  · intro input h rest hread
    obtain ⟨henough, rfl, rfl⟩ := hinv hread
    exact henough

theorem readsHeads_longHeader (isList : Bool) (count : Nat) :
    ReadsHeads (longHeader isList count) := by
  have hinv {input rest : Bytes} {h : Header}
      (hread : longHeader isList count input = .ok (h, rest)) :
      count ≤ input.length ∧ ∃ n, longLength (input.take count) = .ok n ∧
        checked isList n (input.drop count) = .ok (h, rest) := by
    unfold longHeader at hread
    split at hread
    · cases hread
    · rename_i henough
      cases hlength : longLength (input.take count) with
      | error fault =>
          rw [hlength] at hread
          cases hread
      | ok n =>
          rw [hlength] at hread
          exact ⟨Nat.not_lt.1 henough, n, rfl, hread⟩
  constructor
  · intro input h rest hread behind
    obtain ⟨henough, n, hlength, hchecked⟩ := hinv hread
    unfold longHeader
    rw [if_neg (by simp only [List.length_append]; omega), List.take_append_of_le_length henough,
      List.drop_append_of_le_length henough, hlength]
    exact (readsHeads_checked isList n).stable hchecked behind
  · intro input h rest hread
    obtain ⟨-, n, -, hchecked⟩ := hinv hread
    exact (readsHeads_checked isList n).complete hchecked

/-- The head of a single byte that does not stand for itself. -/
def singleHeader : Reader Header
  | [] => .error .tooShort
  | x :: rest => if x < 0x80 then .error .singleByte else .ok (⟨false, 1⟩, x :: rest)

theorem readsHeads_singleHeader : ReadsHeads singleHeader := by
  have hinv {input rest : Bytes} {h : Header} (hread : singleHeader input = .ok (h, rest)) :
      ∃ x xs, input = x :: xs ∧ ¬ x < 0x80 ∧ h = ⟨false, 1⟩ ∧ rest = x :: xs := by
    cases input with
    | nil =>
        cases hread
    | cons x xs =>
        simp only [singleHeader] at hread
        split at hread
        · cases hread
        · rename_i hlarge
          cases hread
          exact ⟨x, xs, rfl, hlarge, rfl, rfl⟩
  constructor
  · intro input h rest hread behind
    obtain ⟨x, xs, rfl, hlarge, rfl, rfl⟩ := hinv hread
    exact if_neg hlarge
  · intro input h rest hread
    obtain ⟨x, xs, rfl, hlarge, rfl, rfl⟩ := hinv hread
    simp

/-- The first byte stands for itself, or it leaves the head to one of the readers above. -/
theorem header_cons (b : UInt8) :
    (∀ rest, header (b :: rest) = .ok (⟨false, 1⟩, b :: rest)) ∨
      ∃ read, ReadsHeads read ∧ ∀ rest, header (b :: rest) = read rest := by
  unfold header
  dsimp only
  -- The bounds are those of the five kinds of heads, in the order in which they are tried.
  by_cases hself : b.toNat < 0x80
  · exact .inl fun rest => if_pos hself
  refine .inr ?_
  simp only [if_neg hself]
  by_cases hsingle : b.toNat = 0x81
  · refine ⟨singleHeader, readsHeads_singleHeader, fun rest => ?_⟩
    rw [if_pos hsingle]
    cases rest <;> rfl
  simp only [if_neg hsingle]
  by_cases hshort : b.toNat < 0xb8
  · exact ⟨_, readsHeads_checked _ _, fun rest => if_pos hshort⟩
  simp only [if_neg hshort]
  by_cases hlong : b.toNat < 0xc0
  · exact ⟨_, readsHeads_longHeader _ _, fun rest => if_pos hlong⟩
  simp only [if_neg hlong]
  by_cases hlist : b.toNat < 0xf8
  · exact ⟨_, readsHeads_checked _ _, fun rest => if_pos hlist⟩
  · exact ⟨_, readsHeads_longHeader _ _, fun rest => if_neg hlist⟩

/-- Short or long, the head of an item tells the same in front of more bytes. -/
theorem readsHeads_header : ReadsHeads header := by
  constructor
  · intro input h rest hread behind
    cases input with
    | nil =>
        cases hread
    | cons b bytes =>
        rcases header_cons b with hself | ⟨read, hread', heq⟩
        · rw [hself] at hread
          cases hread
          exact hself (bytes ++ behind)
        · rw [heq] at hread
          rw [List.cons_append, heq]
          exact hread'.stable hread behind
  · intro input h rest hread
    cases input with
    | nil =>
        cases hread
    | cons b bytes =>
        rcases header_cons b with hself | ⟨read, hread', heq⟩
        · rw [hself] at hread
          cases hread
          simp
        · rw [heq] at hread
          exact hread'.complete hread

/-! ## Plain values -/

/-- The payload behind a head of one kind. -/
theorem stable_payload {fault : Error} {isFault : Header → Bool} :
    Stable (do
      let h ← header
      if isFault h then throw fault
      take h.length) := by
  intro input payload rest hread behind
  obtain ⟨h, between, hhead, htake⟩ := ok_of_bind hread
  -- The payload is there as a whole, so none of it is taken from the bytes behind.
  have hcomplete := readsHeads_header.complete hhead
  rw [bind_of_ok (readsHeads_header.stable hhead behind)]
  split at htake
  · cases htake
  · rename_i hkind
    simp only [if_neg hkind]
    cases htake
    unfold take
    rw [List.take_append_of_le_length hcomplete, List.drop_append_of_le_length hcomplete]

theorem stable_string : Stable string :=
  stable_payload

theorem stable_list : Stable list :=
  stable_payload

theorem stable_uint (width : Nat) : Stable (uint width) :=
  stable_string.bind fun _ => Stable.unless (Stable.unless (stable_pure _))

theorem stable_uint64 : Stable uint64 :=
  (stable_uint 8).bind fun _ => stable_pure _

theorem stable_feeRate : Stable feeRate :=
  (stable_uint 16).bind fun _ => stable_pure _

theorem stable_word : Stable word :=
  stable_string.bind fun _ => Stable.unless (Stable.unless (stable_pure _))

theorem stable_fixed (n : Nat) : Stable (fixed n) := by
  refine stable_string.bind fun b => ?_
  split
  · exact stable_pure _
  · exact stable_throw _

theorem stable_flag : Stable flag := by
  refine (stable_uint 1).bind fun n => ?_
  split
  · exact stable_pure _
  · exact stable_pure _
  · exact stable_throw _

/-! ## Lists -/

/-- The items are read inside the payload, so it does not matter how they are read. -/
theorem stable_listOf (item : Reader α) : Stable (listOf item) :=
  stable_list.bind fun _ => stable_lift _

/-- Fields that are read off the whole input: behind the head of a list, and as many bytes as it
announces. -/
theorem spanning_eq_ok_iff {fields : Reader α} {input rest : Bytes} {a : α} :
    spanning fields input = .ok (a, rest) ↔
      ∃ length between, header input = .ok (⟨true, length⟩, between) ∧
        fields between = .ok (a, rest) ∧ between.length - rest.length = length := by
  have hget {bytes : Bytes} : (get : Reader Bytes) bytes = .ok (bytes, bytes) := rfl
  constructor
  · intro hread
    obtain ⟨⟨isList, length⟩, between, hhead, hread⟩ := ok_of_bind hread
    cases isList with
    | false =>
        cases hread
    | true =>
        obtain ⟨before, between', hbefore, hread⟩ := ok_of_bind hread
        cases hbefore
        obtain ⟨a', after, hfound, hread⟩ := ok_of_bind hread
        obtain ⟨after', between', hafter, hread⟩ := ok_of_bind hread
        cases hafter
        simp only at hread
        split at hread
        · cases hread
        · rename_i hlength
          cases hread
          exact ⟨length, between, hhead, hfound, Decidable.not_not.1 hlength⟩
  · rintro ⟨length, between, hhead, hfound, rfl⟩
    rw [spanning, bind_of_ok hhead]
    show ((get : Reader Bytes) >>= _) between = _
    rw [bind_of_ok hget, bind_of_ok hfound, bind_of_ok hget]
    exact congrFun (if_neg (not_not_intro rfl)) rest

/-- A list of stable fields is stable: the bytes that its fields take are counted, not those
behind. -/
theorem stable_spanning {fields : Reader α} (hfields : Stable fields) :
    Stable (spanning fields) := by
  intro input a rest hread behind
  obtain ⟨length, between, hhead, hfound, hlength⟩ := spanning_eq_ok_iff.1 hread
  refine spanning_eq_ok_iff.2 ⟨length, between ++ behind, ?_, hfields hfound behind, ?_⟩
  · exact readsHeads_header.stable hhead behind
  · -- Both ends have moved by as much, so the fields took as many bytes as before.
    simp only [List.length_append]
    omega

end Reader
end Rlp
end ArbBundle

import ArbBundle.Rlp.Item
import ArbBundle.Rlp.Reader
import Mathlib.Algebra.Order.Ring.Nat

/-!
# Reads — what was written is read back, whatever stands behind it

A reader reads a value off some bytes when it takes just those bytes and gives the value, in front
of any others.  The law passes from the fields of a list to the list, so that a layout is read back
field by field.

- `Bytes.ofBigEndian_minimalBigEndian`: numbers survive in as few bytes as hold them
- `Reader.Reads`: the law; `Reads.bind`, `Reads.field`: one value after the other
- `Item.Fits`: the encoding is short enough for its heads to tell its lengths
- `reads_string`, `reads_list`: payloads behind their heads, and the plain values upon them
- `reads_listOf`, `reads_closed`, `reads_spanning`: lists of items and of fields
-/

namespace ArbBundle

/-! ## Numbers as bytes -/

namespace Bytes

theorem ofBigEndian_append_singleton (b : Bytes) (d : UInt8) :
    ofBigEndian (b ++ [d]) = ofBigEndian b * 256 + d.toNat := by
  simp [ofBigEndian]

theorem minimalBigEndian_of_ne_zero {n : Nat} (h : n ≠ 0) :
    minimalBigEndian n = minimalBigEndian (n / 256) ++ [UInt8.ofNat n] := by
  rw [minimalBigEndian, dif_neg h]

@[simp] theorem minimalBigEndian_zero : minimalBigEndian 0 = [] := by
  simp [minimalBigEndian]

/-- A number survives in as few bytes as hold it. -/
@[simp] theorem ofBigEndian_minimalBigEndian (n : Nat) : ofBigEndian (minimalBigEndian n) = n := by
  induction n using minimalBigEndian.induct with
  | case1 =>
      simp [ofBigEndian]
  | case2 n hn ih =>
      have hlast : (UInt8.ofNat n).toNat = n % 256 := UInt8.toNat_ofNat
      rw [minimalBigEndian_of_ne_zero hn, ofBigEndian_append_singleton, ih, hlast]
      omega

/-- The first byte of a number is not zero. -/
theorem head?_minimalBigEndian (n : Nat) : (minimalBigEndian n).head? ≠ some 0 := by
  induction n using minimalBigEndian.induct with
  | case1 =>
      simp
  | case2 n hn ih =>
      rw [minimalBigEndian_of_ne_zero hn, List.head?_append]
      cases hfirst : (minimalBigEndian (n / 256)).head? with
      | some d =>
          rw [hfirst] at ih
          exact ih
      | none =>
          -- The last byte is the first one, so it is the number itself.
          have hquotient := ofBigEndian_minimalBigEndian (n / 256)
          rw [List.head?_eq_none_iff.1 hfirst] at hquotient
          intro hzero
          have hbyte : UInt8.ofNat n = 0 := Option.some.inj hzero
          have hlast : n % 256 = 0 := UInt8.toNat_ofNat.symm.trans (congrArg UInt8.toNat hbyte)
          have hsmall : n / 256 = 0 := hquotient.symm
          omega

theorem length_minimalBigEndian_le {n : Nat} (width : Nat) (h : n < 256 ^ width) :
    (minimalBigEndian n).length ≤ width := by
  induction width generalizing n with
  | zero =>
      have hn : n = 0 := by simpa using h
      simp [hn]
  | succ width ih =>
      by_cases hn : n = 0
      · simp [hn]
      · -- Each byte takes one factor off the bound.
        have hquotient : n / 256 < 256 ^ width := by
          rw [Nat.div_lt_iff_lt_mul (by decide)]
          simpa [Nat.pow_succ] using h
        rw [minimalBigEndian_of_ne_zero hn, List.length_append]
        exact Nat.succ_le_succ (ih hquotient)

end Bytes

namespace Rlp

variable {α β : Type}

namespace Reader

theorem bind_of_ok {x : Reader α} {f : α → Reader β} {input rest : Bytes} {a : α}
    (h : x input = .ok (a, rest)) : (x >>= f) input = f a rest := by
  show (x input >>= fun p => f p.1 p.2) = f a rest
  rw [h]
  rfl

theorem ok_of_bind {x : Reader α} {f : α → Reader β} {input rest : Bytes} {b : β}
    (h : (x >>= f) input = .ok (b, rest)) :
    ∃ a between, x input = .ok (a, between) ∧ f a between = .ok (b, rest) := by
  cases hx : x input with
  | error fault =>
      have hfault : (x >>= f) input = .error fault := by
        show (x input >>= _) = _
        rw [hx]
        rfl
      rw [hfault] at h
      cases h
  | ok found =>
      rw [bind_of_ok hx] at h
      exact ⟨found.1, found.2, rfl, h⟩

/-! ## The law -/

/-- The reader takes just these bytes for the value, whatever stands behind them. -/
def Reads (read : Reader α) (a : α) (written : Bytes) : Prop :=
  ∀ behind, read (written ++ behind) = .ok (a, behind)

theorem reads_pure (a : α) : Reads (pure a) a [] :=
  fun _ => rfl

/-- Readers in a row take their bytes in a row. -/
theorem Reads.bind {x : Reader α} {f : α → Reader β} {a : α} {b : β} {first second : Bytes}
    (hx : Reads x a first) (hf : Reads (f a) b second) : Reads (x >>= f) b (first ++ second) := by
  intro behind
  rw [List.append_assoc, bind_of_ok (hx _)]
  exact hf behind

theorem Reads.map {x : Reader α} {a : α} {written : Bytes} (g : α → β) (hx : Reads x a written) :
    Reads (g <$> x) (g a) written := by
  intro behind
  show (x (written ++ behind) >>= fun p => pure (g p.1, p.2)) = _
  rw [hx behind]
  rfl

/-- The first field of a list is read, and then the others. -/
theorem Reads.field {x : Reader α} {f : α → Reader β} {a : α} {b : β} {item : Item}
    {items : List Item} (hx : Reads x a item.encode)
    (hf : Reads (f a) b (Item.encodeAll items)) :
    Reads (x >>= f) b (Item.encodeAll (item :: items)) := by
  rw [Item.encodeAll]
  exact hx.bind hf

end Reader

/-! ## Items and their lengths -/

namespace Item

theorem encodeAll_append (first second : List Item) :
    encodeAll (first ++ second) = encodeAll first ++ encodeAll second := by
  induction first with
  | nil =>
      rfl
  | cons item rest ih =>
      simp only [List.cons_append, encodeAll, ih, List.append_assoc]

/-- The encoding is short enough for its heads to tell all lengths. -/
def Fits (item : Item) : Prop :=
  item.encode.length < 2 ^ 64

theorem head_ne_nil (base length : Nat) : head base length ≠ [] := by
  unfold head
  split <;> exact List.cons_ne_nil _ _

theorem encodeString_ne_nil (b : Bytes) : encodeString b ≠ [] := by
  unfold encodeString
  split
  · split
    · exact List.cons_ne_nil _ _
    · exact List.append_ne_nil_of_left_ne_nil (head_ne_nil _ _) _
  · exact List.append_ne_nil_of_left_ne_nil (head_ne_nil _ _) _

theorem encode_ne_nil (item : Item) : item.encode ≠ [] := by
  cases item with
  | str b =>
      rw [encode]
      exact encodeString_ne_nil b
  | list items =>
      rw [encode]
      exact List.append_ne_nil_of_left_ne_nil (head_ne_nil _ _) _

theorem length_le_encodeString (b : Bytes) : b.length ≤ (encodeString b).length := by
  unfold encodeString
  split
  · split <;> simp
  · simp

theorem Fits.string {b : Bytes} (h : Fits (.str b)) : b.length < 2 ^ 64 := by
  unfold Fits at h
  rw [encode] at h
  exact Nat.lt_of_le_of_lt (length_le_encodeString b) h

theorem Fits.payload {items : List Item} (h : Fits (.list items)) :
    (encodeAll items).length < 2 ^ 64 := by
  unfold Fits at h
  rw [encode, encodeList, List.length_append] at h
  exact Nat.lt_of_le_of_lt (Nat.le_add_left _ _) h

/-- No item is longer than the payload that it is a part of. -/
theorem length_encode_le_of_mem {item : Item} {items : List Item} (h : item ∈ items) :
    item.encode.length ≤ (encodeAll items).length := by
  obtain ⟨before, after, rfl⟩ := List.append_of_mem h
  rw [encodeAll_append, encodeAll, List.length_append, List.length_append]
  omega

/-- What stands in a list that fits does so itself. -/
theorem Fits.of_mem {item : Item} {items : List Item} (h : Fits (.list items))
    (hmem : item ∈ items) : item.Fits :=
  Nat.lt_of_le_of_lt (length_encode_le_of_mem hmem) h.payload

end Item

namespace Reader

/-! ## Heads -/

theorem checked_of_le {isList : Bool} {length : Nat} {rest : Bytes} (h : length ≤ rest.length) :
    checked isList length rest = .ok (⟨isList, length⟩, rest) :=
  if_neg (Nat.not_lt.2 h)

/-- A length from 56 on is read back from its minimal bytes. -/
theorem longLength_minimalBigEndian {n : Nat} (h : 56 ≤ n) :
    longLength (Bytes.minimalBigEndian n) = .ok n := by
  have hfirst := Bytes.head?_minimalBigEndian n
  unfold longLength
  split
  · rename_i hzero
    rw [hzero] at hfirst
    exact absurd rfl hfirst
  · dsimp only
    rw [Bytes.ofBigEndian_minimalBigEndian, if_neg (Nat.not_lt.2 h)]

/-- A long head is read back in front of its payload. -/
theorem longHeader_of_payload {isList : Bool} {payload behind : Bytes} (h : 56 ≤ payload.length) :
    longHeader isList (Bytes.minimalBigEndian payload.length).length
        (Bytes.minimalBigEndian payload.length ++ (payload ++ behind)) =
      .ok (⟨isList, payload.length⟩, payload ++ behind) := by
  unfold longHeader
  rw [if_neg (by simp), List.take_left', List.drop_left']
  · rw [longLength_minimalBigEndian h]
    exact checked_of_le (by simp)
  all_goals rfl

/-- The bytes of a long length: more than none, and no more than a head can tell. -/
theorem length_digits_of_long {n : Nat} (hlong : 56 ≤ n) (hfits : n < 2 ^ 64) :
    1 ≤ (Bytes.minimalBigEndian n).length ∧ (Bytes.minimalBigEndian n).length ≤ 8 := by
  constructor
  · rw [Bytes.minimalBigEndian_of_ne_zero (by omega)]
    simp
  · exact Bytes.length_minimalBigEndian_le 8 (by simpa using hfits)

/-- The head of a string is read in front of the string, unless the string is one byte that stands
for itself. -/
theorem header_string {payload behind : Bytes} (hfits : payload.length < 2 ^ 64)
    (hsingle : ∀ x, payload = [x] → ¬ x < 0x80) :
    header (head 0x80 payload.length ++ payload ++ behind) =
      .ok (⟨false, payload.length⟩, payload ++ behind) := by
  rw [List.append_assoc]
  unfold head
  split
  · rename_i hshort
    have hbyte : (UInt8.ofNat (0x80 + payload.length)).toNat = 0x80 + payload.length :=
      UInt8.toNat_ofNat_of_lt (by show _ < 256; omega)
    simp only [List.cons_append, List.nil_append, header, hbyte]
    rw [if_neg (by omega)]
    split
    · -- A head of one byte is looked at together with the byte.
      obtain ⟨x, rfl⟩ := List.length_eq_one_iff.1 (by omega : payload.length = 1)
      simp [hsingle x rfl]
    · rw [if_pos (by omega), Nat.add_sub_cancel_left]
      exact checked_of_le (by simp)
  · rename_i hlong
    obtain ⟨hsome, hfew⟩ := length_digits_of_long (Nat.not_lt.1 hlong) hfits
    have hbyte : (UInt8.ofNat (0x80 + 55 + (Bytes.minimalBigEndian payload.length).length)).toNat =
        0x80 + 55 + (Bytes.minimalBigEndian payload.length).length :=
      UInt8.toNat_ofNat_of_lt (by show _ < 256; omega)
    simp only [List.cons_append, header, hbyte]
    rw [if_neg (by omega), if_neg (by omega), if_neg (by omega), if_pos (by omega),
      Nat.add_sub_cancel_left]
    exact longHeader_of_payload (Nat.not_lt.1 hlong)

/-- The head of a list is read in front of its payload. -/
theorem header_list {payload behind : Bytes} (hfits : payload.length < 2 ^ 64) :
    header (encodeList payload ++ behind) = .ok (⟨true, payload.length⟩, payload ++ behind) := by
  rw [encodeList, List.append_assoc]
  unfold head
  split
  · rename_i hshort
    have hbyte : (UInt8.ofNat (0xc0 + payload.length)).toNat = 0xc0 + payload.length :=
      UInt8.toNat_ofNat_of_lt (by show _ < 256; omega)
    simp only [List.cons_append, List.nil_append, header, hbyte]
    rw [if_neg (by omega), if_neg (by omega), if_neg (by omega), if_neg (by omega),
      if_pos (by omega), Nat.add_sub_cancel_left]
    exact checked_of_le (by simp)
  · rename_i hlong
    obtain ⟨hsome, hfew⟩ := length_digits_of_long (Nat.not_lt.1 hlong) hfits
    have hbyte : (UInt8.ofNat (0xc0 + 55 + (Bytes.minimalBigEndian payload.length).length)).toNat =
        0xc0 + 55 + (Bytes.minimalBigEndian payload.length).length :=
      UInt8.toNat_ofNat_of_lt (by show _ < 256; omega)
    simp only [List.cons_append, header, hbyte]
    rw [if_neg (by omega), if_neg (by omega), if_neg (by omega), if_neg (by omega),
      if_neg (by omega), Nat.add_sub_cancel_left]
    exact longHeader_of_payload (Nat.not_lt.1 hlong)

/-! ## Plain values -/

theorem take_append (payload : Bytes) {behind : Bytes} :
    take payload.length (payload ++ behind) = .ok (payload, behind) := by
  unfold take
  rw [List.take_left, List.drop_left]

/-- A string is read back. -/
theorem reads_string {b : Bytes} (h : b.length < 2 ^ 64) : Reads string b (Item.str b).encode := by
  intro behind
  rw [Item.encode]
  by_cases hself : ∃ x, b = [x] ∧ x < 0x80
  · -- The byte is its own head.
    obtain ⟨x, rfl, hx⟩ := hself
    have hhead : header (encodeString [x] ++ behind) = .ok (⟨false, 1⟩, [x] ++ behind) := by
      simp only [encodeString, if_pos hx, List.cons_append, List.nil_append, header]
      exact if_pos hx
    rw [string, bind_of_ok hhead]
    exact take_append [x]
  · have hsingle : ∀ x, b = [x] → ¬ x < 0x80 := fun x hb hx => hself ⟨x, hb, hx⟩
    have hencode : encodeString b = head 0x80 b.length ++ b := by
      unfold encodeString
      split
      · rename_i x
        rw [if_neg (hsingle x rfl)]
        rfl
      · rfl
    rw [hencode, string, bind_of_ok (header_string h hsingle)]
    exact take_append b

/-- The payload of a list is read back. -/
theorem reads_list {items : List Item} (h : Item.Fits (.list items)) :
    Reads list (Item.encodeAll items) (Item.list items).encode := by
  intro behind
  rw [Item.encode, list, bind_of_ok (header_list h.payload)]
  exact take_append _

/-- A number that has room in `width` bytes is read back from its minimal bytes. -/
theorem reads_uint {n : Nat} (width : Nat) (h : n < 256 ^ width) (hwidth : width ≤ 32) :
    Reads (uint width) n (Item.ofNat n).encode := by
  intro behind
  have hlength := Bytes.length_minimalBigEndian_le width h
  rw [Item.ofNat, uint, bind_of_ok (reads_string (by omega) behind)]
  simp only [if_neg (Nat.not_lt.2 hlength), if_neg (Bytes.head?_minimalBigEndian n),
    Bytes.ofBigEndian_minimalBigEndian]
  rfl

theorem reads_uint64 (n : UInt64) : Reads uint64 n (Item.ofNat n.toNat).encode := by
  have hread := (reads_uint 8 n.toNat_lt (by decide)).map UInt64.ofNat
  rw [UInt64.ofNat_toNat] at hread
  rw [uint64, bind_pure_comp]
  exact hread

theorem reads_feeRate (r : FeeRate) : Reads feeRate r (Item.ofNat r.toNat).encode := by
  have hread := (reads_uint 16 r.isLt (by decide)).map (BitVec.ofNat 128)
  rw [BitVec.ofNat_toNat, BitVec.setWidth_eq] at hread
  rw [feeRate, bind_pure_comp]
  exact hread

theorem reads_word (w : Wei) : Reads word w (Item.ofNat w.toNat).encode := by
  intro behind
  have hlength := Bytes.length_minimalBigEndian_le 32 w.isLt
  rw [Item.ofNat, word, bind_of_ok (reads_string (by omega) behind)]
  simp only [if_neg (Nat.not_lt.2 hlength), if_neg (Bytes.head?_minimalBigEndian w.toNat),
    Bytes.ofBigEndian_minimalBigEndian, BitVec.ofNat_toNat, BitVec.setWidth_eq]
  rfl

/-- A byte string of a known length is read back. -/
theorem reads_fixed {n : Nat} (b : FixedBytes n) (h : n < 2 ^ 64) :
    Reads (fixed n) b (Item.ofFixed b).encode := by
  intro behind
  have hlength : b.toList.length < 2 ^ 64 := by
    rw [b.length_eq]
    exact h
  rw [Item.ofFixed, fixed, bind_of_ok (reads_string hlength behind), FixedBytes.ofList?_toList]
  rfl

theorem reads_flag (b : Bool) : Reads flag b (Item.ofNat b.toNat).encode := by
  intro behind
  have hsmall : b.toNat < 256 ^ 1 := by
    cases b <;> decide
  rw [flag, bind_of_ok (reads_uint 1 hsmall (by decide) behind)]
  cases b <;> rfl

/-! ## Lists -/

variable {item : Reader α} {write : α → Item} {as : List α} {fields : Reader α} {a : α}
  {items : List Item}

/-- Items that are written one after the other are read until they are used up. -/
theorem all_encodeAll (h : ∀ a ∈ as, Reads item a (write a).encode) :
    all item (Item.encodeAll (as.map write)) = .ok as := by
  induction as with
  | nil =>
      rw [List.map_nil, Item.encodeAll, all]
  | cons a as ih =>
      have hread := h a List.mem_cons_self (Item.encodeAll (as.map write))
      have hrest := ih fun a' ha' => h a' (List.mem_cons_of_mem a ha')
      -- An item takes up some bytes, so the reading comes to an end.
      obtain ⟨b, bs, hb⟩ := List.exists_cons_of_ne_nil (Item.encode_ne_nil (write a))
      rw [hb, List.cons_append] at hread
      rw [List.map_cons, Item.encodeAll, hb, List.cons_append, all, hread]
      have hless : (Item.encodeAll (as.map write)).length <
          (b :: (bs ++ Item.encodeAll (as.map write))).length := by
        simp only [List.length_cons, List.length_append]
        omega
      simp only [dif_pos hless, hrest]

/-- A list is read back if each of its items is. -/
theorem reads_listOf (hfits : Item.Fits (.list (as.map write)))
    (h : ∀ a ∈ as, Reads item a (write a).encode) :
    Reads (listOf item) as (Item.list (as.map write)).encode := by
  intro behind
  rw [listOf, bind_of_ok (reads_list hfits behind), all_encodeAll h]
  rfl

/-- A list of fields is read back if its fields are, one after the other. -/
theorem reads_closed (hfits : Item.Fits (.list items))
    (h : Reads fields a (Item.encodeAll items)) :
    Reads (closed fields) a (Item.list items).encode := by
  intro behind
  have hpayload : fields (Item.encodeAll items) = .ok (a, []) := by
    simpa using h []
  rw [closed, bind_of_ok (reads_list hfits behind), hpayload]
  rfl

/-- Fields that take as many bytes as their list announces pass the check of it. -/
theorem reads_spanning (hfits : Item.Fits (.list items))
    (h : Reads fields a (Item.encodeAll items)) :
    Reads (spanning fields) a (Item.list items).encode := by
  intro behind
  have hget {input : Bytes} : (get : Reader Bytes) input = .ok (input, input) := rfl
  -- The fields are measured by what is left behind them.
  rw [Item.encode, spanning, bind_of_ok (header_list hfits.payload)]
  simp only [Bool.not_true, Bool.false_eq_true, if_false]
  rw [bind_of_ok hget, bind_of_ok (h behind), bind_of_ok hget]
  have hgot : (Item.encodeAll items ++ behind).length - behind.length =
      (Item.encodeAll items).length := by
    simp
  simp only [hgot, ne_eq, not_true_eq_false, if_false]
  rfl

end Reader
end Rlp
end ArbBundle

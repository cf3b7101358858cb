import ArbBundle.Json.Record
import ArbBundle.Proofs.Bytes.Numeral
import ArbBundle.Proofs.Json.Rendering

/-!
# Record — fields are read back as they were written

A writer and a reader of one kind of value belong together when the writer writes nothing but data
that survives as text, and the reader gives back what was written.  That law holds for the plain
values and passes to lists and options; a record of such fields is read back field by field.

- `Json.Restores`: the law
- `Restores.of_text`: what it says of texts
- `Restores.list`, `Restores.nullable`, `Restores.required`, `Restores.optional`: what it passes to
- `Record.ofJson?_object`: what an object gives for the fields of a record
- `Record.required_eq_some_iff`, `Record.optional_eq_some_iff`: how a field is read from its member
- `Restores.record`: the law for records
-/

namespace ArbBundle

namespace Json

/-- A number with one more decimal digit. -/
def shift? (n : Nat) (c : Char) : Option Nat :=
  if c.isDigit then some (n * 10 + (c.toNat - 48)) else none

theorem shift?_digitChar {d : Nat} (hd : d < 10) (acc : Nat) :
    shift? acc (Nat.digitChar d) = some (acc * 10 + d) := by
  have hdigits : ∀ m : Fin 10,
      (Nat.digitChar m).isDigit ∧ (Nat.digitChar m).toNat - 48 = m.val := by
    decide
  obtain ⟨hdigit, hvalue⟩ := hdigits ⟨d, hd⟩
  simp only [shift?, hdigit, hvalue, if_true]

theorem foldlM_shift? (n : Nat) : (Nat.toDigits 10 n).foldlM shift? 0 = some n := by
  induction n using Nat.strongRecOn with
  | ind n ih =>
      rw [Nat.toDigits_eq_if (by decide)]
      split
      · rename_i hsmall
        simpa using shift?_digitChar hsmall 0
      · rw [List.foldlM_append, ih (n / 10) (by omega)]
        have hlast := shift?_digitChar (Nat.mod_lt n (by decide)) (n / 10)
        have hn : n / 10 * 10 + n % 10 = n := by
          omega
        simpa [hn] using hlast

/-- The digits of a number are read back. -/
theorem decimal?_toDigits (n : Nat) : decimal? (Nat.toDigits 10 n) = some n := by
  have hfold := foldlM_shift? n
  cases hd : Nat.toDigits 10 n with
  | nil =>
      exact absurd hd Nat.toDigits_ne_nil
  | cons d ds =>
      rwa [hd] at hfold

theorem natural?_ofNat (n : Nat) : natural? (ofNat n) = some n :=
  decimal?_toDigits n

/-! ## Plain values -/

/-- Whatever `write` writes survives as text, and `read` gives it back. -/
structure Restores {α : Type} (write : α → Json) (read : Json → Option α) : Prop where
  written (a : α) : Written (write a)
  read (a : α) : read (write a) = some a

theorem restores_text : Restores text text? where
  written := .text
  read _ := rfl

theorem restores_bool : Restores bool bool? where
  written := .bool
  read _ := rfl

theorem restores_uint32 : Restores (fun n : UInt32 => ofNat n.toNat) uint32? where
  written n := .nat n.toNat
  read n := by
    have hlt : n.toNat < UInt32.size := n.toNat_lt
    simp [uint32?, natural?_ofNat, Word.uint32?, hlt]

theorem restores_uint64 : Restores (fun n : UInt64 => ofNat n.toNat) uint64? where
  written n := .nat n.toNat
  read n := by
    have hlt : n.toNat < UInt64.size := n.toNat_lt
    simp [uint64?, natural?_ofNat, Word.uint64?, hlt]

theorem restores_feeRate : Restores (fun r : FeeRate => ofNat r.toNat) feeRate? where
  written r := .nat r.toNat
  read r := by
    rw [feeRate?, natural?_ofNat, Option.bind_some, Word.ofNat?_toNat]

theorem restores_wei : Restores ofWei wei? where
  written _ := .text _
  read w := by
    have hnat : Numeral.nat? ('0' :: 'x' :: Hex.ofNat w.toNat) = some w.toNat :=
      Numeral.digits?_toDigits w.toNat
    change Numeral.wei? (String.ofList ('0' :: 'x' :: Hex.ofNat w.toNat)).toList = some w
    rw [String.toList_ofList, Numeral.wei?, hnat, Option.bind_some, Word.ofNat?_toNat]

theorem restores_bytes : Restores ofBytes bytes? where
  written _ := .text _
  read b := by
    change Hex.decode? (Hex.dropMark (String.ofList ('0' :: 'x' :: Hex.encode b)).toList) = some b
    rw [String.toList_ofList]
    exact Hex.decode?_encode b

theorem restores_fixed {n : Nat} : Restores (fun b : FixedBytes n => ofBytes b.toList) fixed? where
  written _ := .text _
  read b := by
    have hbytes : (Hex.bytes? (Hex.marked b.toList)) = some b.toList := restores_bytes.read b.toList
    change (Hex.bytes? (Hex.marked b.toList)).bind FixedBytes.ofList? = some b
    rw [hbytes, Option.bind_some, FixedBytes.ofList?_toList]

namespace Restores

variable {α : Type} {write : α → Json} {read : Json → Option α}

/-- What was written is read back from its text. -/
theorem of_text (h : Restores write read) (a : α) :
    (ofText? (write a).render).bind read = some a := by
  rw [ofText?_render (h.written a), Option.bind_some, h.read]

/-- A list survives if its elements do. -/
theorem list (h : Restores write read) :
    Restores (fun as : List α => .arr (as.map write)) (list? read) where
  written as := by
    refine .arr fun e he => ?_
    obtain ⟨a, -, rfl⟩ := List.mem_map.1 he
    exact h.written a
  read as := by
    change (as.map write).mapM read = some as
    induction as with
    | nil =>
        rfl
    | cons a as ih =>
        simp [List.mapM_cons, h.read, ih]

/-- A missing value is told from a value that is there when no value is written as null. -/
theorem nullable (h : Restores write read) (hnull : ∀ a, write a ≠ .null) :
    Restores (ofOption write) (nullable? read) where
  written a? := by
    cases a? with
    | none =>
        exact .null
    | some a =>
        exact h.written a
  read a? := by
    cases a? with
    | none =>
        rfl
    | some a =>
        have hread := h.read a
        change nullable? read (write a) = some (some a)
        unfold nullable?
        split
        · rename_i hwrite
          exact absurd hwrite (hnull a)
        · rw [hread, Option.map_some]

theorem required (h : Restores write read) (a : α) :
    Slot.required read (.given (write a)) = some a :=
  h.read a

theorem withDefault (h : Restores write read) (default a : α) :
    Slot.withDefault default read (.given (write a)) = some a :=
  h.read a

/-- An optional field survives, unless a value of it is written as null. -/
theorem optional (h : Restores write read) (hnull : ∀ a, write a ≠ .null) (a? : Option α) :
    Slot.optional read (.given (ofOption write a?)) = some a? := by
  have hread := (h.nullable hnull).read a?
  unfold nullable? at hread
  unfold Slot.optional
  split at hread <;> simp_all

end Restores

/-! ## Records -/

namespace Record

/-- What an object gives for a field where no two members have one name. -/
def slotIn (ms : List (String × Json)) (name : String) : Slot :=
  (ms.lookup name).elim .omitted .given

variable {ms : List (String × Json)} {name : String}

theorem lookup_eq_some_iff (hnodup : (ms.map Prod.fst).Nodup) {v : Json} :
    ms.lookup name = some v ↔ (name, v) ∈ ms := by
  rw [List.lookup_eq_some_iff]
  constructor
  · rintro ⟨before, after, rfl, -⟩
    exact List.mem_append_right before List.mem_cons_self
  · intro hmem
    obtain ⟨before, after, rfl⟩ := List.append_of_mem hmem
    refine ⟨before, after, rfl, fun m hm => ?_⟩
    -- The name of an earlier member would be there twice.
    rw [List.map_append, List.nodup_append] at hnodup
    have hne : m.1 ≠ name :=
      hnodup.2.2 m.1 (List.mem_map_of_mem hm) name (List.mem_map_of_mem List.mem_cons_self)
    simpa using hne.symm

theorem slotIn_of_mem (hnodup : (ms.map Prod.fst).Nodup) {m : String × Json} (hm : m ∈ ms) :
    slotIn ms m.1 = .given m.2 := by
  rw [slotIn, (lookup_eq_some_iff hnodup).2 hm]
  rfl

theorem valuesOf_eq_nil (h : name ∉ ms.map Prod.fst) : valuesOf name (keyed ms) = [] := by
  refine List.filterMap_eq_nil_iff.2 fun m hm => ?_
  obtain ⟨m', hm', rfl⟩ := List.mem_map.1 hm
  have hname : m'.1 ≠ name := fun heq => h (heq ▸ List.mem_map_of_mem hm')
  simp [hname]

theorem valuesOf_keyed (hnodup : (ms.map Prod.fst).Nodup) (name : String) :
    valuesOf name (keyed ms) = (ms.lookup name).toList := by
  induction ms with
  | nil =>
      rfl
  | cons m ms ih =>
      obtain ⟨key, v⟩ := m
      obtain ⟨hfresh, hnodup⟩ := List.nodup_cons.1 hnodup
      by_cases hname : key = name
      · subst hname
        have hrest := valuesOf_eq_nil hfresh
        simpa [valuesOf] using hrest
      · have hother : (name == key) = false := beq_eq_false_iff_ne.2 (Ne.symm hname)
        have hrest := ih hnodup
        simpa [valuesOf, hname, List.lookup_cons, hother] using hrest

/-- Where no two members have one name, an object gives a field the member with its name. -/
theorem slotOf?_keyed (hnodup : (ms.map Prod.fst).Nodup) (name : String) :
    slotOf? (keyed ms) name = some (name, slotIn ms name) := by
  rw [slotOf?, valuesOf_keyed hnodup, slotIn]
  cases ms.lookup name <;> rfl

/-- An object in which no name is given twice gives each field its member, if it has one. -/
theorem ofJson?_object (hnodup : (ms.map Prod.fst).Nodup) (names : List String) :
    ofJson? names (object ms) = some (names.map fun name => (name, slotIn ms name)) := by
  have hkeys : (keyed ms).all (fun m => m.1.isSome) = true := by
    simp
  have hslots : names.mapM (slotOf? (keyed ms)) =
      some (names.map fun name => (name, slotIn ms name)) := by
    induction names with
    | nil =>
        rfl
    | cons name names ih =>
        simp [List.mapM_cons, slotOf?_keyed hnodup, ih]
  exact (if_pos hkeys).trans hslots

theorem slot_map {names : List String} (hname : name ∈ names) (slots : String → Slot) :
    Record.slot (names.map fun name => (name, slots name)) name = slots name := by
  induction names with
  | nil =>
      cases hname
  | cons first names ih =>
      rw [List.map_cons, Record.slot, List.lookup_cons]
      by_cases hfirst : name = first
      · subst hfirst
        simp
      · have hother : (name == first) = false := beq_eq_false_iff_ne.2 hfirst
        rw [hother]
        exact ih ((List.mem_cons.1 hname).resolve_left hfirst)

end Record

/-! ## Fields of an object -/

/-- The member is there, and not null. -/
def Given (members : List (String × Json)) (name : String) (v : Json) : Prop :=
  (name, v) ∈ members ∧ v ≠ .null

namespace Record

variable {α : Type} {members : List (String × Json)} {name : String} {read : Json → Option α}

/-- A member that may be null either is not given, or has one value that has to be read. -/
theorem optional_cases (hnodup : (members.map Prod.fst).Nodup) (name : String)
    (read : Json → Option α) :
    ((∀ v, ¬ Given members name v) ∧ (slotIn members name).optional read = some none) ∨
      ∃ v, (∀ w, Given members name w ↔ w = v) ∧
        (slotIn members name).optional read = (read v).map some := by
  have hlookup {v : Json} : members.lookup name = some v ↔ (name, v) ∈ members :=
    lookup_eq_some_iff hnodup
  unfold slotIn
  cases hmember : members.lookup name with
  | none =>
      refine .inl ⟨fun v hv => ?_, rfl⟩
      rw [hlookup.2 hv.1] at hmember
      cases hmember
  | some v =>
      have hunique (w : Json) : (name, w) ∈ members ↔ w = v := by
        rw [← hlookup, hmember, Option.some_inj, eq_comm]
      -- The only member of that name counts where it is not null.
      by_cases hnull : v = .null
      · subst hnull
        exact .inl ⟨fun w hw => hw.2 ((hunique w).1 hw.1), rfl⟩
      · refine .inr ⟨v, fun w => ⟨fun hw => (hunique w).1 hw.1, fun hw => ?_⟩, ?_⟩
        · subst hw
          exact ⟨(hunique w).2 rfl, hnull⟩
        · cases v <;> first | rfl | exact absurd rfl hnull

variable (hnodup : (members.map Prod.fst).Nodup)
include hnodup

/-- A required field has a value just where a member of its name reads as the value. -/
theorem required_eq_some_iff {a : α} :
    (slotIn members name).required read = some a ↔ ∃ v, (name, v) ∈ members ∧ read v = some a := by
  simp only [← lookup_eq_some_iff hnodup, slotIn]
  cases members.lookup name <;> simp [Slot.required]

/-- An optional field has none just where no member of its name says more than null. -/
theorem optional_eq_none_iff :
    (slotIn members name).optional read = some none ↔ ∀ v, ¬ Given members name v := by
  rcases optional_cases hnodup name read with ⟨hnone, hslot⟩ | ⟨v, hv, hslot⟩
  · exact iff_of_true hslot hnone
  · refine iff_of_false (fun h => ?_) fun h => h v ((hv v).2 rfl)
    rw [hslot] at h
    cases hread : read v <;> simp [hread] at h

/-- An optional field has a value just where a member of its name reads as the value. -/
theorem optional_eq_some_iff {a : α} :
    (slotIn members name).optional read = some (some a) ↔
      ∃ v, Given members name v ∧ read v = some a := by
  rcases optional_cases hnodup name read with ⟨hnone, hslot⟩ | ⟨v, hv, hslot⟩
  · simp [hslot, hnone]
  · simp [hslot, hv]

/-- An optional field can be read just where each member of its name that is not null can. -/
theorem optional_isSome_iff :
    (∃ a?, (slotIn members name).optional read = some a?) ↔
      ∀ v, Given members name v → (read v).isSome := by
  rcases optional_cases hnodup name read with ⟨hnone, hslot⟩ | ⟨v, hv, hslot⟩
  · exact iff_of_true ⟨none, hslot⟩ fun v hv => absurd hv (hnone v)
  · simp [hslot, hv, Option.isSome_iff_exists]

end Record

/-! ## Records that were written -/

/-- A record is read back where each of its fields is, out of the value that was written for it. -/
theorem Restores.record {α : Type} {names : List String} {members : α → List (String × Json)}
    {read : Record → Option α} (hnodup : names.Nodup)
    (hnames : ∀ a, (members a).map Prod.fst = names)
    (hwritten : ∀ a, ∀ m ∈ members a, Written m.2)
    (hread : ∀ a (r : Record), (∀ m ∈ members a, r.slot m.1 = .given m.2) → read r = some a) :
    Restores (fun a => object (members a)) fun j => Record.ofJson? names j >>= read where
  written a := .object (hwritten a)
  read a := by
    have hmembers : ((members a).map Prod.fst).Nodup := by
      rwa [hnames a]
    rw [Record.ofJson?_object hmembers]
    refine hread a _ fun m hm => ?_
    have hname : m.1 ∈ names := hnames a ▸ List.mem_map_of_mem hm
    rw [Record.slot_map hname, Record.slotIn_of_mem hmembers hm]

end Json
end ArbBundle

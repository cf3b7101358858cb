import ArbBundle.Json.Printer
import ArbBundle.Bytes.Numeral

/-!
# Record — JSON values as records, amounts and byte strings

A record is an object with its fields in any order, or an array with its fields in their order.
Unknown members of an object are passed over; a field given twice is refused, and so is an array
that is too long.

- `Record.ofJson?`: what a value gives for each field of a record
- `Slot.required`, `Slot.optional`, `Slot.withDefault`: reading one field
- readers and writers of the plain values: words, amounts, byte strings, lists, options
-/

namespace ArbBundle
namespace Json

/-! ## Fields -/

/-- What a value gives for a field: a value of its own, no member, or an array that ends before. -/
inductive Slot
  | given (v : Json)
  | omitted
  | cut

abbrev Record := List (String × Slot)

namespace Slot

def required {α : Type} (read : Json → Option α) : Slot → Option α
  | .given v => read v
  | .omitted => none
  | .cut => none

/-- A field that may be null or left out of an object, but not cut off an array. -/
def optional {α : Type} (read : Json → Option α) : Slot → Option (Option α)
  | .given .null => some none
  | .given v => (read v).map some
  | .omitted => some none
  | .cut => none

/-- A field with a value to go by where it is not there. -/
def withDefault {α : Type} (default : α) (read : Json → Option α) : Slot → Option α
  | .given v => read v
  | .omitted => some default
  | .cut => some default

end Slot

namespace Record

def valuesOf (name : String) (members : List (Option String × Json)) : List Json :=
  members.filterMap fun (k, v) => if k = some name then some v else none

/-- What an object gives for a field; `none` where the field is given twice. -/
def slotOf? (members : List (Option String × Json)) (name : String) : Option (String × Slot) :=
  match valuesOf name members with
  | [] => some (name, .omitted)
  | [v] => some (name, .given v)
  | _ => none

/-- What an array gives for the fields in order; `none` where it is too long. -/
def slots? : List String → List Json → Option Record
  | [], [] => some []
  | [], _ :: _ => none
  | name :: names, [] => (slots? names []).map ((name, .cut) :: ·)
  | name :: names, v :: vs => (slots? names vs).map ((name, .given v) :: ·)

def ofJson? (names : List String) : Json → Option Record
  | .obj members =>
    if members.all fun (k, _) => k.isSome then names.mapM (slotOf? members) else none
  | .arr elements => slots? names elements
  | _ => none

def slot (r : Record) (name : String) : Slot :=
  (r.lookup name).getD .omitted

end Record

/-! ## Plain values -/

def bool? : Json → Option Bool
  | .bool b => some b
  | _ => none

def uint64? (j : Json) : Option UInt64 :=
  j.natural?.bind Word.uint64?

def uint32? (j : Json) : Option UInt32 :=
  j.natural?.bind Word.uint32?

def feeRate? (j : Json) : Option FeeRate :=
  j.natural?.bind (Word.ofNat? 128)

/-- An amount: a numeral in a string, or a whole number of 64 bits. -/
def wei? : Json → Option Wei
  | .str t => t.bind fun s => Numeral.wei? s.toList
  | j => j.uint64?.map fun n => BitVec.ofNat 256 n.toNat

def int64? (j : Json) : Option Int :=
  j.integer?.bind Word.int64?

/-- One byte, written as a whole number. -/
def byte? (j : Json) : Option UInt8 :=
  j.natural?.bind fun n => if n < 256 then some (UInt8.ofNat n) else none

/-- Whether nothing is left that a byte string of a known length takes notice of: one more plain
value goes unnoticed unless it is one more byte. -/
def isSpent : List Json → Bool
  | [] => true
  | [.str t] => t.isSome
  | [.arr _] => false
  | [.obj _] => false
  | [j] => j.byte?.isNone
  | _ => false

/-- A byte string of a known length, in hexadecimal or as an array of bytes. -/
def fixed? {n : Nat} : Json → Option (FixedBytes n)
  | .str t => t.bind Hex.fixed?
  | .arr es =>
    if isSpent (es.drop n) then ((es.take n).mapM byte?).bind FixedBytes.ofList? else none
  | _ => none

def bytes? : Json → Option Bytes
  | .str t => t.bind Hex.bytes?
  | .arr es => es.mapM byte?
  | _ => none

def list? {α : Type} (read : Json → Option α) : Json → Option (List α)
  | .arr es => es.mapM read
  | _ => none

def nullable? {α : Type} (read : Json → Option α) : Json → Option (Option α)
  | .null => some none
  | j => (read j).map some

def ofWei (w : Wei) : Json :=
  text (Hex.quantity w.toNat)

def ofBytes (b : Bytes) : Json :=
  text (Hex.marked b)

def ofOption {α : Type} (write : α → Json) : Option α → Json
  | some a => write a
  | none => .null

end Json
end ArbBundle

import ArbBundle.Bytes.Word
import ArbBundle.Bytes.Fixed

/-!
# Item — the recursive length encoding

An item is a byte string or a list of items.  A single byte below `0x80` stands for itself; every
other string and every list follows a head that tells its kind and its length, the length in as few
bytes as possible.
-/

namespace ArbBundle
namespace Rlp

inductive Item
  | str (b : Bytes)
  | list (items : List Item)
  deriving Inhabited

/-- The head of a payload of `length` bytes; `base` is `0x80` for strings and `0xc0` for lists. -/
def head (base length : Nat) : Bytes :=
  if length < 56 then [UInt8.ofNat (base + length)]
  else
    let digits := Bytes.minimalBigEndian length
    UInt8.ofNat (base + 55 + digits.length) :: digits

def encodeString (b : Bytes) : Bytes :=
  match b with
  | [x] => if x < 0x80 then [x] else head 0x80 1 ++ [x]
  | b => head 0x80 b.length ++ b

def encodeList (payload : Bytes) : Bytes :=
  head 0xc0 payload.length ++ payload

namespace Item

mutual

def encode : Item → Bytes
  | .str b => encodeString b
  | .list items => encodeList (encodeAll items)

def encodeAll : List Item → Bytes
  | [] => []
  | item :: rest => encode item ++ encodeAll rest

end

/-- A number in as few bytes as hold it. -/
def ofNat (n : Nat) : Item :=
  .str (Bytes.minimalBigEndian n)

def ofFixed {n : Nat} (b : FixedBytes n) : Item :=
  .str b.toList

/-- A truth value, as the number zero or one. -/
def ofBool (b : Bool) : Item :=
  ofNat b.toNat

end Item
end Rlp
end ArbBundle

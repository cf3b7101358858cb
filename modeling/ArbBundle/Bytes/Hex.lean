import ArbBundle.Bytes.Fixed

/-!
# Hex — byte strings as hexadecimal text

- `Hex.encode`: two lower-case digits a byte
- `Hex.decode?`: digits of either case, an even number of them
- `Hex.decode?_encode`: what was written is read back
-/

namespace ArbBundle
namespace Hex

def digit (n : Nat) : Char :=
  if n < 10 then Char.ofNat (n + 48) else Char.ofNat (n + 87)

def value? (c : Char) : Option Nat :=
  if '0' ≤ c && c ≤ '9' then some (c.toNat - 48)
  else if 'a' ≤ c && c ≤ 'f' then some (c.toNat - 87)
  else if 'A' ≤ c && c ≤ 'F' then some (c.toNat - 55)
  else none

def encode : Bytes → List Char
  | [] => []
  | b :: rest => digit (b.toNat / 16) :: digit (b.toNat % 16) :: encode rest

def decode? : List Char → Option Bytes
  | [] => some []
  | [_] => none
  | hi :: lo :: rest => do
    let h ← value? hi
    let l ← value? lo
    let bytes ← decode? rest
    return UInt8.ofNat (h * 16 + l) :: bytes

/-- A text without a leading `0x` or `0X`. -/
def dropMark : List Char → List Char
  | '0' :: 'x' :: rest => rest
  | '0' :: 'X' :: rest => rest
  | s => s

def marked (b : Bytes) : String :=
  String.ofList ('0' :: 'x' :: encode b)

/-- Bytes from digits, with or without the mark `0x` or `0X`. -/
def bytes? (s : String) : Option Bytes :=
  decode? (dropMark s.toList)

def fixed? {n : Nat} (s : String) : Option (FixedBytes n) :=
  (decode? (dropMark s.toList)).bind FixedBytes.ofList?

/-- The minimal hexadecimal digits of a number; zero is one digit. -/
def ofNat (n : Nat) : List Char :=
  Nat.toDigits 16 n

/-- A number as minimal hexadecimal, marked with `0x`. -/
def quantity (n : Nat) : String :=
  String.ofList ('0' :: 'x' :: ofNat n)

theorem value?_digit {n : Nat} (h : n < 16) : value? (digit n) = some n := by
  have : ∀ m : Fin 16, value? (digit m) = some m.val := by decide
  exact this ⟨n, h⟩

/-- Bytes are read back from their digits. -/
theorem decode?_encode (b : Bytes) : decode? (encode b) = some b := by
  induction b with
  | nil => rfl
  | cons b rest ih =>
    have hlt : b.toNat < 256 := b.toNat_lt
    rw [encode, decode?, value?_digit (by omega), value?_digit (by omega), ih]
    have hb : b.toNat / 16 * 16 + b.toNat % 16 = b.toNat := by omega
    have hr : UInt8.ofNat (b.toNat / 16 * 16 + b.toNat % 16) = b := by
      rw [hb]; exact UInt8.ofNat_toNat
    exact congrArg (fun x => some (x :: rest)) hr

end Hex
end ArbBundle

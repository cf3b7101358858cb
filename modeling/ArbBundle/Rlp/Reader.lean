import ArbBundle.Bytes.Word
import ArbBundle.Bytes.Fixed

/-!
# Reader — reading the recursive length encoding

A reader takes a value off the front of a byte string or says what is wrong with it.

- `Reader.header`, `Reader.payload`: the head of an item, and the bytes behind it
- `Reader.uint`, `Reader.word`, `Reader.fixed`, `Reader.flag`: the plain values
- `Reader.listOf`: a list of items of one kind
- `Reader.closed`: a list of fields that cannot read past the list
- `Reader.spanning`: a list of fields that are read off the whole input, and only then measured
  against the length that the list announced

Only the shortest encoding of each value is accepted.
-/

namespace ArbBundle
namespace Rlp

inductive Error
  | tooShort
  | singleByte
  | size
  | leadingZero
  | overflow
  | unexpectedList
  | unexpectedString
  | unexpectedLength
  | listLength (got expected : Nat)
  | flag
  | parity
  | wrapper
  deriving DecidableEq

def Error.message : Error → String
  | .tooShort => "input too short"
  | .singleByte => "non-canonical single byte"
  | .size => "non-canonical size"
  | .leadingZero => "leading zero"
  | .overflow => "overflow"
  | .unexpectedList => "unexpected list"
  | .unexpectedString => "unexpected string"
  | .unexpectedLength => "unexpected length"
  | .listLength got expected => s!"unexpected list length (got {got}, expected {expected})"
  | .flag => "invalid bool value, must be 0 or 1"
  | .parity => "invalid parity value"
  | .wrapper => "invalid wrapper version"

/-- Takes a value off the front of a byte string. -/
abbrev Reader (α : Type) := StateT Bytes (Except Error) α

namespace Reader

structure Header where
  isList : Bool
  length : Nat
  deriving DecidableEq

/-- The length that the bytes behind a long head write. -/
def longLength (digits : Bytes) : Except Error Nat :=
  match digits with
  | 0 :: _ => .error .leadingZero
  | digits =>
    let n := Bytes.ofBigEndian digits
    if n < 56 then .error .size else .ok n

/-- A head whose payload is all there. -/
def checked (isList : Bool) (length : Nat) (rest : Bytes) : Except Error (Header × Bytes) :=
  if rest.length < length then .error .tooShort else .ok (⟨isList, length⟩, rest)

def longHeader (isList : Bool) (count : Nat) (rest : Bytes) : Except Error (Header × Bytes) :=
  if rest.length < count then .error .tooShort
  else do
    let n ← longLength (rest.take count)
    checked isList n (rest.drop count)

/-- Reads the head of an item. A byte that stands for itself is its own payload. -/
def header : Reader Header := fun input =>
  match input with
  | [] => .error .tooShort
  | b :: rest =>
    let n := b.toNat
    if n < 0x80 then .ok (⟨false, 1⟩, b :: rest)
    else if n = 0x81 then
      match rest with
      | [] => .error .tooShort
      | x :: _ => if x < 0x80 then .error .singleByte else .ok (⟨false, 1⟩, rest)
    else if n < 0xb8 then checked false (n - 0x80) rest
    else if n < 0xc0 then longHeader false (n - 0xb7) rest
    else if n < 0xf8 then checked true (n - 0xc0) rest
    else longHeader true (n - 0xf7) rest

def take (n : Nat) : Reader Bytes := fun input =>
  .ok (input.take n, input.drop n)

def string : Reader Bytes := do
  let h ← header
  if h.isList then throw .unexpectedList
  take h.length

def list : Reader Bytes := do
  let h ← header
  if !h.isList then throw .unexpectedString
  take h.length

def uint (width : Nat) : Reader Nat := do
  let b ← string
  if width < b.length then throw .overflow
  if b.head? = some 0 then throw .leadingZero
  return Bytes.ofBigEndian b

def uint64 : Reader UInt64 := do
  return UInt64.ofNat (← uint 8)

def feeRate : Reader FeeRate := do
  return BitVec.ofNat 128 (← uint 16)

/-- Reads a number of 256 bits; here a leading zero is found before the number is too long. -/
def word : Reader Wei := do
  let b ← string
  if b.head? = some 0 then throw .leadingZero
  if 32 < b.length then throw .overflow
  return BitVec.ofNat 256 (Bytes.ofBigEndian b)

def fixed (n : Nat) : Reader (FixedBytes n) := do
  match FixedBytes.ofList? (← string) with
  | some b => return b
  | none => throw .unexpectedLength

def flag : Reader Bool := do
  match ← uint 1 with
  | 0 => return false
  | 1 => return true
  | _ => throw .flag

/-- Reads items until the input is used up. -/
def all {α : Type} (item : Reader α) (input : Bytes) : Except Error (List α) :=
  match input with
  | [] => .ok []
  | b :: bs =>
    match item (b :: bs) with
    | .error e => .error e
    | .ok (a, rest) =>
      if _h : rest.length < (b :: bs).length then
        match all item rest with
        | .error e => .error e
        | .ok as => .ok (a :: as)
      else .error .tooShort
termination_by input.length
decreasing_by exact _h

def listOf {α : Type} (item : Reader α) : Reader (List α) := do
  let payload ← list
  liftM (all item payload)

/-- Reads a list of fields that cannot read past the list. -/
def closed {α : Type} (fields : Reader α) : Reader α := do
  let payload ← list
  let (a, rest) ← liftM (fields payload)
  if rest ≠ [] then throw (.listLength (payload.length - rest.length) payload.length)
  return a

/-- Reads a list of fields off the whole input; the bytes they took have to be as many as the list
announced. -/
def spanning {α : Type} (fields : Reader α) : Reader α := do
  let h ← header
  if !h.isList then throw .unexpectedString
  let before ← get
  let a ← fields
  let after ← get
  let got := before.length - after.length
  if got ≠ h.length then throw (.listLength got h.length)
  return a

end Reader
end Rlp
end ArbBundle

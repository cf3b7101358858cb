import ArbBundle.Bytes.Hex

/-!
# Keccak — the 256-bit Keccak hash

The sponge of rate 136 over the permutation of 25 lanes of 64 bits, with the padding that sets the
first free bit and the last bit of the block.

- `Keccak.State`: the lanes, in five rows of five
- `Keccak.permute`: the 24 rounds on a state
- `Keccak.hash`: the digest of a byte string
-/

namespace ArbBundle
namespace Keccak

/-! ## The permutation -/

structure Row where
  a : UInt64
  b : UInt64
  c : UInt64
  d : UInt64
  e : UInt64

structure State where
  p : Row
  q : Row
  r : Row
  s : Row
  t : Row

def Row.xor (x y : Row) : Row :=
  ⟨x.a ^^^ y.a, x.b ^^^ y.b, x.c ^^^ y.c, x.d ^^^ y.d, x.e ^^^ y.e⟩

def State.xor (x y : State) : State :=
  ⟨x.p.xor y.p, x.q.xor y.q, x.r.xor y.r, x.s.xor y.s, x.t.xor y.t⟩

/-- A lane turned towards its high bits, by less than its width and more than nothing. -/
def rotate (a k : UInt64) : UInt64 :=
  a <<< k ||| a >>> (64 - k)

def roundConstants : List UInt64 :=
  [0x0000000000000001, 0x0000000000008082, 0x800000000000808a, 0x8000000080008000,
   0x000000000000808b, 0x0000000080000001, 0x8000000080008081, 0x8000000000008009,
   0x000000000000008a, 0x0000000000000088, 0x0000000080008009, 0x000000008000000a,
   0x000000008000808b, 0x800000000000008b, 0x8000000000008089, 0x8000000000008003,
   0x8000000000008002, 0x8000000000000080, 0x000000000000800a, 0x800000008000000a,
   0x8000000080008081, 0x8000000000008080, 0x0000000080000001, 0x8000000080008008]

/-- Each lane with the parities of two columns near it. -/
def theta (x : State) : State :=
  let column := x.p.xor (x.q.xor (x.r.xor (x.s.xor x.t)))
  let change : Row :=
    ⟨column.e ^^^ rotate column.b 1, column.a ^^^ rotate column.c 1,
      column.b ^^^ rotate column.d 1, column.c ^^^ rotate column.e 1,
      column.d ^^^ rotate column.a 1⟩
  x.xor ⟨change, change, change, change, change⟩

/-- Each lane turned by its offset and moved to its new place. -/
def rhoPi (x : State) : State :=
  ⟨⟨x.p.a, rotate x.q.b 44, rotate x.r.c 43, rotate x.s.d 21, rotate x.t.e 14⟩,
    ⟨rotate x.p.d 28, rotate x.q.e 20, rotate x.r.a 3, rotate x.s.b 45, rotate x.t.c 61⟩,
    ⟨rotate x.p.b 1, rotate x.q.c 6, rotate x.r.d 25, rotate x.s.e 8, rotate x.t.a 18⟩,
    ⟨rotate x.p.e 27, rotate x.q.a 36, rotate x.r.b 10, rotate x.s.c 15, rotate x.t.d 56⟩,
    ⟨rotate x.p.c 62, rotate x.q.d 55, rotate x.r.e 39, rotate x.s.a 41, rotate x.t.b 2⟩⟩

def Row.chi (x : Row) : Row :=
  ⟨x.a ^^^ (~~~x.b &&& x.c), x.b ^^^ (~~~x.c &&& x.d), x.c ^^^ (~~~x.d &&& x.e),
    x.d ^^^ (~~~x.e &&& x.a), x.e ^^^ (~~~x.a &&& x.b)⟩

def chi (x : State) : State :=
  ⟨x.p.chi, x.q.chi, x.r.chi, x.s.chi, x.t.chi⟩

def round (x : State) (constant : UInt64) : State :=
  (chi (rhoPi (theta x))).xor
    ⟨⟨constant, 0, 0, 0, 0⟩, ⟨0, 0, 0, 0, 0⟩, ⟨0, 0, 0, 0, 0⟩, ⟨0, 0, 0, 0, 0⟩, ⟨0, 0, 0, 0, 0⟩⟩

def permute (x : State) : State :=
  roundConstants.foldl round x

/-! ## The sponge -/

/-- Bytes absorbed between two permutations. -/
def rate : Nat := 136

def pad (message : Bytes) : Bytes :=
  match rate - message.length % rate with
  | 1 => message ++ [0x81]
  | n => message ++ 0x01 :: List.replicate (n - 2) 0 ++ [0x80]

/-- The lane that eight bytes write, least significant first. -/
def laneOfBytes (b : Bytes) : UInt64 :=
  b.foldr (fun d n => n <<< 8 ||| d.toUInt64) 0

def bytesOfLane (a : UInt64) : Bytes :=
  (List.range 8).map fun i => (a >>> UInt64.ofNat (8 * i)).toUInt8

def lanes : (count : Nat) → Bytes → List UInt64
  | 0, _ => []
  | count + 1, b => laneOfBytes (b.take 8) :: lanes count (b.drop 8)

/-- The row of the next five lanes of a block; behind its end there are zeros. -/
def rowOfLanes (block : List UInt64) : Row :=
  ⟨block.getD 0 0, block.getD 1 0, block.getD 2 0, block.getD 3 0, block.getD 4 0⟩

/-- The state that the lanes of a block fill row by row. -/
def stateOfLanes (block : List UInt64) : State :=
  ⟨rowOfLanes block, rowOfLanes (block.drop 5), rowOfLanes (block.drop 10),
    rowOfLanes (block.drop 15), rowOfLanes (block.drop 20)⟩

/-- A state that has taken in the next `count` blocks. -/
def absorb : (count : Nat) → Bytes → State → State
  | 0, _, x => x
  | count + 1, b, x => absorb count (b.drop rate) (permute (x.xor (stateOfLanes (lanes 17 b))))

/-- The first four lanes of a state as bytes. -/
def squeeze (x : State) : Bytes :=
  bytesOfLane x.p.a ++ bytesOfLane x.p.b ++ bytesOfLane x.p.c ++ bytesOfLane x.p.d

theorem length_squeeze (x : State) : (squeeze x).length = 32 := by
  simp [squeeze, bytesOfLane]

def hash (message : Bytes) : Digest :=
  let padded := pad message
  let last := absorb (padded.length / rate) padded (stateOfLanes [])
  ⟨squeeze last, length_squeeze last⟩

-- The published digest of the empty message; with another padding it would be that of SHA3-256.
example : Hex.encode (hash []).toList =
    "c5d2460186f7233c927e7db2dcc703c0e500b653ca82273b7bfad8045d85a470".toList := by
  decide +kernel

end Keccak
end ArbBundle

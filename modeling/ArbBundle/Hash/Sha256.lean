import ArbBundle.Bytes.Fixed

/-!
# Sha256 — the 256-bit hash of the second SHA family, and its keyed form

- `Sha256.hash`: the digest of a byte string
- `Sha256.hmac`: the digest of a message under a key of at most one block
-/

namespace ArbBundle
namespace Sha256

/-! ## Compression -/

structure State where
  a : UInt32
  b : UInt32
  c : UInt32
  d : UInt32
  e : UInt32
  f : UInt32
  g : UInt32
  h : UInt32

def initial : State :=
  ⟨0x6a09e667, 0xbb67ae85, 0x3c6ef372, 0xa54ff53a, 0x510e527f, 0x9b05688c, 0x1f83d9ab, 0x5be0cd19⟩

def roundConstants : List UInt32 :=
  [0x428a2f98, 0x71374491, 0xb5c0fbcf, 0xe9b5dba5, 0x3956c25b, 0x59f111f1, 0x923f82a4, 0xab1c5ed5,
   0xd807aa98, 0x12835b01, 0x243185be, 0x550c7dc3, 0x72be5d74, 0x80deb1fe, 0x9bdc06a7, 0xc19bf174,
   0xe49b69c1, 0xefbe4786, 0x0fc19dc6, 0x240ca1cc, 0x2de92c6f, 0x4a7484aa, 0x5cb0a9dc, 0x76f988da,
   0x983e5152, 0xa831c66d, 0xb00327c8, 0xbf597fc7, 0xc6e00bf3, 0xd5a79147, 0x06ca6351, 0x14292967,
   0x27b70a85, 0x2e1b2138, 0x4d2c6dfc, 0x53380d13, 0x650a7354, 0x766a0abb, 0x81c2c92e, 0x92722c85,
   0xa2bfe8a1, 0xa81a664b, 0xc24b8b70, 0xc76c51a3, 0xd192e819, 0xd6990624, 0xf40e3585, 0x106aa070,
   0x19a4c116, 0x1e376c08, 0x2748774c, 0x34b0bcb5, 0x391c0cb3, 0x4ed8aa4a, 0x5b9cca4f, 0x682e6ff3,
   0x748f82ee, 0x78a5636f, 0x84c87814, 0x8cc70208, 0x90befffa, 0xa4506ceb, 0xbef9a3f7, 0xc67178f2]

/-- A word turned towards its low bits. -/
def rotate (a k : UInt32) : UInt32 :=
  a >>> k ||| a <<< (32 - k)

/-- The message words that follow sixteen of them, `count` in number. -/
def extend : (count : Nat) → List UInt32 → List UInt32
  | count + 1, w₀ :: w₁ :: rest =>
    let w₁₄ := rest.getD 12 0
    let s₀ := rotate w₁ 7 ^^^ rotate w₁ 18 ^^^ w₁ >>> 3
    let s₁ := rotate w₁₄ 17 ^^^ rotate w₁₄ 19 ^^^ w₁₄ >>> 10
    let next := w₀ + s₀ + rest.getD 7 0 + s₁
    next :: extend count (w₁ :: rest ++ [next])
  | _, _ => []

def round (s : State) (step : UInt32 × UInt32) : State :=
  let s₁ := rotate s.e 6 ^^^ rotate s.e 11 ^^^ rotate s.e 25
  let choice := (s.e &&& s.f) ^^^ (~~~s.e &&& s.g)
  let t₁ := s.h + s₁ + choice + step.1 + step.2
  let s₀ := rotate s.a 2 ^^^ rotate s.a 13 ^^^ rotate s.a 22
  let majority := (s.a &&& s.b) ^^^ (s.a &&& s.c) ^^^ (s.b &&& s.c)
  ⟨t₁ + (s₀ + majority), s.a, s.b, s.c, s.d + t₁, s.e, s.f, s.g⟩

/-- The word that four bytes write, most significant first. -/
def wordOfBytes (b : Bytes) : UInt32 :=
  UInt32.ofNat (Bytes.ofBigEndian b)

def words : (count : Nat) → Bytes → List UInt32
  | 0, _ => []
  | count + 1, b => wordOfBytes (b.take 4) :: words count (b.drop 4)

def State.plus (s t : State) : State :=
  ⟨s.a + t.a, s.b + t.b, s.c + t.c, s.d + t.d, s.e + t.e, s.f + t.f, s.g + t.g, s.h + t.h⟩

def compress (s : State) (block : Bytes) : State :=
  let w := words 16 block
  s.plus ((roundConstants.zip (w ++ extend 48 w)).foldl round s)

/-! ## The hash -/

/-- A message filled up to whole blocks: a set bit, zeros, and the length in bits. -/
def pad (message : Bytes) : Bytes :=
  let zeros := (119 - message.length % 64) % 64
  message ++ 0x80 :: List.replicate zeros 0 ++ Bytes.bigEndian 8 (8 * message.length)

def absorb : (count : Nat) → Bytes → State → State
  | 0, _, s => s
  | count + 1, b, s => absorb count (b.drop 64) (compress s (b.take 64))

def hash (message : Bytes) : Bytes :=
  let padded := pad message
  let last := absorb (padded.length / 64) padded initial
  [last.a, last.b, last.c, last.d, last.e, last.f, last.g, last.h].flatMap fun w =>
    Bytes.bigEndian 4 w.toNat

/-- The digest of a message under a key of at most 64 bytes. -/
def hmac (key message : Bytes) : Bytes :=
  let block := key ++ List.replicate (64 - key.length) 0
  let inner := hash (block.map (· ^^^ 0x36) ++ message)
  hash (block.map (· ^^^ 0x5c) ++ inner)

end Sha256
end ArbBundle

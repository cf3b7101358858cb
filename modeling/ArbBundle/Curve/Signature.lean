import ArbBundle.Address
import ArbBundle.Curve.Point
import ArbBundle.Hash.Sha256

/-!
# Signature — signing keys and recoverable signatures

- `SigningKey`: a number from one to the order of the curve, with its address
- `SigningKey.nonces`: the numbers that a key and a digest determine, one per attempt
- `SigningKey.sign?`: the signature under the first number that gives one, with the smaller of the
  two possible `s` and the matching parity
-/

namespace ArbBundle
namespace Curve

structure SigningKey where
  secret : Nat
  pos : 0 < secret
  lt_order : secret < order

/-- A signature from which the key's point can be recovered. -/
structure Signature where
  r : Nat
  s : Nat
  yOdd : Bool

namespace Signature

/-- The signature as 65 bytes: `r`, `s`, and 27 plus the parity. -/
def toBytes (g : Signature) : Bytes :=
  Bytes.bigEndian 32 g.r ++ Bytes.bigEndian 32 g.s ++ [if g.yOdd then 28 else 27]

end Signature

namespace SigningKey

/-- The key that 32 bytes write, unless they write zero or the order or more. -/
def ofBytes? (b : FixedBytes 32) : Option SigningKey :=
  let secret := Bytes.ofBigEndian b.toList
  if h : 0 < secret ∧ secret < order then some ⟨secret, h.1, h.2⟩ else none

/-- The key that 64 hexadecimal digits write, with or without a mark. -/
def ofText? (s : String) : Option SigningKey :=
  (Hex.fixed? s).bind ofBytes?

/-- The address of a key: the last twenty bytes of the hash of its point. -/
def address (key : SigningKey) : Address :=
  let (x, y) := (Point.mul key.secret Point.generator).affine?.getD (0, 0)
  let hash := Keccak.hash (Bytes.bigEndian 32 x ++ Bytes.bigEndian 32 y)
  ⟨hash.toList.drop 12, by simp [hash.length_eq]⟩

/-! ## Nonces -/

/-- The two strings that the generator of nonces carries from one number to the next. -/
structure NonceState where
  key : Bytes
  value : Bytes

def NonceState.mix (st : NonceState) (extra : Bytes) : NonceState :=
  let key := Sha256.hmac st.key (st.value ++ extra)
  ⟨key, Sha256.hmac key st.value⟩

/-- The next `count` numbers of the generator. -/
def NonceState.numbers : (count : Nat) → NonceState → List Nat
  | 0, _ => []
  | count + 1, st =>
    let value := Sha256.hmac st.key st.value
    Bytes.ofBigEndian value :: numbers count (NonceState.mix ⟨st.key, value⟩ [0])

def nonces (key : SigningKey) (digest : Digest) (count : Nat) : List Nat :=
  let seed := Bytes.bigEndian 32 key.secret ++
    Bytes.bigEndian 32 (Bytes.ofBigEndian digest.toList % order)
  let start : NonceState := ⟨List.replicate 32 0, List.replicate 32 1⟩
  ((start.mix (0 :: seed)).mix (1 :: seed)).numbers count

/-! ## Signing -/

/-- The signature of a digest under one nonce; `none` where the nonce gives none. -/
def signWith? (key : SigningKey) (digest : Digest) (nonce : Nat) : Option Signature := do
  if nonce = 0 ∨ order ≤ nonce then none
  else
    let (x, y) ← (Point.mul nonce Point.generator).affine?
    let r := x % order
    let z := Bytes.ofBigEndian digest.toList % order
    let s := inverse order nonce * ((z + r * key.secret) % order) % order
    if r = 0 ∨ s = 0 then none
    else if order < 2 * s then some ⟨r, order - s, y % 2 == 0⟩
    else some ⟨r, s, y % 2 == 1⟩

def attempts : Nat := 128

/-- The signature of a digest, under the first nonce that gives one. -/
def sign? (key : SigningKey) (digest : Digest) : Option Signature :=
  (key.nonces digest attempts).findSome? (key.signWith? digest)

/-- The digest of a text under the prefix that marks personal messages. -/
def messageDigest (message : List Char) : Digest :=
  let body := Text.utf8 message
  let head := "\x19Ethereum Signed Message:\n".toList ++ Nat.toDigits 10 body.length
  Keccak.hash (Text.utf8 head ++ body)

def signMessage? (key : SigningKey) (message : List Char) : Option Signature :=
  key.sign? (messageDigest message)

end SigningKey
end Curve
end ArbBundle

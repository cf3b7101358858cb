/-!
# Point — the curve `y² = x³ + 7`

Points of the curve over the field of `2 ^ 256 - 2 ^ 32 - 977` elements, in the coordinates
`(X / Z², Y / Z³)` that put off division to the end.

- `Point.double`, `Point.add`: the group law
- `Point.mul`: multiples of a point, bit by bit
- `Point.affine?`: the plain coordinates, absent for the neutral point
-/

namespace ArbBundle
namespace Curve

def fieldSize : Nat :=
  0xfffffffffffffffffffffffffffffffffffffffffffffffffffffffefffffc2f

def order : Nat :=
  0xfffffffffffffffffffffffffffffffebaaedce6af48a03bbfd25e8cd0364141

def powMod (m base exponent : Nat) : Nat :=
  if _h : exponent = 0 then 1 % m
  else
    let half := powMod m (base * base % m) (exponent / 2)
    if exponent % 2 = 1 then base * half % m else half
termination_by exponent
decreasing_by omega

/-- The inverse modulo a prime `m`. -/
def inverse (m a : Nat) : Nat :=
  powMod m a (m - 2)

def plus (a b : Nat) : Nat := (a + b) % fieldSize

def minus (a b : Nat) : Nat := (a + fieldSize - b % fieldSize) % fieldSize

def times (a b : Nat) : Nat := a * b % fieldSize

/-- A point `(x / z², y / z³)`; the neutral point has `z = 0`. -/
structure Point where
  x : Nat
  y : Nat
  z : Nat

namespace Point

def neutral : Point := ⟨1, 1, 0⟩

def generator : Point :=
  ⟨0x79be667ef9dcbbac55a06295ce870b07029bfcdb2dce28d959f2815b16f81798,
   0x483ada7726a3c4655da4fbfc0e1108a8fd17b448a68554199c47d08ffb10d4b8, 1⟩

def double (p : Point) : Point :=
  if p.z = 0 then neutral
  else
    let yy := times p.y p.y
    let s := times 4 (times p.x yy)
    let m := times 3 (times p.x p.x)
    let x := minus (times m m) (times 2 s)
    let y := minus (times m (minus s x)) (times 8 (times yy yy))
    ⟨x, y, times 2 (times p.y p.z)⟩

def add (p q : Point) : Point :=
  if p.z = 0 then q
  else if q.z = 0 then p
  else
    let zzp := times p.z p.z
    let zzq := times q.z q.z
    let u₁ := times p.x zzq
    let u₂ := times q.x zzp
    let s₁ := times p.y (times zzq q.z)
    let s₂ := times q.y (times zzp p.z)
    if u₁ = u₂ then
      if s₁ = s₂ then double p else neutral
    else
      let h := minus u₂ u₁
      let r := minus s₂ s₁
      let hh := times h h
      let hhh := times hh h
      let v := times u₁ hh
      let x := minus (minus (times r r) hhh) (times 2 v)
      let y := minus (times r (minus v x)) (times s₁ hhh)
      ⟨x, y, times h (times p.z q.z)⟩

def mul (k : Nat) (p : Point) : Point :=
  if _h : k = 0 then neutral
  else
    let half := mul (k / 2) (double p)
    if k % 2 = 1 then add p half else half
termination_by k
decreasing_by omega

def affine? (p : Point) : Option (Nat × Nat) :=
  if p.z = 0 then none
  else
    let i := inverse fieldSize p.z
    let ii := times i i
    some (times p.x ii, times p.y (times ii i))

end Point
end Curve
end ArbBundle

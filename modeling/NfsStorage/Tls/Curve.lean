import NfsStorage.Text.Base64

/-!
Elliptic curves `y² = x³ - 3x + b` over a prime field, with a base point of prime order. Points are
kept in homogeneous coordinates, for which one formula adds any two of them.
-/

namespace NfsStorage.Tls

/-- A curve, with the object identifier that names it. Coordinates and multipliers are written in
`size` bytes. -/
structure Curve where
  name : Bytes
  size : Nat
  prime : Nat
  b : Nat
  order : Nat
  base : Nat × Nat

/-- A point `(x / z, y / z)`, or the point at infinity where `z` is zero. -/
structure Point where
  x : Int
  y : Int
  z : Int
deriving DecidableEq, Repr

namespace Curve

def infinity : Point := ⟨0, 1, 0⟩

def basePoint (c : Curve) : Point := ⟨c.base.1, c.base.2, 1⟩

/-- The sum of two points. The formula has no exceptions on curves of odd order. -/
def add (c : Curve) (p q : Point) : Point :=
  let reduce (n : Int) : Int := n % (c.prime : Int)
  let xx := reduce (p.x * q.x)
  let yy := reduce (p.y * q.y)
  let zz := reduce (p.z * q.z)
  let xy := reduce (p.x * q.y + q.x * p.y)
  let yz := reduce (p.y * q.z + q.y * p.z)
  let xz := reduce (p.x * q.z + q.x * p.z)
  let u := reduce (3 * c.b * zz - 3 * xz)
  let v := reduce (3 * c.b * xz - 3 * xx - 9 * zz)
  let w := reduce (3 * xx - 3 * zz)
  { x := reduce (xy * (yy - u) - yz * v)
    y := reduce (w * v + (yy + u) * (yy - u))
    z := reduce (yz * (yy + u) + xy * w) }

/-- So many times a point, by doubling. -/
def multiply (c : Curve) (n : Nat) (p : Point) : Point :=
  if n = 0 then infinity
  else
    let half := c.multiply (n / 2) p
    let double := c.add half half
    if n % 2 = 1 then c.add double p else double
termination_by n
decreasing_by omega

def isAt (c : Curve) (p : Point) (x y : Nat) : Bool :=
  x < c.prime && y < c.prime && p.z % (c.prime : Int) ≠ 0 &&
    (x * p.z - p.x) % (c.prime : Int) = 0 && (y * p.z - p.y) % (c.prime : Int) = 0

/-- A number in words of 64 bits, most significant first. -/
def ofWords (words : List Nat) : Nat := words.foldl (fun n word => n <<< 64 + word) 0

def p256 : Curve where
  name := [0x2A, 0x86, 0x48, 0xCE, 0x3D, 0x03, 0x01, 0x07]
  size := 32
  prime := ofWords [0xffffffff00000001, 0, 0x00000000ffffffff, 0xffffffffffffffff]
  b := ofWords
    [0x5ac635d8aa3a93e7, 0xb3ebbd55769886bc, 0x651d06b0cc53b0f6, 0x3bce3c3e27d2604b]
  order := ofWords
    [0xffffffff00000000, 0xffffffffffffffff, 0xbce6faada7179e84, 0xf3b9cac2fc632551]
  base :=
    (ofWords [0x6b17d1f2e12c4247, 0xf8bce6e563a440f2, 0x77037d812deb33a0, 0xf4a13945d898c296],
      ofWords [0x4fe342e2fe1a7f9b, 0x8ee7eb4a7c0f9e16, 0x2bce33576b315ece, 0xcbb6406837bf51f5])

def p384 : Curve where
  name := [0x2B, 0x81, 0x04, 0x00, 0x22]
  size := 48
  prime := ofWords
    [0xffffffffffffffff, 0xffffffffffffffff, 0xffffffffffffffff, 0xfffffffffffffffe,
      0xffffffff00000000, 0x00000000ffffffff]
  b := ofWords
    [0xb3312fa7e23ee7e4, 0x988e056be3f82d19, 0x181d9c6efe814112, 0x0314088f5013875a,
      0xc656398d8a2ed19d, 0x2a85c8edd3ec2aef]
  order := ofWords
    [0xffffffffffffffff, 0xffffffffffffffff, 0xffffffffffffffff, 0xc7634d81f4372ddf,
      0x581a0db248b0a77a, 0xecec196accc52973]
  base :=
    (ofWords
      [0xaa87ca22be8b0537, 0x8eb1c71ef320ad74, 0x6e1d3b628ba79b98, 0x59f741e082542a38,
        0x5502f25dbf55296c, 0x3a545e3872760ab7],
      ofWords
      [0x3617de4a96262c6f, 0x5d9e98bf9292dc29, 0xf8f41dbd289a147c, 0xe9da3113b5f0b8c0,
        0x0a60b1ce1d7e819d, 0x7a431d7c90ea0e5f])

end Curve

end NfsStorage.Tls

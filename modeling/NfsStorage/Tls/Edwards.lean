import NfsStorage.Tls.Curve
import NfsStorage.Tls.Digest

/-!
The curve `y² - x² = 1 + d x² y²` over the integers modulo `2²⁵⁵ - 19`, whose points are public keys
(Ed25519).
-/

namespace NfsStorage.Tls

namespace Edwards

def prime : Nat := 1 <<< 255 - 19

def reduce (n : Int) : Int := n % (prime : Int)

def power (n : Int) (exponent : Nat) : Int :=
  if exponent = 0 then 1
  else
    let half := power n (exponent / 2)
    let square := reduce (half * half)
    if exponent % 2 = 1 then reduce (square * n) else square
termination_by exponent
decreasing_by omega

def inverse (n : Int) : Int := power n (prime - 2)

def d : Int := reduce (-121665 * inverse 121666)

def neutral : Point := ⟨0, 1, 1⟩

def basePoint : Point where
  x := Curve.ofWords
    [0x216936D3CD6E53FE, 0xC0A4E231FDD6DC5C, 0x692CC7609525A7B2, 0xC9562D608F25D51A]
  y := reduce (4 * inverse 5)
  z := 1

/-- The sum of two points. The formula has no exceptions. -/
def add (p q : Point) : Point :=
  let zz := reduce (p.z * q.z)
  let xx := reduce (p.x * q.x)
  let yy := reduce (p.y * q.y)
  let cross := reduce (p.x * q.y + p.y * q.x)
  let product := reduce (d * reduce (xx * yy))
  let square := reduce (zz * zz)
  let minus := reduce (square - product)
  let plus := reduce (square + product)
  { x := reduce (zz * reduce (minus * cross))
    y := reduce (zz * reduce (plus * (yy + xx)))
    z := reduce (minus * plus) }

/-- So many times a point, by doubling. -/
def multiply (n : Nat) (p : Point) : Point :=
  if n = 0 then neutral
  else
    let half := multiply (n / 2) p
    let double := add half half
    if n % 2 = 1 then add double p else double
termination_by n
decreasing_by omega

/-- A number in 32 bytes, least significant first. -/
def littleBytes (n : Nat) : Bytes :=
  (List.range 32).map fun i => UInt8.ofNat (n >>> (8 * i))

def natOfLittle (bytes : Bytes) : Nat := bytes.foldr (fun b n => n * 256 + b.toNat) 0

/-- A point is written as its `y`, and its top bit tells whether `x` is odd. -/
def encode (p : Point) : Bytes :=
  let inverse := inverse p.z
  let x := (reduce (p.x * inverse)).toNat
  let y := (reduce (p.y * inverse)).toNat
  littleBytes (y + (x % 2) <<< 255)

/-- The multiplier that a secret stands for: half its digest, with the three lowest bits and the
highest bit cleared and the second highest bit set. -/
def multiplier (secret : Bytes) : Nat :=
  let n := natOfLittle ((Digest.ofText secret).take 32)
  1 <<< 254 + n % 1 <<< 254 / 8 * 8

def publicKey (secret : Bytes) : Bytes := encode (multiply (multiplier secret) basePoint)

end Edwards

end NfsStorage.Tls

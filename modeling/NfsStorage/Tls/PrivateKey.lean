import NfsStorage.Tls.Armor
import NfsStorage.Tls.Edwards
import NfsStorage.Tls.PublicKey

/-!
Private keys. A key is taken only if its parts fit each other, and then it has a public key. It is
written by itself or in a wrapping that names its algorithm.
-/

namespace NfsStorage.Tls

namespace PrivateKey

open ByteReader Element

def bitLength (n : Nat) : Nat := if n = 0 then 0 else n.log2 + 1

/-- The parts of a private key of RSA: the two primes, the exponents for each of them, and the
inverse of the second prime modulo the first. -/
structure RsaParts where
  modulus : Nat
  exponent : Nat
  secret : Nat
  p : Nat
  q : Nat
  secretP : Nat
  secretQ : Nat
  inverse : Nat

namespace RsaParts

def hasPublicBounds (k : RsaParts) : Bool :=
  2040 < bitLength k.modulus && bitLength k.modulus ≤ 4096 && k.modulus % 2 = 1 &&
    65537 ≤ k.exponent && bitLength k.exponent ≤ 33 && k.exponent % 2 = 1

/-- The primes are of one size and have the modulus as their product. -/
def hasFactors (k : RsaParts) : Bool :=
  bitLength k.p = (bitLength k.modulus + 1) / 2 && bitLength k.q = bitLength k.p &&
    k.p % 2 = 1 && k.q % 2 = 1 && k.p * k.q = k.modulus

/-- The exponents are odd and in range, and the inverse is one. Where the second prime is the
greater one, the inverse is not looked at. -/
def hasExponents (k : RsaParts) : Bool :=
  (bitLength k.modulus + 1) / 2 < bitLength k.secret && k.secret < k.modulus &&
    k.secret % 2 = 1 && k.secretP % 2 = 1 && k.secretP < k.p && k.secretQ % 2 = 1 &&
    k.secretQ < k.q &&
    (k.p < k.q || (k.inverse < k.p && k.inverse * k.q % k.p = 1))

end RsaParts

def readRsa : ByteReader PublicKey := within sequence do
  if (← readNat) ≠ 0 then failure
  let k : RsaParts := {
    modulus := ← readNat
    exponent := ← readNat
    secret := ← readNat
    p := ← readNat
    q := ← readNat
    secretP := ← readNat
    secretQ := ← readNat
    inverse := ← readNat }
  if k.hasPublicBounds && k.hasFactors && k.hasExponents then
    return .rsa k.modulus k.exponent
  else failure

def isMultiple (c : Curve) (secret coordinates : Bytes) : Bool :=
  let n := natOfBytes secret
  secret.length = c.size && 0 < n && n < c.order && coordinates.length = 2 * c.size &&
    c.isAt (c.multiply n c.basePoint) (natOfBytes (coordinates.take c.size))
      (natOfBytes (coordinates.drop c.size))

/-- A key for a curve, which holds its public key, too. -/
def readCurve (c : Curve) : ByteReader PublicKey := within sequence do
  if (← readNat) ≠ 1 then failure
  let secret ← contentOf octets
  let curve? ← optional (numbered 0) (contentOf (numbered 0))
  if curve?.any (· ≠ write name c.name) then failure
  match ← within (numbered 1) readBits with
  | 0x04 :: coordinates =>
    if isMultiple c secret coordinates then return .curve c coordinates else failure
  | _ => failure

def readEdwards : ByteReader PublicKey := do
  let secret ← contentOf octets
  if secret.length = 32 then return .edwards (Edwards.publicKey secret) else failure

/-- A key in a wrapping that names an algorithm. Attributes may follow it. -/
def readWrapped (algorithm : Bytes) (reader : ByteReader PublicKey) : ByteReader PublicKey :=
  within sequence do
    if (← readNat) ≠ 0 then failure
    if (← contentOf sequence) ≠ algorithm then failure
    let key ← within octets reader
    let _ ← optional (numbered 0) read
    return key

def curves : List Curve := [.p256, .p384]

def readers : KeyForm → List (ByteReader PublicKey)
  | .wrapped =>
    [readWrapped PublicKey.rsaAlgorithm readRsa,
      readWrapped PublicKey.edwardsAlgorithm readEdwards] ++
      curves.map fun c => readWrapped (PublicKey.curveAlgorithm c) (readCurve c)
  | .rsa => [readRsa]
  | .curve => curves.map readCurve

def publicKeyIn? (form : KeyForm) (bytes : Bytes) : Option PublicKey :=
  (readers form).findSome? (·.readAll bytes)

def publicKey? (bytes : Bytes) : Option PublicKey :=
  [KeyForm.rsa, .wrapped, .curve].findSome? fun form => publicKeyIn? form bytes

end PrivateKey

end NfsStorage.Tls

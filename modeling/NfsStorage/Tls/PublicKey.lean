import NfsStorage.Tls.Curve
import NfsStorage.Tls.Element

/-!
Public keys, and how certificates hold them.
-/

namespace NfsStorage.Tls

inductive PublicKey where
  | rsa (modulus exponent : Nat)
  /-- A point of a curve, its coordinates one after the other. -/
  | curve (c : Curve) (coordinates : Bytes)
  /-- A point of the Edwards curve. -/
  | edwards (point : Bytes)

namespace PublicKey

open Element

def rsaAlgorithm : Bytes :=
  write name [0x2A, 0x86, 0x48, 0x86, 0xF7, 0x0D, 0x01, 0x01, 0x01] ++ write 0x05 []

def curveAlgorithm (c : Curve) : Bytes :=
  write name [0x2A, 0x86, 0x48, 0xCE, 0x3D, 0x02, 0x01] ++ write name c.name

def edwardsAlgorithm : Bytes := write name [0x2B, 0x65, 0x70]

/-- A point is written in full after a mark that says so. -/
def pointBytes (coordinates : Bytes) : Bytes := 0x04 :: coordinates

def bytes : PublicKey → Bytes
  | rsa modulus exponent =>
    write sequence rsaAlgorithm ++
      write bits (0 :: write sequence (writeNat modulus ++ writeNat exponent))
  | curve c coordinates =>
    write sequence (curveAlgorithm c) ++ write bits (0 :: pointBytes coordinates)
  | edwards point => write sequence edwardsAlgorithm ++ write bits (0 :: point)

end PublicKey

end NfsStorage.Tls

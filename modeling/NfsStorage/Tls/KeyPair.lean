import NfsStorage.Tls.Armor
import NfsStorage.Tls.Certificate
import NfsStorage.Tls.PrivateKey

/-!
Certificates with their keys, as servers and clients are given them. A key belongs to the first
certificate, and the others are not looked at.
-/

namespace NfsStorage.Tls

/-- The first certificate is the one for a key. -/
def isFor (publicKey : PublicKey) (certificates : List Bytes) : Bool :=
  certificates.head?.any fun bytes => Certificate.publicKey? bytes = some publicKey.bytes

/-- Whether a text with certificates and one with the only key belong together. Only the first has
to be in order as a whole, and no label has to tell the form of the key. -/
def areKeyPair (certificateText keyText : Bytes) : Bool :=
  let found := Armored.ofText certificateText
  match (Armored.ofText keyText).filterMap Armored.privateKey? with
  | [(_, key)] =>
    !found.contains .malformed && (PrivateKey.publicKey? key).any fun publicKey =>
      isFor publicKey (found.filterMap Armored.certificate?)
  | _ => false

/-- The key that counts of several: the last one in a wrapping, or else the last one of the first
form that there is. -/
def chosenKey? (keys : List (KeyForm × Bytes)) : Option (KeyForm × Bytes) :=
  [KeyForm.wrapped, .rsa, .curve].findSome? fun form =>
    (keys.filter fun key => key.1 = form).getLast?

/-- Whether a text holds nothing but certificates and keys that belong together. -/
def isIdentity (text : Bytes) : Bool :=
  let found := Armored.ofText text
  match chosenKey? (found.filterMap Armored.privateKey?) with
  | some (form, key) =>
    found.all Armored.isUseful && (PrivateKey.publicKeyIn? form key).any fun publicKey =>
      isFor publicKey (found.filterMap Armored.certificate?)
  | none => false

end NfsStorage.Tls

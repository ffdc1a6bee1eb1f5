import NfsStorage.Tls.Element

/-!
Certificates of the third version. Of what a certificate says only the public key is used, but all
of it has to be in order.
-/

namespace NfsStorage.Tls

namespace Certificate

open ByteReader Element

structure Extension where
  name : Bytes
  isCritical : Bool
  value : Bytes

def readFlag : ByteReader Bool := within boolean do
  match ← byte with
  | 0 => return false
  | 0xFF => return true
  | _ => failure

def readExtension : ByteReader Extension := within sequence do
  return {
    name := ← contentOf Element.name
    isCritical := (← optional boolean readFlag).getD false
    value := ← contentOf octets }

/-- The standard extensions that are understood, by the last byte of their names: use of the key,
other names of the owner, basic constraints, constraints on names, lists of revoked certificates,
and extended use of the key. -/
def understood : List UInt8 := [15, 17, 19, 30, 31, 37]

def Extension.number? (e : Extension) : Option UInt8 :=
  match e.name with
  | [0x55, 0x1D, number] => if understood.contains number then some number else none
  | _ => none

/-- An extension that is not understood may not be critical. The value of all the others but the use
of the key is a sequence. -/
def Extension.isAcceptable (e : Extension) : Bool :=
  match e.number? with
  | none => !e.isCritical
  | some 15 => true
  | some _ => ((contentOf sequence).readAll e.value).isSome

def readMany {α : Type} (reader : ByteReader α) : (fuel : Nat) → ByteReader (List α)
  | 0 => failure
  | fuel + 1 => do
    if ← isDone then return []
    else return (← reader) :: (← readMany reader fuel)

/-- The extensions, none of those that are understood more than once. -/
def readExtensions : ByteReader Unit := within (numbered 3) do
  let extensions ← within sequence do
    readMany readExtension ((← get).length + 1)
  let numbers := extensions.filterMap Extension.number?
  if extensions.all Extension.isAcceptable && numbers.eraseDups.length = numbers.length then
    return ()
  else failure

/-- What is signed. The answer is the algorithm of the signature and the public key. -/
def readSigned : ByteReader (Bytes × Bytes) := within sequence do
  let version ← within (numbered 0) readNat
  if version ≠ 2 then failure
  let _serial ← contentOf integer
  let algorithm ← contentOf sequence
  let _issuer ← contentOf sequence
  let _validity ← contentOf sequence
  let _owner ← contentOf sequence
  let publicKey ← contentOf sequence
  let isEnd ← isDone
  if !isEnd then readExtensions
  return (algorithm, publicKey)

def readCertificate : ByteReader Bytes := within sequence do
  let (algorithm, publicKey) ← readSigned
  if (← contentOf sequence) ≠ algorithm then failure
  let _signature ← readBits
  return publicKey

end Certificate

def Certificate.publicKey? (bytes : Bytes) : Option Bytes :=
  Certificate.readCertificate.readAll bytes

end NfsStorage.Tls

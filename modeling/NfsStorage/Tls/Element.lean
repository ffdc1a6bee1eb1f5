import NfsStorage.Text.Base64

/-!
Bytes made of elements, each with a tag and with a length in its shortest form (the distinguished
encoding rules). Lengths are written in two bytes at most.
-/

namespace NfsStorage.Tls

abbrev ByteReader := StateT Bytes Option

namespace ByteReader

variable {α : Type}

/-- Read bytes of which nothing may be left. -/
def readAll (reader : ByteReader α) (bytes : Bytes) : Option α :=
  match reader.run bytes with
  | some (value, []) => some value
  | _ => none

def byte : ByteReader Nat := fun
  | [] => none
  | b :: rest => some (b.toNat, rest)

def bytes (count : Nat) : ByteReader Bytes := fun given =>
  if count ≤ given.length then some (given.take count, given.drop count) else none

def remaining : ByteReader Bytes := fun given => some (given, [])

def isDone : ByteReader Bool := fun given => some (given.isEmpty, given)

def isNext (tag : UInt8) : ByteReader Bool := fun given => some (given.head? = some tag, given)

end ByteReader

/-- An element of a tag below 31. -/
structure Element where
  tag : UInt8
  content : Bytes
deriving DecidableEq, Repr

namespace Element

def boolean : UInt8 := 0x01
def integer : UInt8 := 0x02
def bits : UInt8 := 0x03
def octets : UInt8 := 0x04
def name : UInt8 := 0x06
def sequence : UInt8 := 0x30

def numbered (number : UInt8) : UInt8 := 0xA0 + number

open ByteReader

def readLength : ByteReader Nat := do
  let first ← byte
  if first < 0x80 then return first
  else if first = 0x81 then
    let length ← byte
    if length < 0x80 then failure else return length
  else if first = 0x82 then
    let high ← byte
    let low ← byte
    if high = 0 then failure else return high * 256 + low
  else failure

def read : ByteReader Element := do
  let tag ← byte
  if tag % 32 = 31 then failure
  let content ← bytes (← readLength)
  return ⟨UInt8.ofNat tag, content⟩

def contentOf (tag : UInt8) : ByteReader Bytes := do
  let element ← read
  if element.tag = tag then return element.content else failure

/-- The content of an element, read as a whole. -/
def within {α : Type} (tag : UInt8) (reader : ByteReader α) : ByteReader α := do
  match reader.readAll (← contentOf tag) with
  | some value => return value
  | none => failure

def optional {α : Type} (tag : UInt8) (reader : ByteReader α) : ByteReader (Option α) := do
  if ← isNext tag then return some (← reader) else return none

/-- A number, most significant byte first. -/
def natOfBytes (bytes : Bytes) : Nat := bytes.foldl (fun n b => n * 256 + b.toNat) 0

/-- A number that is not negative, in as few bytes as will do. -/
def readNat : ByteReader Nat := do
  match ← contentOf integer with
  | [] => failure
  | first :: rest =>
    let isShortest := first ≠ 0 || rest.head?.all (0x80 ≤ ·)
    if first < 0x80 && isShortest then return natOfBytes (first :: rest) else failure

/-- A string of bits that fills its bytes. -/
def readBits : ByteReader Bytes := within bits do
  if (← byte) = 0 then remaining else failure

def bytesOfNat (n : Nat) : Bytes :=
  if n < 256 then [UInt8.ofNat n] else bytesOfNat (n / 256) ++ [UInt8.ofNat (n % 256)]

def write (tag : UInt8) (content : Bytes) : Bytes :=
  let size := content.length
  if size < 0x80 then tag :: UInt8.ofNat size :: content
  else
    let length := bytesOfNat size
    tag :: UInt8.ofNat (0x80 + length.length) :: (length ++ content)

def writeNat (n : Nat) : Bytes :=
  let bytes := bytesOfNat n
  write integer (if bytes.head?.any (0x80 ≤ ·) then 0 :: bytes else bytes)

end Element

end NfsStorage.Tls

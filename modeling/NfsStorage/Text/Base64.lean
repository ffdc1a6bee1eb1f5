/-!
Base64 with padding: groups of three bytes are written as four characters. A strict reader accepts
only what a writer writes, so no blanks, no missing padding and no stray trailing bits; another one
drops such bits.
-/

namespace NfsStorage

/-- Bytes of a stored secret. -/
abbrev Bytes := List UInt8

def Bytes.ofText (text : String) : Bytes := text.toUTF8.data.toList

/-- The text that bytes are in UTF-8. -/
def Bytes.text? (bytes : Bytes) : Option String := String.fromUTF8? (ByteArray.mk bytes.toArray)

namespace Base64

def symbol (n : Nat) : Char :=
  if n < 26 then Char.ofNat (65 + n)
  else if n < 52 then Char.ofNat (97 + (n - 26))
  else if n < 62 then Char.ofNat (48 + (n - 52))
  else if n = 62 then '+'
  else '/'

def value? (c : Char) : Option Nat :=
  if 'A' ≤ c ∧ c ≤ 'Z' then some (c.toNat - 65)
  else if 'a' ≤ c ∧ c ≤ 'z' then some (c.toNat - 97 + 26)
  else if '0' ≤ c ∧ c ≤ '9' then some (c.toNat - 48 + 52)
  else if c = '+' then some 62
  else if c = '/' then some 63
  else none

def encode : Bytes → List Char
  | [] => []
  | [a] =>
    let n := a.toNat * 16
    [symbol (n / 64), symbol (n % 64), '=', '=']
  | [a, b] =>
    let n := (a.toNat * 256 + b.toNat) * 4
    [symbol (n / 4096), symbol (n / 64 % 64), symbol (n % 64), '=']
  | a :: b :: c :: rest =>
    let n := (a.toNat * 256 + b.toNat) * 256 + c.toNat
    symbol (n / 262144) :: symbol (n / 4096 % 64) :: symbol (n / 64 % 64) :: symbol (n % 64) ::
      encode rest

/-- The bytes of a last group that may be padded. -/
def decodeLast (isStrict : Bool) (a b c d : Char) : Option Bytes := do
  let x ← value? a
  let y ← value? b
  if d = '=' then
    if c = '=' then
      if isStrict && y % 16 ≠ 0 then none else some [UInt8.ofNat (x * 4 + y / 16)]
    else
      let z ← value? c
      let n := (x * 64 + y) * 16 + z / 4
      if isStrict && z % 4 ≠ 0 then none else some [UInt8.ofNat (n / 256), UInt8.ofNat (n % 256)]
  else
    let z ← value? c
    let w ← value? d
    let n := ((x * 64 + y) * 64 + z) * 64 + w
    some [UInt8.ofNat (n / 65536), UInt8.ofNat (n / 256 % 256), UInt8.ofNat (n % 256)]

def decodeGroups (isStrict : Bool) : List Char → Option Bytes
  | [] => some []
  | [a, b, c, d] => decodeLast isStrict a b c d
  | a :: b :: c :: d :: rest => do
    if d = '=' then none
    else
      let group ← decodeLast isStrict a b c d
      let others ← decodeGroups isStrict rest
      some (group ++ others)
  | _ => none

def decode : List Char → Option Bytes := decodeGroups true

end Base64

end NfsStorage

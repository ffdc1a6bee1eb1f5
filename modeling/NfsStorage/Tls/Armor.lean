import NfsStorage.Text.Base64
import NfsStorage.Text.Blank

/-!
Armored data: bytes in base64 between a line that begins a section and a line that ends it, both
with a label that says what the bytes are. Lines outside sections count for nothing.
-/

namespace NfsStorage.Tls

/-- The forms of private keys: in a wrapping that names the algorithm, or by themselves. -/
inductive KeyForm where
  | wrapped
  | rsa
  | curve
deriving DecidableEq, Repr

inductive Label where
  | certificate
  | privateKey (form : KeyForm)
  /-- Something that is known, but of no use to a server. -/
  | known
deriving DecidableEq, Repr

def Label.ofText? (text : List Char) : Option Label :=
  match String.ofList text with
  | "CERTIFICATE" => some .certificate
  | "PRIVATE KEY" => some (.privateKey .wrapped)
  | "RSA PRIVATE KEY" => some (.privateKey .rsa)
  | "EC PRIVATE KEY" => some (.privateKey .curve)
  | "PUBLIC KEY" | "X509 CRL" | "CERTIFICATE REQUEST" | "ECHCONFIG" => some .known
  | _ => none

inductive Armored where
  | section (label : Label) (bytes : Bytes)
  | malformed
deriving DecidableEq, Repr

namespace Armored

/-- Lines end in a line feed, a carriage return or both. All that counts in them is in ASCII, so each
byte is taken for a character. -/
def lines (bytes : Bytes) : List (List Char) :=
  Text.splitAt '\n' (bytes.map fun b => if b = 0x0D then '\n' else Char.ofNat b.toNat)

/-- The label on a line that begins a section, after its first words. The line ends in five dashes,
between and after which spaces do not count. -/
def label? (line : List Char) : Option (List Char) :=
  let ending := (line.reverse.takeWhile fun c => c = '-' || c = ' ').reverse.dropWhile (· = ' ')
  if ending.count '-' = 5 then some (line.take (line.length - ending.length)) else none

def isEnd (label line : List Char) : Bool :=
  (Text.after? ("-----END ".toList ++ label ++ "-----".toList) line).isSome

def bytes? (characters : List Char) : Option Bytes :=
  Base64.decodeGroups false (characters.filter fun c =>
    !(c = ' ' || (0x09 ≤ c.toNat && c.toNat ≤ 0x0D)))

/-- What the rest of a text holds. Inside a section its label is `label?`, and `body` is what has
been read of it, last first. A section that begins inside another takes over its lines; one whose
label is not known is not read. -/
def ofLines (label? : Option (List Char)) (body : List Char) : List (List Char) → List Armored
  | [] => if label?.isSome then [.malformed] else []
  | line :: rest =>
    match Text.after? "-----BEGIN ".toList line with
    | some words =>
      match Armored.label? words with
      | some label => ofLines (some label) body rest
      | none => .malformed :: ofLines none [] rest
    | none =>
      match label? with
      | none => ofLines none [] rest
      | some label =>
        if isEnd label line then
          match Label.ofText? label, bytes? body.reverse with
          | none, _ => ofLines none [] rest
          | some label, some bytes => .section label bytes :: ofLines none [] rest
          | some _, none => .malformed :: ofLines none [] rest
        else ofLines (some label) (line.reverse ++ body) rest

def ofText (text : Bytes) : List Armored := ofLines none [] (lines text)

def certificate? : Armored → Option Bytes
  | .section .certificate bytes => some bytes
  | _ => none

def privateKey? : Armored → Option (KeyForm × Bytes)
  | .section (.privateKey form) bytes => some (form, bytes)
  | _ => none

def isUseful (a : Armored) : Bool := a.certificate?.isSome || a.privateKey?.isSome

end Armored

end NfsStorage.Tls

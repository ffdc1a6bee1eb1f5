import NfsStorage.Text.Blank
import NfsStorage.Text.Digits
import NfsStorage.Text.Quoted

/-!
Addresses to listen at: an IPv4 or IPv6 address with a port. They are read strictly, without names,
blanks or signs. An IPv6 address is written in its one short form: lower case, no leading zeros, and
`::` for the first of the longest runs of zero groups.
-/

namespace NfsStorage.Net

abbrev Read (α : Type) := List Char → Option (α × List Char)

def readChar (c : Char) : Read Unit
  | [] => none
  | d :: rest => if d = c then some ((), rest) else none

def digitValue? (radix : Nat) (c : Char) : Option Nat :=
  let n :=
    if c.isDigit then c.toNat - '0'.toNat
    else if 'a' ≤ c ∧ c ≤ 'f' then c.toNat - 'a'.toNat + 10
    else if 'A' ≤ c ∧ c ≤ 'F' then c.toNat - 'A'.toNat + 10
    else radix
  if n < radix then some n else none

def readDigits (radix : Nat) : List Char → List Nat × List Char
  | [] => ([], [])
  | c :: rest =>
    match digitValue? radix c with
    | none => ([], c :: rest)
    | some n =>
      let (digits, rest) := readDigits radix rest
      (n :: digits, rest)

/-- A number below a bound, of at least one digit. -/
def readNumber (radix bound : Nat) (allowed : List Nat → Bool) : Read Nat := fun text =>
  let (digits, rest) := readDigits radix text
  let n := digits.foldl (fun n digit => n * radix + digit) 0
  if !digits.isEmpty && allowed digits && n < bound then some (n, rest) else none

/-- A number of an IPv4 address; zeros before other digits are not allowed. -/
def readOctet : Read Nat :=
  readNumber 10 256 fun digits => digits.length ≤ 3 && (digits.length = 1 || digits.head? ≠ some 0)

def readPort : Read Nat := fun text => do
  let (_, text) ← readChar ':' text
  readNumber 10 65536 (fun _ => true) text

abbrev Ipv4 := Nat × Nat × Nat × Nat

def readIpv4 : Read Ipv4 := fun text => do
  let (a, text) ← readOctet text
  let (_, text) ← readChar '.' text
  let (b, text) ← readOctet text
  let (_, text) ← readChar '.' text
  let (c, text) ← readOctet text
  let (_, text) ← readChar '.' text
  let (d, text) ← readOctet text
  return ((a, b, c, d), text)

def readSeparated {α : Type} (first : Bool) (read : Read α) : Read α := fun text =>
  if first then read text
  else do
    let (_, text) ← readChar ':' text
    read text

def readGroup : Read Nat := readNumber 16 65536 fun digits => digits.length ≤ 4

/-- Up to `limit` groups of an IPv6 address; the last two may be written as an IPv4 address, which
the answer tells. -/
def readGroups (first : Bool) : (limit : Nat) → List Char → List Nat × Bool × List Char
  | 0, text => ([], false, text)
  | limit + 1, text =>
    match if 0 < limit then readSeparated first readIpv4 text else none with
    | some ((a, b, c, d), rest) => ([a * 256 + b, c * 256 + d], true, rest)
    | none =>
      match readSeparated first readGroup text with
      | none => ([], false, text)
      | some (group, rest) =>
        let (groups, embedded, rest) := readGroups false limit rest
        (group :: groups, embedded, rest)

/-- The eight groups of an IPv6 address; two colons stand for one or more groups of zero. -/
def readIpv6 : Read (List Nat) := fun text =>
  let (front, embedded, rest) := readGroups true 8 text
  if front.length = 8 then some (front, rest)
  else if embedded then none
  else do
    let (_, rest) ← readChar ':' rest
    let (_, rest) ← readChar ':' rest
    let (back, _, rest) := readGroups true (7 - front.length) rest
    return (front ++ List.replicate (8 - front.length - back.length) 0 ++ back, rest)

inductive Address where
  | v4 (ip : Ipv4) (port : Nat)
  /-- A scope of zero is the same as none. -/
  | v6 (groups : List Nat) (scope port : Nat)
deriving DecidableEq, Repr

namespace Address

def readV4 : Read Address := fun text => do
  let (ip, text) ← readIpv4 text
  let (port, text) ← readPort text
  return (v4 ip port, text)

def readScope (text : List Char) : Option (Nat × List Char) :=
  match text with
  | '%' :: rest => readNumber 10 4294967296 (fun _ => true) rest
  | _ => some (0, text)

def readV6 : Read Address := fun text => do
  let (_, text) ← readChar '[' text
  let (groups, text) ← readIpv6 text
  let (scope, text) ← readScope text
  let (_, text) ← readChar ']' text
  let (port, text) ← readPort text
  return (v6 groups scope port, text)

def parse? (text : String) : Option Address :=
  match (readV4 text.toList).or (readV6 text.toList) with
  | some (address, []) => some address
  | _ => none

def dotted (a b c d : Nat) : String := ".".intercalate ([a, b, c, d].map toString)

def groupsText (groups : List Nat) : String :=
  ":".intercalate (groups.map fun group => String.ofList (Nat.toDigits 16 group))

/-- Where the longest run of zeros begins, and how long it is; of several the first. -/
def longestZeros (groups : List Nat) : Nat × Nat :=
  (List.range groups.length).foldl (fun best start =>
    let length := ((groups.drop start).takeWhile (· = 0)).length
    if best.2 < length then (start, length) else best) (0, 0)

def ipv6Text (groups : List Nat) : String :=
  match groups with
  | [0, 0, 0, 0, 0, 65535, high, low] =>
    "::ffff:" ++ dotted (high / 256) (high % 256) (low / 256) (low % 256)
  | _ =>
    let (start, length) := longestZeros groups
    if 1 < length then
      groupsText (groups.take start) ++ "::" ++ groupsText (groups.drop (start + length))
    else groupsText groups

def text : Address → String
  | v4 (a, b, c, d) port => dotted a b c d ++ ":" ++ toString port
  | v6 groups scope port =>
    "[" ++ ipv6Text groups ++ (if scope = 0 then "" else "%" ++ toString scope) ++ "]:" ++
      toString port

/-- A listen address may leave out the host, which means all interfaces. -/
def ofListen? (text : String) : Option Address :=
  match text.toList with
  | ':' :: _ => parse? ("0.0.0.0" ++ text)
  | _ => parse? text

def refusal (text : String) : String := "invalid listen address " ++ Text.quoted text

end Address

end NfsStorage.Net

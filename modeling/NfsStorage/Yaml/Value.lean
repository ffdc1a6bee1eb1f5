import NfsStorage.Json.Token
import NfsStorage.Yaml.Node

/-!
What the nodes of a document mean where it is not known beforehand. A plain scalar may mean null, a
truth value or a number, and a tag may say which of them it has to mean; all else is text.
-/

namespace NfsStorage.Yaml

inductive Value where
  | null
  | bool (value : Bool)
  /-- A number, as it is written. -/
  | number (text : String)
  | string (value : String)
  | list (items : List Value)
  | mapping (entries : List (Value × Value))
deriving Repr

namespace Value

def bool? (text : String) : Option Bool :=
  if ["true", "True", "TRUE"].contains text then some true
  else if ["false", "False", "FALSE"].contains text then some false
  else none

def isNatural (radix bound : Nat) (digits : List Char) : Bool :=
  let value? := digits.foldlM (fun (n : Nat) c => do
    let digit ← Json.hexDigit? c
    if digit < radix then some (n * radix + digit) else none) 0
  !digits.isEmpty && value?.any (· < bound)

/-- Digits with a superfluous zero before them are no number. -/
def isPadded (text : List Char) : Bool :=
  let digits := match text with
    | '-' :: rest | '+' :: rest => rest
    | _ => text
  1 < digits.length && digits.head? = some '0' && digits.all (·.isDigit)

def digits : List Char → Nat × List Char
  | '0' :: 'x' :: rest => (16, rest)
  | '0' :: 'o' :: rest => (8, rest)
  | '0' :: 'b' :: rest => (2, rest)
  | text => (10, text)

/-- An integer of at most 128 bits. -/
def isInteger (text : List Char) : Bool :=
  let (bound, rest) := match text with
    | '-' :: rest => (1 <<< 127 + 1, rest)
    | '+' :: rest => (1 <<< 128, rest)
    | _ => (1 <<< 128, text)
  let (radix, digits) := digits rest
  isNatural radix bound digits && !isPadded text

/-- A decimal number without a sign: digits, with a point among, before or after them, and an
exponent. -/
def isDecimal (text : List Char) : Bool :=
  let whole := text.takeWhile (·.isDigit)
  let rest := text.drop whole.length
  let (places, rest) := match rest with
    | '.' :: rest => (rest.takeWhile (·.isDigit), rest.dropWhile (·.isDigit))
    | _ => ([], rest)
  let mantissa : Int := Text.natOfDigits (whole ++ places)
  let isFinite (exponent : Int) : Bool :=
    (Json.Number.decimal mantissa (exponent - places.length)).isFinite
  !(whole ++ places).isEmpty && match rest with
    | [] => isFinite 0
    | 'e' :: power | 'E' :: power =>
      match Json.Number.exponent? power with
      | some (exponent, []) => isFinite exponent
      | _ => false
    | _ => false

/-- A number with a point or an exponent, an infinite one, or none at all. -/
def isReal (text : List Char) : Bool :=
  let rest := match text with
    | '-' :: rest | '+' :: rest => rest
    | _ => text
  [".nan", ".NaN", ".NAN"].contains (String.ofList text) ||
    [".inf", ".Inf", ".INF"].contains (String.ofList rest) || (isDecimal rest && !isPadded text)

def ofPlain (text : String) : Value :=
  if text = "" || Document.isNullText text then .null
  else match bool? text with
    | some value => .bool value
    | none =>
      if isInteger text.toList || isReal text.toList then .number text else .string text

def standardTag (kind : String) : Tag := ("tag:yaml.org,2002:" ++ kind).toList

def ofTagged (tag : Tag) (isPlain : Bool) (text : String) : Option Value :=
  if tag = standardTag "bool" then (bool? text).map .bool
  else if tag = standardTag "int" then if isInteger text.toList then some (.number text) else none
  else if tag = standardTag "float" then if isReal text.toList then some (.number text) else none
  else if tag = standardTag "null" then if Document.isNullText text then some .null else none
  else if tag.head? = some '!' && isPlain then some (ofPlain text)
  else some (.string text)

def ofScalar (text : String) (isPlain : Bool) : Option Tag → Option Value
  | none => some (if isPlain then ofPlain text else .string text)
  | some tag => ofTagged tag isPlain text

def hasUniqueKeys (entries : List (Value × Value)) : Bool :=
  let keys := entries.filterMap fun
    | (.string key, _) => some key
    | _ => none
  keys.eraseDups.length = keys.length

end Value

namespace Node

mutual

/-- How many events there are in reading a node: one for a scalar, and one each for the beginning
and the end of a collection. -/
def events : Node → Nat
  | scalar .. | reference _ => 1
  | list items => 2 + eventsOfItems items
  | mapping entries => 2 + eventsOfEntries entries
  | anchored _ node => node.events

def eventsOfItems : List Node → Nat
  | [] => 0
  | item :: rest => item.events + eventsOfItems rest

def eventsOfEntries : List (Node × Node) → Nat
  | [] => 0
  | (key, value) :: rest => key.events + value.events + eventsOfEntries rest

end

end Node

namespace Document

/-- What a node means, and how many more references may be followed after it. Collections are nested
at most `depth` levels deep, and their keys are told apart. -/
def valueOf? (d : Document) (depth : Nat) (jumps : Nat) (node : Node) : Option (Value × Nat) := do
  let jumps ← match node with
    | .reference _ => if jumps = 0 then none else some (jumps - 1)
    | _ => some jumps
  match depth, d.meant node with
  | _, .scalar text isPlain tag => (Value.ofScalar text isPlain tag).map fun value => (value, jumps)
  | depth + 1, .list items =>
    let (values, jumps) ← items.foldlM (fun (values, jumps) item => do
      let (value, jumps) ← d.valueOf? depth jumps item
      return (value :: values, jumps)) (([] : List Value), jumps)
    return (.list values.reverse, jumps)
  | depth + 1, .mapping entries =>
    let (values, jumps) ← entries.foldlM (fun (values, jumps) entry => do
      let (key, jumps) ← d.valueOf? depth jumps entry.1
      let (value, jumps) ← d.valueOf? depth jumps entry.2
      return ((key, value) :: values, jumps)) (([] : List (Value × Value)), jumps)
    if Value.hasUniqueKeys values then return (.mapping values.reverse, jumps) else none
  | _, _ => none

def maxDepth : Nat := 128

/-- What a document means, unless it is nested too deep or refers too often to its parts. -/
def value? (d : Document) : Option Value :=
  (d.valueOf? maxDepth (100 * d.root.events) d.root).map (·.1)

end Document

end NfsStorage.Yaml

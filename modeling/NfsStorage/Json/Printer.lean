import NfsStorage.Json.Basic

/-!
The compact text of a JSON value: no blanks, fields in order, and only quotation marks, backslashes
and control characters escaped.
-/

namespace NfsStorage.Json

def hexDigit (n : Nat) : Char := if n < 10 then Char.ofNat (48 + n) else Char.ofNat (87 + n)

def escape (c : Char) : List Char :=
  match c with
  | '\x22' => ['\\', '\x22']
  | '\\' => ['\\', '\\']
  | '\x08' => ['\\', 'b']
  | '\x0c' => ['\\', 'f']
  | '\n' => ['\\', 'n']
  | '\r' => ['\\', 'r']
  | '\t' => ['\\', 't']
  | c =>
    if c.toNat < 0x20 then ['\\', 'u', '0', '0', hexDigit (c.toNat / 16), hexDigit (c.toNat % 16)]
    else [c]

def quote (text : String) : List Char :=
  '\x22' :: (text.toList.flatMap escape ++ ['\x22'])

/-- A number written with a fraction keeps a point: `1.0`, `0.5`, `100.0`. -/
def Number.text : Number → List Char
  | .integer value => (toString value).toList
  | .decimal mantissa exponent =>
    let sign := if mantissa < 0 then ['-'] else []
    let digits := (toString mantissa.natAbs).toList
    if 0 ≤ exponent then sign ++ digits ++ List.replicate exponent.toNat '0' ++ ['.', '0']
    else
      let places := (-exponent).toNat
      let padded := List.replicate (places + 1 - digits.length) '0' ++ digits
      let whole := padded.take (padded.length - places)
      let fraction := (padded.drop (padded.length - places)).reverse.dropWhile (· = '0')
      sign ++ whole ++ '.' :: (if fraction.isEmpty then ['0'] else fraction.reverse)

mutual

def characters : Json → List Char
  | .null => ['n', 'u', 'l', 'l']
  | .bool true => ['t', 'r', 'u', 'e']
  | .bool false => ['f', 'a', 'l', 's', 'e']
  | .number value => value.text
  | .string value => quote value
  | .array items => '[' :: (itemCharacters items ++ [']'])
  | .object fields => '\x7b' :: (fieldCharacters fields ++ ['\x7d'])

def itemCharacters : List Json → List Char
  | [] => []
  | [item] => characters item
  | item :: rest => characters item ++ ',' :: itemCharacters rest

def fieldCharacters : List (String × Json) → List Char
  | [] => []
  | [(key, value)] => quote key ++ ':' :: characters value
  | (key, value) :: rest => quote key ++ ':' :: (characters value ++ ',' :: fieldCharacters rest)

end

def render (j : Json) : String := String.ofList j.characters

end NfsStorage.Json

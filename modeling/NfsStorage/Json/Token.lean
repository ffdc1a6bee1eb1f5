import NfsStorage.Json.Basic
import NfsStorage.Text.Digits

/-!
What JSON texts are made of: blanks, words, numbers and texts in quotation marks. Each is read from
the beginning of a text, together with what follows it.
-/

namespace NfsStorage.Json

open Text

def isBlank (c : Char) : Bool := c = ' ' || c = '\n' || c = '\r' || c = '\t'

def skipBlank (text : List Char) : List Char := text.dropWhile isBlank

def afterWord? : (word text : List Char) → Option (List Char)
  | [], text => some text
  | w :: word, c :: text => if w = c then afterWord? word text else none
  | _ :: _, [] => none

namespace Number

/-- The least magnitude that is not rounded to a finite number of double precision. -/
def overflow : Nat := 1 <<< 1024 - 1 <<< 970

/-- Numbers are taken only while their magnitude is finite in double precision. -/
def isFinite : Number → Bool
  | integer value => value.natAbs < overflow
  | decimal mantissa exponent =>
    let m := mantissa.natAbs
    let places := (m.log2 * 3 / 10 : Int) + exponent
    if m = 0 || places < -2 then true
    else if 400 < places then false
    else if 0 ≤ exponent then m * Nat.pow 10 exponent.toNat < overflow
    else m < overflow * Nat.pow 10 (-exponent).toNat

def exponent? (text : List Char) : Option (Int × List Char) :=
  let (negative, rest) := match text with
    | '-' :: rest => (true, rest)
    | '+' :: rest => (false, rest)
    | _ => (false, text)
  match rest.takeWhile (·.isDigit) with
  | [] => none
  | digits =>
    let size : Int := natOfDigits digits
    some (if negative then -size else size, rest.drop digits.length)

/-- What follows the digits before the point: a fraction, an exponent, both or nothing. A fraction
has at least one digit, and minus zero is no integer. -/
def ofParts? (negative : Bool) (whole rest : List Char) : Option (Number × List Char) :=
  let sign : Int := if negative then -1 else 1
  let (places?, rest) : Option (List Char) × List Char := match rest with
    | '.' :: rest => (some (rest.takeWhile (·.isDigit)), rest.dropWhile (·.isDigit))
    | _ => (none, rest)
  let mantissa := sign * natOfDigits (whole ++ places?.getD [])
  let scale : Int := (places?.getD []).length
  if places? = some [] then none
  else match rest with
    | 'e' :: power | 'E' :: power =>
      match exponent? power with
      | some (e, rest) => some (.decimal mantissa (e - scale), rest)
      | none => none
    | _ =>
      if places?.isSome || negative && mantissa = 0 then some (.decimal mantissa (-scale), rest)
      else some (.integer mantissa, rest)

/-- The number at the beginning of a text. The digits before the point start with no superfluous
zero. -/
def read? (text : List Char) : Option (Number × List Char) :=
  let (negative, rest) := match text with
    | '-' :: rest => (true, rest)
    | _ => (false, text)
  let whole := rest.takeWhile (·.isDigit)
  match whole with
  | [] | '0' :: _ :: _ => none
  | _ => ofParts? negative whole (rest.drop whole.length)

end Number

def hexDigit? (c : Char) : Option Nat :=
  if '0' ≤ c ∧ c ≤ '9' then some (c.toNat - 48)
  else if 'a' ≤ c ∧ c ≤ 'f' then some (c.toNat - 87)
  else if 'A' ≤ c ∧ c ≤ 'F' then some (c.toNat - 55)
  else none

def simpleEscape? (c : Char) : Option Char :=
  match c with
  | '\x22' => some '\x22'
  | '\\' => some '\\'
  | '/' => some '/'
  | 'b' => some '\x08'
  | 'f' => some '\x0c'
  | 'n' => some '\n'
  | 'r' => some '\r'
  | 't' => some '\t'
  | _ => none

/-- Where in a text in quotation marks a reader stands. A `high` is the first half of a surrogate
pair whose second half has to follow. -/
inductive TextPlace where
  | plain
  | escape (high : Option Nat)
  | unicode (high : Option Nat) (digits value : Nat)
  | secondHalf (high : Nat)
deriving DecidableEq, Repr

def unicodeEscape? (high : Option Nat) (unit : Nat) : Option (Char ⊕ Nat) :=
  match high with
  | some first =>
    if 0xDC00 ≤ unit ∧ unit ≤ 0xDFFF then
      some (.inl (Char.ofNat (0x10000 + (first - 0xD800) * 0x400 + (unit - 0xDC00))))
    else none
  | none =>
    if 0xD800 ≤ unit ∧ unit ≤ 0xDBFF then some (.inr unit)
    else if 0xDC00 ≤ unit ∧ unit ≤ 0xDFFF then none
    else some (.inl (Char.ofNat unit))

/-- The rest of a text in quotation marks, of which some characters are read, last first. -/
def readText? (place : TextPlace) (characters : List Char) : List Char → Option (String × List Char)
  | [] => none
  | c :: rest =>
    match place with
    | .plain =>
      if c = '\x22' then some (String.ofList characters.reverse, rest)
      else if c = '\\' then readText? (.escape none) characters rest
      else if c.toNat < 0x20 then none
      else readText? .plain (c :: characters) rest
    | .escape high =>
      if c = 'u' then readText? (.unicode high 0 0) characters rest
      else if high.isSome then none
      else match simpleEscape? c with
        | some escaped => readText? .plain (escaped :: characters) rest
        | none => none
    | .unicode high digits value =>
      match hexDigit? c with
      | none => none
      | some digit =>
        let value := 16 * value + digit
        if digits < 3 then readText? (.unicode high (digits + 1) value) characters rest
        else match unicodeEscape? high value with
          | some (.inl escaped) => readText? .plain (escaped :: characters) rest
          | some (.inr first) => readText? (.secondHalf first) characters rest
          | none => none
    | .secondHalf high =>
      if c = '\\' then readText? (.escape (some high)) characters rest else none

/-- What follows a text in quotation marks that is of no interest. Surrogates in it need no
partners. After a backslash, `owed` counts the hexadecimal digits that still have to come. -/
def skipText? (escaped : Bool) (owed : Nat) : List Char → Option (List Char)
  | [] => none
  | c :: rest =>
    if 0 < owed then if (hexDigit? c).isSome then skipText? false (owed - 1) rest else none
    else if escaped then
      if c = 'u' then skipText? false 4 rest
      else if (simpleEscape? c).isSome then skipText? false 0 rest
      else none
    else if c = '\x22' then some rest
    else if c = '\\' then skipText? true 0 rest
    else if c.toNat < 0x20 then none
    else skipText? false 0 rest

end NfsStorage.Json

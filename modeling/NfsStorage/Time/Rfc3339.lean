import NfsStorage.Time.Basic
import NfsStorage.Text.Blank
import NfsStorage.Text.Digits

/-!
Times as text (RFC 3339). Times are written in UTC; a reader takes any offset and allows blanks
between the parts and numbers without leading zeros.
-/

namespace NfsStorage.Time

open Text

def padded (width n : Nat) : List Char :=
  let digits := Nat.toDigits 10 n
  List.replicate (width - digits.length) '0' ++ digits

/-- Years of four digits have no sign, all others do. -/
def yearText (year : Int) : List Char :=
  if 0 ≤ year ∧ year ≤ 9999 then padded 4 year.toNat
  else (if year < 0 then '-' else '+') :: padded 4 year.natAbs

def clockText (t : Time) (fraction : List Char) : String :=
  String.ofList (
    yearText t.date.year ++ '-' :: padded 2 t.date.month ++ '-' :: padded 2 t.date.day ++
    'T' :: padded 2 t.hour ++ ':' :: padded 2 t.minute ++ ':' :: padded 2 t.second ++
    fraction ++ ['Z'])

/-- To whole seconds, the fraction cut off. -/
def secondsText (t : Time) : String := t.clockText []

/-- To microseconds, further digits cut off. -/
def microsecondsText (t : Time) : String :=
  t.clockText ('.' :: padded 6 (t.nanosecond / 1000))

def number? (width : Nat) (text : List Char) : Option (Nat × List Char) :=
  let digits := (text.takeWhile (·.isDigit)).take width
  if digits.isEmpty then none else some (natOfDigits digits, text.drop digits.length)

/-- A year has four digits, or a sign and any number of them. -/
def year? (text : List Char) : Option (Int × List Char) :=
  match skipBlank text with
  | '-' :: rest => (number? rest.length rest).map fun (n, after) => (-(n : Int), after)
  | '+' :: rest => (number? rest.length rest).map fun (n, after) => ((n : Int), after)
  | rest => (number? 4 rest).map fun (n, after) => ((n : Int), after)

/-- A separator that blanks may precede, then a number of two digits that blanks may precede. -/
def partAfter? (separator : Char) (text : List Char) : Option (Nat × List Char) :=
  match skipBlank text with
  | c :: rest => if c = separator then number? 2 (skipBlank rest) else none
  | [] => none

def fraction? (text : List Char) : Option (Nat × List Char) :=
  match text with
  | '.' :: rest =>
    let digits := (rest.takeWhile (·.isDigit)).take 9
    if digits.isEmpty then none
    else some (natOfDigits (digits.rightpad 9 '0'), rest.dropWhile (·.isDigit))
  | _ => some (0, text)

def lowerAscii (c : Char) : Char := if 'A' ≤ c ∧ c ≤ 'Z' then Char.ofNat (c.toNat + 32) else c

/-- Minutes ahead of UTC: two digits of hours and two of minutes after a sign. -/
def signedOffset? (negative : Bool) (text : List Char) : Option (Int × List Char) :=
  match text with
  | h₁ :: h₂ :: rest =>
    match rest.dropWhile (fun c => c = ':' || isBlank c) with
    | m₁ :: m₂ :: after =>
      if [h₁, h₂, m₁, m₂].all (·.isDigit) && m₁.toNat < 54 then
        let minutes : Int := natOfDigits [h₁, h₂] * 60 + natOfDigits [m₁, m₂]
        if minutes < 1440 then some (if negative then -minutes else minutes, after) else none
      else none
    | _ => none
  | _ => none

def offset? (text : List Char) : Option (Int × List Char) :=
  match text with
  | 'Z' :: rest | 'z' :: rest => some (0, rest)
  | '+' :: rest => signedOffset? false rest
  | '-' :: rest | '−' :: rest => signedOffset? true rest
  | a :: b :: c :: rest =>
    if [lowerAscii a, lowerAscii b, lowerAscii c] = ['u', 't', 'c'] then some (0, rest) else none
  | _ => none

def parse? (text : String) : Option Time := do
  let (year, rest) ← year? text.toList
  let (month, rest) ← partAfter? '-' rest
  let (day, rest) ← partAfter? '-' rest
  let date : Date := ⟨year, month, day⟩
  let rest ← match rest with
    | 'T' :: rest | 't' :: rest | ' ' :: rest => some rest
    | _ => none
  let (hour, rest) ← number? 2 (skipBlank rest)
  let (minute, rest) ← partAfter? ':' rest
  let (second, rest) ← partAfter? ':' rest
  let (nanosecond, rest) ← fraction? rest
  let (ahead, rest) ← offset? (skipBlank rest)
  let time := ofLocal ⟨date, hour, minute, second, nanosecond⟩ ahead
  if date.Valid ∧ hour < 24 ∧ minute < 60 ∧ second ≤ 60 ∧ skipBlank rest = [] ∧
      time.date.Valid then
    some time
  else none

end NfsStorage.Time

import NfsStorage.Text.Alphanumeric
import NfsStorage.Text.Blank
import NfsStorage.Text.Pattern

/-!
Filters of the log: elements with commas between them. An element names a level, a target, or a
target with its level; after the target, brackets may hold a span with its fields in braces.
-/

namespace NfsStorage.Logging

open Text

def isLevel (text : List Char) : Bool :=
  let name := String.ofList (text.map Char.toLower)
  let digits := match text with
    | '+' :: digits => digits
    | digits => digits
  ["", "trace", "debug", "info", "warn", "error", "off"].contains name ||
    (areDigits digits && natOfDigits digits ≤ 5)

def isMagnitude (text : List Char) : Bool :=
  let name := String.ofList (text.map Char.toLower)
  let whole := text.takeWhile (·.isDigit)
  let rest := text.drop whole.length
  let (places, rest) := match rest with
    | '.' :: rest => (rest.takeWhile (·.isDigit), rest.dropWhile (·.isDigit))
    | rest => ([], rest)
  ["inf", "infinity", "nan"].contains name ||
    (!(whole ++ places).isEmpty && match rest with
      | [] => true
      | 'e' :: '+' :: power | 'e' :: '-' :: power | 'e' :: power => areDigits power
      | _ => false)

def isFieldValue (text : List Char) : Bool :=
  isPattern text || match text with
    | '+' :: rest => isMagnitude rest
    | _ => false

/-- A field is a name, or a name with a value. What follows a second sign of equality does not
count. -/
def isField (text : List Char) : Bool :=
  !text.isEmpty && match splitAt '=' text with
    | _ :: value :: _ => isFieldValue value
    | _ => true

inductive ElementPlace where
  | start
  | name
  | span
  | field (beginning : Nat)
  | fields
  | target
  | level (beginning : Nat)
deriving DecidableEq, Repr

/-- Past the character at an index. Parts are cut out of the element as it was `given`, while
indices count from its first character that is not blank. -/
def ElementPlace.next? (given : List Char) (index : Nat) (c : Char) :
    ElementPlace → Option ElementPlace
  | start =>
    if c = '[' then some span
    else if c = '-' || c = ':' || c = '_' || isAlphanumeric c then some name
    else none
  | name => some (if c = '=' then level (index + 1) else if c = '[' then span else name)
  | span => some (if c = ']' then target else if c = '\x7b' then field (index + 1) else span)
  | field beginning =>
    if c ≠ '\x7d' then some (field beginning)
    else if beginning < index && isField ((given.drop beginning).take (index - beginning)) then
      some fields
    else none
  | fields => if c = ']' then some target else none
  | target => if c = '=' then some (level (index + 1)) else none
  | level beginning => some (level beginning)

/-- An element may end after a name, a span or a level. -/
def ElementPlace.isEnd (given : List Char) : ElementPlace → Bool
  | name | target => true
  | level beginning => isLevel (given.drop beginning)
  | _ => false

def endsElement (given : List Char) (place : ElementPlace) (index : Nat) : List Char → Bool
  | [] => place.isEnd given
  | c :: rest =>
    match place.next? given index c with
    | some place => endsElement given place (index + 1) rest
    | none => false

def isElement (text : List Char) : Bool := endsElement text .start 0 (trimList text)

/-- Elements may be left out, but not consist of blanks. -/
def isFilter (filter : String) : Bool :=
  (splitAt ',' filter.toList).all fun element => element.isEmpty || isElement element

end NfsStorage.Logging

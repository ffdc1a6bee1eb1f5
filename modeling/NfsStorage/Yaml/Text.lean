/-!
YAML text, in which every character knows where it stands.
-/

namespace NfsStorage.Yaml

/-- A character in its place. The offset counts the bytes before it. -/
structure Placed where
  char : Char
  offset : Nat
  line : Nat
  column : Nat
deriving Repr

abbrev Located := List Placed

/-- Line breaks in the one spelling that `locate` leaves of them, and the two separators that stand
for themselves. -/
def isBreak (c : Char) : Bool := c = '\n' || c = '\u2028' || c = '\u2029'

def isSpace (c : Char) : Bool := c = ' ' || c = '\t'

/-- The characters in their places. Carriage returns and next lines are line breaks. -/
def locate (offset line column : Nat) : List Char → Located
  | [] => []
  | '\r' :: '\n' :: rest => ⟨'\n', offset, line, column⟩ :: locate (offset + 2) (line + 1) 0 rest
  | c :: rest =>
    let read := if c = '\r' || c = '\x85' then '\n' else c
    ⟨read, offset, line, column⟩ ::
      if isBreak read then locate (offset + c.utf8Size) (line + 1) 0 rest
      else locate (offset + c.utf8Size) line (column + 1) rest

def isAllowed (c : Char) : Bool :=
  c = '\t' || c = '\n' || c = '\r' || (' ' ≤ c && c ≤ '~') || c = '\x85' ||
    ('\xa0' ≤ c && c ≤ '\ufffd') || '\uffff' < c

def placed? (text : String) : Option Located :=
  if text.toList.all isAllowed then some (locate 0 0 0 text.toList) else none

/-- A blank, a line break or the end comes next. -/
def atWordEnd : Located → Bool
  | [] => true
  | p :: _ => isSpace p.char || isBreak p.char

def skipSpaces (text : Located) : Located := text.dropWhile fun p => isSpace p.char

/-- The next line, if nothing more than a comment stands on this one. -/
def nextLine? (text : Located) : Option Located :=
  match skipSpaces text with
  | [] => some []
  | p :: rest =>
    if isBreak p.char then some rest
    else if p.char = '#' then some ((rest.dropWhile fun q => !isBreak q.char).drop 1)
    else none

/-- Three dashes or dots at the beginning of a line begin or end a document. -/
def atMarker (mark : Char) : Located → Bool
  | ⟨a, _, _, 0⟩ :: ⟨b, _, _, _⟩ :: ⟨c, _, _, _⟩ :: rest =>
    a = mark && b = mark && c = mark && atWordEnd rest
  | _ => false

def atAnyMarker (text : Located) : Bool := atMarker '-' text || atMarker '.' text

def isNameChar (c : Char) : Bool := c.isAlphanum || c = '_' || c = '-'

def readName (text : Located) : String × Located :=
  let name := text.takeWhile fun p => isNameChar p.char
  (String.ofList (name.map (·.char)), text.drop name.length)

def hexValue? (c : Char) : Option Nat :=
  if c.isDigit then some (c.toNat - 48)
  else if 'a' ≤ c ∧ c ≤ 'f' then some (c.toNat - 87)
  else if 'A' ≤ c ∧ c ≤ 'F' then some (c.toNat - 55)
  else none

end NfsStorage.Yaml

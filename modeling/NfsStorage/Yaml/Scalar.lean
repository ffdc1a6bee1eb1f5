import NfsStorage.Yaml.Text

/-!
The texts of scalars. Between two words of a scalar a line break counts as a space, further breaks
are kept, and blanks around breaks do not count.
-/

namespace NfsStorage.Yaml

/-- What stands between two words, last first: spaces, or line breaks after which spaces do not
count. The first break is missing if it is escaped. -/
inductive Gap where
  | spaces (chars : List Char)
  | broken (first : Option Char) (more : List Char)

namespace Gap

def none : Gap := .spaces []

def isBroken : Gap → Bool
  | spaces _ => false
  | broken .. => true

def isEmpty : Gap → Bool
  | spaces [] => true
  | _ => false

def push (c : Char) : Gap → Gap
  | spaces chars => if isBreak c then broken (some c) [] else spaces (c :: chars)
  | broken first more => if isBreak c then broken first (c :: more) else broken first more

/-- What a gap counts as, last first. -/
def chars : Gap → List Char
  | spaces chars => chars
  | broken (some '\n') [] => [' ']
  | broken (some '\n') more => more
  | broken first more => more ++ first.toList

end Gap

def isGapChar (c : Char) : Bool := isSpace c || isBreak c

/-- The rest of a scalar in single quotes; a quote inside is written twice. What is read before is
`done`, last first. -/
def singleQuoted? (done : List Char) (gap : Gap) : Located → Option (String × Located)
  | [] => none
  | ⟨'\x27', _, _, _⟩ :: ⟨'\x27', _, _, _⟩ :: rest =>
    singleQuoted? ('\x27' :: (gap.chars ++ done)) .none rest
  | ⟨'\x27', _, _, _⟩ :: rest => some (String.ofList (gap.chars ++ done).reverse, rest)
  | p :: rest =>
    if atAnyMarker (p :: rest) then none
    else if isGapChar p.char then singleQuoted? done (gap.push p.char) rest
    else singleQuoted? (p.char :: (gap.chars ++ done)) .none rest

def escapes : List (Char × Nat) :=
  [('0', 0), ('a', 7), ('b', 8), ('t', 9), ('\t', 9), ('n', 10), ('v', 11), ('f', 12), ('r', 13),
    ('e', 0x1B), (' ', 0x20), ('\x22', 0x22), ('/', 0x2F), ('\\', 0x5C), ('N', 0x85), ('_', 0xA0),
    ('L', 0x2028), ('P', 0x2029)]

def escapeWidth? : Char → Option Nat
  | 'x' => some 2
  | 'u' => some 4
  | 'U' => some 8
  | _ => none

/-- Where in a scalar in double quotes a reader stands: in its text, after a backslash, or before
some more digits of an escape. -/
inductive QuotedPlace where
  | text
  | escape
  | digits (left value : Nat)

/-- The rest of a scalar in double quotes. An escaped line break does not count. -/
def doubleQuoted? (place : QuotedPlace) (done : List Char) (gap : Gap) :
    Located → Option (String × Located)
  | [] => none
  | p :: rest =>
    match place with
    | .text =>
      if atAnyMarker (p :: rest) then none
      else if p.char = '\x22' then some (String.ofList (gap.chars ++ done).reverse, rest)
      else if p.char = '\\' then doubleQuoted? .escape (gap.chars ++ done) .none rest
      else if isGapChar p.char then doubleQuoted? .text done (gap.push p.char) rest
      else doubleQuoted? .text (p.char :: (gap.chars ++ done)) .none rest
    | .escape =>
      if isBreak p.char then doubleQuoted? .text done (.broken Option.none []) rest
      else match escapeWidth? p.char, escapes.lookup p.char with
        | some width, _ => doubleQuoted? (.digits width 0) done .none rest
        | none, some code => doubleQuoted? .text (Char.ofNat code :: done) .none rest
        | none, none => none
    | .digits left value =>
      match hexValue? p.char with
      | none => none
      | some digit =>
        let value := 16 * value + digit
        if 1 < left then doubleQuoted? (.digits (left - 1) value) done .none rest
        else if value.isValidChar then doubleQuoted? .text (Char.ofNat value :: done) .none rest
        else none

def isFlowIndicator (c : Char) : Bool := c = ',' || c = '[' || c = ']' || c = '\x7b' || c = '\x7d'

/-- Characters that no plain scalar begins with. -/
def isIndicator (c : Char) : Bool :=
  isFlowIndicator c || c = '#' || c = '&' || c = '*' || c = '!' || c = '|' || c = '>' ||
    c = '\x27' || c = '\x22' || c = '%' || c = '@' || c = '\x60' || c = '-' || c = '?' || c = ':'

def startsPlain (isFlow : Bool) : Located → Bool
  | [] => false
  | p :: rest =>
    if p.char = '-' then !atWordEnd rest
    else if p.char = '?' || p.char = ':' then !isFlow && !atWordEnd rest
    else !isIndicator p.char && !isGapChar p.char

/-- In a flow collection no colon may stand before one of these. -/
def clashesInFlow : Located → Bool
  | [] => false
  | p :: _ => isFlowIndicator p.char || p.char = '?'

/-- What ends a plain scalar between two words: a document's marker, a comment, and in block
collections a column left of the margin. -/
def endsWords (isFlow : Bool) (margin : Nat) (text : Located) : Bool :=
  match text with
  | [] => true
  | p :: _ => atAnyMarker text || p.char = '#' || (!isFlow && p.column < margin)

/-- The rest of a plain scalar, whether a line break follows it, and what comes after it. No line of
it may be indented with a tab left of the margin. -/
def plain? (isFlow : Bool) (margin : Nat) (done : List Char) (gap : Gap) :
    Located → Option (String × Bool × Located)
  | [] => some (String.ofList done.reverse, gap.isBroken, [])
  | p :: rest =>
    if isGapChar p.char then
      if p.char = '\t' && gap.isBroken && p.column < margin then none
      else plain? isFlow margin done (gap.push p.char) rest
    else if !gap.isEmpty && endsWords isFlow margin (p :: rest) then
      some (String.ofList done.reverse, gap.isBroken, p :: rest)
    else if isFlow && p.char = ':' && clashesInFlow rest then none
    else if (p.char = ':' && atWordEnd rest) || (isFlow && isFlowIndicator p.char) then
      some (String.ofList done.reverse, gap.isBroken, p :: rest)
    else plain? isFlow margin (p.char :: (gap.chars ++ done)) .none rest

inductive Chomping where
  | strip | clip | keep
deriving DecidableEq, Repr

/-- The signs after the bar or the angle that begins a block scalar: one for what happens to the
last breaks and one for the indentation, in either order. Zero is no indentation. -/
def blockHeader? (text : Located) : Option (Chomping × Option Nat × Located) :=
  let (first, rest) := chomping? text
  let (indent, rest) := indent? rest
  let (second, rest) := if first.isSome || indent.isNone then (none, rest) else chomping? rest
  if indent = some 0 then none
  else (nextLine? rest).map fun rest => ((first.or second).getD .clip, indent, rest)
where
  chomping? : Located → Option Chomping × Located
    | ⟨'-', _, _, _⟩ :: rest => (some .strip, rest)
    | ⟨'+', _, _, _⟩ :: rest => (some .keep, rest)
    | rest => (none, rest)
  indent? : Located → Option Nat × Located
    | [] => (none, [])
    | p :: rest => if p.char.isDigit then (some (p.char.toNat - 48), rest) else (none, p :: rest)

/-- The breaks before the next line of a block scalar that holds something, last first, the greatest
column that the lines before it reach, and the text from there. Lines are not indented with tabs. As
long as the indentation is not known, all spaces belong to it. -/
def blockBreaks? (indent : Option Nat) (breaks : List Char) (reach : Nat) :
    Located → Option (List Char × Nat × Located)
  | [] => some (breaks, reach, [])
  | p :: rest =>
    let isIndented := !indent.any (· ≤ p.column)
    if isIndented && p.char = ' ' then blockBreaks? indent breaks (max reach (p.column + 1)) rest
    else if isIndented && p.char = '\t' then none
    else if isBreak p.char then
      blockBreaks? indent (p.char :: breaks) (max reach p.column) rest
    else some (breaks, max reach p.column, p :: rest)

/-- What stands between two lines of a block scalar, of which the first ends in `lineBreak`. In a
folded scalar a break between two lines that are not indented counts as a space. -/
def blockGap (isFolded isIndented : Bool) (lineBreak : Option Char) (breaks : List Char) :
    List Char :=
  if isFolded && lineBreak = some '\n' && !isIndented then
    if breaks.isEmpty then [' '] else breaks
  else breaks ++ lineBreak.toList

/-- The lines of a block scalar from the beginning of one of them. What is read before, the last
break and the blank lines after it are given last first. -/
def blockLines? (fuel : Nat) (isFolded : Bool) (chomping : Chomping) (indent : Nat)
    (done : List Char) (wasIndented : Bool) (lineBreak : Option Char) (breaks : List Char)
    (text : Located) : Option (String × Located) :=
  let ended :=
    let last := if chomping = .strip then [] else lineBreak.toList
    let more := if chomping = .keep then breaks else []
    some (String.ofList (more ++ (last ++ done)).reverse, text)
  match fuel, text with
  | 0, _ | _, [] => ended
  | fuel + 1, p :: _ =>
    if p.column ≠ indent then ended
    else
      let isIndented := isSpace p.char
      let line := (text.takeWhile fun q => !isBreak q.char).map (·.char)
      let rest := text.drop line.length
      let done := blockGap isFolded (wasIndented || isIndented) lineBreak breaks ++ done
      match blockBreaks? (some indent) [] 0 (rest.drop 1) with
      | none => none
      | some (breaks, _, next) =>
        blockLines? fuel isFolded chomping indent (line.reverse ++ done) isIndented
          (rest.head?.map (·.char)) breaks next

def blockScalar? (isFolded : Bool) (margin : Nat) (text : Located) :
    Option (String × Located) := do
  let (chomping, digit, body) ← blockHeader? text
  let given := digit.map (margin - 1 + ·)
  let (breaks, reach, body) ← blockBreaks? given [] 0 body
  let indent := given.getD (max (max reach margin) 1)
  blockLines? (body.length + 1) isFolded chomping indent [] false none breaks body

end NfsStorage.Yaml

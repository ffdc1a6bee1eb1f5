import NfsStorage.Yaml.Token

/-!
Dividing YAML text into tokens. Block collections are told by their columns: a collection ends at
what stands left of its column. A key without a question mark is known only by the colon after it,
so places where a key may have begun are kept, and the tokens before the key are put in afterwards.
-/

namespace NfsStorage.Yaml

/-- A place where a key may have begun, and how many tokens come before it. In the column of a block
collection nothing but a key may begin. -/
structure KeyPlace where
  position : Nat
  offset : Nat
  line : Nat
  column : Nat
  isRequired : Bool
deriving Repr

/-- What is read so far. `margin` is the column right of the innermost block collection, and of each
open flow collection and of the text around them the last place of a key is kept. -/
structure Lexer where
  text : Located
  tokens : List Token := []
  count : Nat := 0
  margin : Nat := 0
  outerMargins : List Nat := []
  place : Option KeyPlace := none
  outerPlaces : List (Option KeyPlace) := []
  mayBeginKey : Bool := true

namespace Lexer

def isFlow (l : Lexer) : Bool := !l.outerPlaces.isEmpty

def emit (l : Lexer) (token : Token) : Lexer :=
  { l with tokens := token :: l.tokens, count := l.count + 1 }

def insert (l : Lexer) (position : Nat) (token : Token) : Lexer :=
  let later := l.count - position
  { l with
    tokens := l.tokens.take later ++ token :: l.tokens.drop later
    count := l.count + 1 }

/-- A key is no longer than a line, and than 1024 bytes. -/
def fresh? (p : Placed) : Option KeyPlace → Option (Option KeyPlace)
  | none => some none
  | some k =>
    if k.line < p.line || k.offset + 1024 < p.offset then
      if k.isRequired then none else some none
    else some (some k)

def refresh? (l : Lexer) (p : Placed) : Option Lexer := do
  return { l with
    place := ← fresh? p l.place
    outerPlaces := ← l.outerPlaces.mapM (fresh? p) }

def forgetKey? (l : Lexer) : Option Lexer :=
  if l.place.any (·.isRequired) then none else some { l with place := none }

def keepKey? (l : Lexer) (p : Placed) : Option Lexer :=
  if l.mayBeginKey then do
    let l ← l.forgetKey?
    some { l with
      place := some {
        position := l.count
        offset := p.offset
        line := p.line
        column := p.column
        isRequired := !l.isFlow && l.margin = p.column + 1 } }
  else some l

def closeBlocks (l : Lexer) (margin : Nat) : List Nat → Lexer
  | [] => l
  | outer :: rest =>
    if margin < l.margin then
      closeBlocks { l.emit .blockEnd with margin := outer, outerMargins := rest } margin rest
    else l

/-- Block collections end that begin right of a margin. -/
def unroll (l : Lexer) (margin : Nat) : Lexer :=
  if l.isFlow then l else l.closeBlocks margin l.outerMargins

/-- A block collection begins in a column, unless it is the one that goes on there. -/
def roll (l : Lexer) (column position : Nat) (start : Token) : Lexer :=
  if l.isFlow || column < l.margin then l
  else { l.insert position start with
    margin := column + 1
    outerMargins := l.margin :: l.outerMargins }

/-- Past blanks, comments and line breaks. In a block collection a key may begin on a new line, and
where a key may begin there is no tab before it. A byte order mark may begin a line. -/
def toContent (isFlow : Bool) (inComment mayBeginKey : Bool) : Located → Bool × Located
  | [] => (mayBeginKey, [])
  | p :: rest =>
    if isBreak p.char then toContent isFlow false (mayBeginKey || !isFlow) rest
    else if inComment then toContent isFlow true mayBeginKey rest
    else if p.char = '\ufeff' && p.column = 0 then toContent isFlow false mayBeginKey rest
    else if p.char = ' ' || (p.char = '\t' && (isFlow || !mayBeginKey)) then
      toContent isFlow false mayBeginKey rest
    else if p.char = '#' then toContent isFlow true mayBeginKey rest
    else (mayBeginKey, p :: rest)

def directive? (l : Lexer) (rest : Located) : Option Lexer := do
  let l ← (l.unroll 0).forgetKey?
  let (token, rest) ← Token.readDirective? rest
  return { l.emit token with text := rest, mayBeginKey := false }

def marker? (l : Lexer) (token : Token) (rest : Located) : Option Lexer := do
  let l ← (l.unroll 0).forgetKey?
  return { l.emit token with text := rest.drop 2, mayBeginKey := false }

def openFlow? (l : Lexer) (token : Token) (p : Placed) (rest : Located) : Option Lexer := do
  let l ← l.keepKey? p
  return { l.emit token with
    text := rest
    place := none
    outerPlaces := l.place :: l.outerPlaces
    mayBeginKey := true }

def closeFlow? (l : Lexer) (token : Token) (rest : Located) : Option Lexer := do
  let l ← l.forgetKey?
  return { l.emit token with
    text := rest
    place := l.outerPlaces.head?.join
    outerPlaces := l.outerPlaces.tail
    mayBeginKey := false }

def comma? (l : Lexer) (rest : Located) : Option Lexer := do
  let l ← l.forgetKey?
  return { l.emit .comma with text := rest, mayBeginKey := true }

def indicator? (l : Lexer) (start token : Token) (p : Placed) (rest : Located) : Option Lexer :=
  if !l.isFlow && !l.mayBeginKey then none
  else do
    let l ← (l.roll p.column l.count start).forgetKey?
    return { l.emit token with text := rest, mayBeginKey := token = .dash || !l.isFlow }

/-- A colon ends the key that began at the last place. Without one it belongs to a key with a
question mark. -/
def colon? (l : Lexer) (p : Placed) (rest : Located) : Option Lexer :=
  match l.place with
  | some k =>
    let l := (l.insert k.position .key).roll k.column k.position .mappingStart
    some { l.emit .colon with text := rest, place := none, mayBeginKey := false }
  | none =>
    if !l.isFlow && !l.mayBeginKey then none
    else
      let l := l.roll p.column l.count .mappingStart
      some { l.emit .colon with text := rest, mayBeginKey := !l.isFlow }

def part? (l : Lexer) (p : Placed) (read : Option (Token × Located)) : Option Lexer := do
  let l ← l.keepKey? p
  let (token, rest) ← read
  return { l.emit token with text := rest, mayBeginKey := false }

def plainScalar? (l : Lexer) (p : Placed) (text : Located) : Option Lexer := do
  let l ← l.keepKey? p
  let (content, isBroken, rest) ← plain? l.isFlow l.margin [] .none text
  return { l.emit (.scalar content true) with text := rest, mayBeginKey := isBroken }

def blockScalar? (l : Lexer) (isFolded : Bool) (rest : Located) : Option Lexer := do
  let l ← l.forgetKey?
  let (content, rest) ← Yaml.blockScalar? isFolded l.margin rest
  return { l.emit (.scalar content false) with text := rest, mayBeginKey := true }

def next? (l : Lexer) (p : Placed) (rest : Located) : Option Lexer :=
  let text := p :: rest
  let quoted (read : Option (String × Located)) :=
    read.map fun (content, rest) => (Token.scalar content false, rest)
  if p.char = '%' && p.column = 0 then l.directive? rest
  else if atMarker '-' text then l.marker? .documentStart rest
  else if atMarker '.' text then l.marker? .documentEnd rest
  else match p.char with
  | '[' => l.openFlow? .openBracket p rest
  | '\x7b' => l.openFlow? .openBrace p rest
  | ']' => l.closeFlow? .closeBracket rest
  | '\x7d' => l.closeFlow? .closeBrace rest
  | ',' => l.comma? rest
  | '*' => l.part? p ((Token.anchorName? rest).map fun (name, rest) => (.reference name, rest))
  | '&' => l.part? p ((Token.anchorName? rest).map fun (name, rest) => (.anchor name, rest))
  | '!' => l.part? p (Token.readTagToken? l.isFlow rest)
  | '\x27' => l.part? p (quoted (singleQuoted? [] .none rest))
  | '\x22' => l.part? p (quoted (doubleQuoted? .text [] .none rest))
  | c =>
    if c = '-' && atWordEnd rest then l.indicator? .sequenceStart .dash p rest
    else if c = '?' && (l.isFlow || atWordEnd rest) then l.indicator? .mappingStart .key p rest
    else if c = ':' && (l.isFlow || atWordEnd rest) then l.colon? p rest
    else if c = '|' && !l.isFlow then l.blockScalar? false rest
    else if c = '>' && !l.isFlow then l.blockScalar? true rest
    else if startsPlain l.isFlow text then l.plainScalar? p text
    else none

def run? (l : Lexer) : (fuel : Nat) → Option (List Token)
  | 0 => none
  | fuel + 1 =>
    let (mayBeginKey, text) := toContent l.isFlow false l.mayBeginKey l.text
    match text with
    | [] => (l.unroll 0).forgetKey?.map (·.tokens.reverse)
    | p :: rest =>
      match { l with mayBeginKey }.refresh? p with
      | none => none
      | some l =>
        match (l.unroll (p.column + 1)).next? p rest with
        | none => none
        | some l => l.run? fuel

end Lexer

def tokens? (text : String) : Option (List Token) :=
  (placed? text).bind fun text => Lexer.run? { text } (text.length + 1)

end NfsStorage.Yaml

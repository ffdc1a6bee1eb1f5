import NfsStorage.Yaml.Scalar

/-!
The tokens of YAML, and how those are read that are made of names.
-/

namespace NfsStorage.Yaml

/-- A tag, byte by byte, since it may be written in escapes of single bytes. -/
abbrev Tag := List Char

/-- Block collections have tokens for where they begin and end, which are not written. A directive
introduces a version, or a handle for the beginning of tags. -/
inductive Token where
  | version (major minor : Nat)
  | handle (name : String) (stem : Tag)
  | documentStart
  | documentEnd
  | sequenceStart
  | mappingStart
  | blockEnd
  | openBracket
  | closeBracket
  | openBrace
  | closeBrace
  | dash
  | comma
  | key
  | colon
  | reference (name : String)
  | anchor (name : String)
  | tag (handle : String) (suffix : Tag)
  | scalar (text : String) (isPlain : Bool)
deriving DecidableEq, Repr

namespace Token

def escapedByte? : Located → Option (Nat × Located)
  | ⟨'%', _, _, _⟩ :: high :: low :: rest =>
    match hexValue? high.char, hexValue? low.char with
    | some high, some low => some (16 * high + low, rest)
    | _, _ => none
  | _ => none

/-- How many bytes follow the first one of a character. -/
def furtherBytes? (first : Nat) : Option Nat :=
  if first < 0x80 then some 0
  else if first / 32 = 6 then some 1
  else if first / 16 = 14 then some 2
  else if first / 8 = 30 then some 3
  else none

def readFurther? (done : Tag) (text : Located) : Nat → Option (Tag × Located)
  | 0 => some (done, text)
  | left + 1 =>
    match escapedByte? text with
    | some (byte, rest) =>
      if byte / 64 = 2 then readFurther? (Char.ofNat byte :: done) rest left else none
    | none => none

def escaped? (done : Tag) (text : Located) : Option (Tag × Located) :=
  match escapedByte? text with
  | none => none
  | some (first, rest) =>
    (furtherBytes? first).bind (readFurther? (Char.ofNat first :: done) rest)

def isTagChar (isVerbatim : Bool) (c : Char) : Bool :=
  isNameChar c || ";/?:@&=+$.!~*\x27()".toList.contains c ||
    (isVerbatim && (c = ',' || c = '[' || c = ']'))

def readTag? (fuel : Nat) (isVerbatim : Bool) (done : Tag) (text : Located) :
    Option (Tag × Located) :=
  match fuel, text with
  | fuel + 1, p :: rest =>
    if p.char = '%' then
      match escaped? done text with
      | some (done, rest) => readTag? fuel isVerbatim done rest
      | none => none
    else if isTagChar isVerbatim p.char then readTag? fuel isVerbatim (p.char :: done) rest
    else some (done.reverse, text)
  | _, _ => some (done.reverse, text)

/-- A tag of at least one character. Nothing counts after a byte of zero. -/
def tagText? (isVerbatim : Bool) (done : Tag) (text : Located) : Option (Tag × Located) :=
  match readTag? text.length isVerbatim done text with
  | none => none
  | some (bytes, rest) => some (bytes.takeWhile (· ≠ '\x00'), rest)

def isTagEnd (isFlow : Bool) (text : Located) : Bool :=
  atWordEnd text || (isFlow && (text.head?.map (·.char)) = some ',')

def verbatimTag? (text : Located) : Option (Token × Located) :=
  match tagText? true [] text with
  | some (suffix, ⟨'>', _, _, _⟩ :: rest) =>
    if (text.head?.map (·.char)) = some '>' then none else some (.tag "" suffix, rest)
  | _ => none

/-- A tag without angles, after its exclamation mark. A handle stands between two marks; a mark by
itself is a tag of its own. -/
def shortTag? (text : Located) : Option (Token × Located) :=
  let (name, rest) := readName text
  match rest with
  | ⟨'!', _, _, _⟩ :: rest =>
    match tagText? false [] rest with
    | some (suffix, after) =>
      if after.length = rest.length then none
      else some (.tag ("!" ++ name ++ "!") suffix, after)
    | none => none
  | _ =>
    match tagText? false name.toList.reverse rest with
    | some ([], after) => some (.tag "" ['!'], after)
    | some (suffix, after) => some (.tag "!" suffix, after)
    | none => none

def readTagToken? (isFlow : Bool) (text : Located) : Option (Token × Located) :=
  let read := match text with
    | ⟨'<', _, _, _⟩ :: rest => verbatimTag? rest
    | _ => shortTag? text
  match read with
  | some (token, rest) => if isTagEnd isFlow rest then some (token, rest) else none
  | none => none

def anchorName? (text : Located) : Option (String × Located) :=
  let (name, rest) := readName text
  let isEnded := atWordEnd rest || match rest with
    | [] => true
    | p :: _ => ['?', ':', ',', ']', '\x7d', '%', '@', '\x60'].contains p.char
  if name = "" || !isEnded then none else some (name, rest)

def versionNumber? (text : Located) : Option (Nat × Located) :=
  let digits := text.takeWhile fun p => p.char.isDigit
  if digits.isEmpty || 9 < digits.length then none
  else some (digits.foldl (fun n p => 10 * n + (p.char.toNat - 48)) 0, text.drop digits.length)

def readVersion? (text : Located) : Option (Token × Located) :=
  match versionNumber? (skipSpaces text) with
  | some (major, ⟨'.', _, _, _⟩ :: rest) =>
    (versionNumber? rest).map fun (minor, rest) => (.version major minor, rest)
  | _ => none

/-- A handle is a mark, or a name between two. -/
def readHandle? (text : Located) : Option (String × Located) :=
  match text with
  | ⟨'!', _, _, _⟩ :: rest =>
    match readName rest with
    | (name, ⟨'!', _, _, _⟩ :: rest) => some ("!" ++ name ++ "!", rest)
    | (name, rest) => if name = "" then some ("!", rest) else none
  | _ => none

/-- A blank separates a handle from what it stands for. -/
def readHandleToken? (text : Located) : Option (Token × Located) :=
  match readHandle? (skipSpaces text) with
  | none => none
  | some (name, rest) =>
    let stem := skipSpaces rest
    match tagText? true [] stem with
    | some (bytes, after) =>
      if stem.length = rest.length || after.length = stem.length || !atWordEnd after then none
      else some (.handle name bytes, after)
    | none => none

def readDirective? (text : Located) : Option (Token × Located) :=
  let read := match readName text with
    | ("YAML", rest) => if atWordEnd rest then readVersion? rest else none
    | ("TAG", rest) => if atWordEnd rest then readHandleToken? rest else none
    | _ => none
  match read with
  | some (token, rest) => (nextLine? rest).map fun rest => (token, rest)
  | none => none

end Token

end NfsStorage.Yaml

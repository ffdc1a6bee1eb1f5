import NfsStorage.Text.Digits

/-!
Which texts are patterns, that is, regular expressions: groups and classes are closed, a repetition
has something to repeat, and every escape is known.
-/

namespace NfsStorage.Text

def isHexDigit (c : Char) : Bool :=
  c.isDigit || ('a' ≤ c && c ≤ 'f') || ('A' ≤ c && c ≤ 'F')

/-- The text after the escape that a backslash begins. Letters and digits have a meaning of their
own or none; a sign stands for itself, but no word boundaries are looked for. -/
def afterEscape? (text : List Char) : Option (List Char) :=
  match text with
  | [] => none
  | c :: rest =>
    let width := if c = 'x' then 2 else if c = 'u' then 4 else if c = 'U' then 8 else 0
    if 0 < width then
      if width ≤ rest.length && (rest.take width).all isHexDigit then some (rest.drop width)
      else none
    else if c = 'p' || c = 'P' then
      match rest with
      | name :: rest => if "lmnpszcLMNPSZC".toList.contains name then some rest else none
      | [] => none
    else if c.isAlphanum then if "dDsSwWaftnrvAz".toList.contains c then some rest else none
    else if c = '<' || c = '>' || 127 < c.toNat then none
    else some rest

def afterGroupStart? (text : List Char) : Option (List Char × Bool) :=
  match text with
  | '?' :: 'P' :: '<' :: rest | '?' :: '<' :: rest =>
    let name := rest.takeWhile fun c => c.isAlphanum || c = '_'
    match rest.drop name.length with
    | '>' :: rest =>
      if name.isEmpty || name.head?.any Char.isDigit then none else some (rest, true)
    | _ => none
  | '?' :: rest =>
    let flags := rest.takeWhile fun c => "imsUuRx-".toList.contains c
    match rest.drop flags.length with
    | ':' :: rest => some (rest, true)
    | ')' :: rest => if flags.isEmpty then none else some (rest, false)
    | _ => none
  | _ => some (text, true)

/-- The text after a class, of which `depth` brackets are open. A bracket at its beginning stands
for itself. -/
def afterClass? (fuel depth : Nat) (isFirst : Bool) (text : List Char) : Option (List Char) :=
  match fuel, text with
  | 0, _ | _, [] => none
  | fuel + 1, '^' :: rest => afterClass? fuel depth isFirst rest
  | fuel + 1, '\\' :: rest => (afterEscape? rest).bind (afterClass? fuel depth false)
  | fuel + 1, '[' :: rest => afterClass? fuel (depth + 1) true rest
  | fuel + 1, ']' :: rest =>
    if isFirst then afterClass? fuel depth false rest
    else if depth ≤ 1 then some rest
    else afterClass? fuel (depth - 1) false rest
  | fuel + 1, _ :: rest => afterClass? fuel depth false rest

/-- Whether the rest of a pattern is well formed. `depth` groups are open, and `canRepeat` tells
whether there is something before it to repeat. -/
def endsPattern (fuel depth : Nat) (canRepeat : Bool) (text : List Char) : Bool :=
  match fuel, text with
  | _, [] => depth = 0
  | 0, _ => false
  | fuel + 1, '\\' :: rest => (afterEscape? rest).any (endsPattern fuel depth true)
  | fuel + 1, '(' :: rest =>
    match afterGroupStart? rest with
    | some (rest, true) => endsPattern fuel (depth + 1) false rest
    | some (rest, false) => endsPattern fuel depth false rest
    | none => false
  | fuel + 1, ')' :: rest => 0 < depth && endsPattern fuel (depth - 1) true rest
  | fuel + 1, '[' :: rest => (afterClass? rest.length 1 true rest).any (endsPattern fuel depth true)
  | fuel + 1, '|' :: rest => endsPattern fuel depth false rest
  | _ + 1, '\x7b' :: _ => false
  | fuel + 1, c :: rest =>
    if c = '*' || c = '+' || c = '?' then canRepeat && endsPattern fuel depth true rest
    else endsPattern fuel depth true rest

def isPattern (text : List Char) : Bool := endsPattern text.length 0 false text

end NfsStorage.Text

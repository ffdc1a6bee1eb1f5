import NfsStorage.Json.Shape
import NfsStorage.Json.Token

/-!
Reading a value of a given shape from a text. The text is judged in the order in which it is read,
and the first fault decides: a text may be no JSON at all, or JSON of another shape.
-/

namespace NfsStorage.Json

/-- Why a text is not taken: it is `malformed` as JSON, or a value in it is `unfit`. -/
inductive Refusal where
  | malformed
  | unfit
deriving DecidableEq, Repr

/-- Arrays and objects whose content counts nest at most this deep. -/
def maxDepth : Nat := 127

def readWord? (text : List Char) : Option (Json × List Char) :=
  match text with
  | 'n' :: rest => (afterWord? ['u', 'l', 'l'] rest).map fun rest => (.null, rest)
  | 't' :: rest => (afterWord? ['r', 'u', 'e'] rest).map fun rest => (.bool true, rest)
  | 'f' :: rest => (afterWord? ['a', 'l', 's', 'e'] rest).map fun rest => (.bool false, rest)
  | _ => none

def readScalar? (text : List Char) : Option (Json × List Char) :=
  match text with
  | '\x22' :: rest => (readText? .plain [] rest).map fun (value, rest) => (.string value, rest)
  | _ =>
    match readWord? text, Number.read? text with
    | some word, _ => some word
    | none, some (value, rest) => if value.isFinite then some (.number value, rest) else none
    | none, none => none

/-- What follows a scalar of no interest. Its number may be of any size. -/
def skipScalar? (text : List Char) : Option (List Char) :=
  match text with
  | '\x22' :: rest => skipText? false 0 rest
  | _ => ((readWord? text).map (·.2)).or ((Number.read? text).map (·.2))

/-- A value in place of one of another kind. An array or object is known by its bracket; any other
value is read first. -/
def mismatch (text : List Char) : Refusal :=
  match text with
  | '[' :: _ | '\x7b' :: _ => .unfit
  | _ => if (readScalar? text).isSome then .unfit else .malformed

def readFitting (fits : Json → Bool) (text : List Char) : Except Refusal (Json × List Char) :=
  match text with
  | '[' :: _ | '\x7b' :: _ => .error .unfit
  | _ =>
    match readScalar? text with
    | none => .error .malformed
    | some (value, rest) => if fits value then .ok (value, rest) else .error .unfit

/-- What comes next in an array or object: its end, or another item, at whose beginning the text
stands. -/
inductive Next where
  | item (text : List Char)
  | closed (rest : List Char)

def next? (closing : Char) (isFirst : Bool) (text : List Char) : Option Next :=
  match skipBlank text with
  | [] => none
  | c :: rest =>
    if c = closing then some (.closed rest)
    else if isFirst then some (.item (c :: rest))
    else if c = ',' then
      let item := skipBlank rest
      if item.head? = some closing then none else some (.item item)
    else none

def afterColon? (text : List Char) : Option (List Char) :=
  match skipBlank text with
  | ':' :: rest => some rest
  | _ => none

def readKey? (text : List Char) : Option (String × List Char) :=
  match text with
  | '\x22' :: rest => readText? .plain [] rest
  | _ => none

inductive Awaited where
  | value
  | firstItem
  | firstKey
  | key
  | next

/-- What follows a value of no interest, and the brackets that are open around it. Such values nest
as deep as they like. -/
def skip? (fuel : Nat) (awaited : Awaited) (closings : List Char) (text : List Char) :
    Option (List Char) :=
  match fuel with
  | 0 => none
  | fuel + 1 =>
    match awaited, closings with
    | .next, [] => some text
    | .next, closing :: outer =>
      match skipBlank text with
      | [] => none
      | c :: rest =>
        if c = closing then skip? fuel .next outer rest
        else if c = ',' then skip? fuel (if closing = ']' then .value else .key) closings rest
        else none
    | .firstItem, closings =>
      match skipBlank text with
      | ']' :: rest => skip? fuel .next (closings.drop 1) rest
      | text => skip? fuel .value closings text
    | .firstKey, closings =>
      match skipBlank text with
      | '\x7d' :: rest => skip? fuel .next (closings.drop 1) rest
      | text => skip? fuel .key closings text
    | .key, closings =>
      match skipBlank text with
      | '\x22' :: rest =>
        match (skipText? false 0 rest).bind afterColon? with
        | some rest => skip? fuel .value closings rest
        | none => none
      | _ => none
    | .value, closings =>
      match skipBlank text with
      | '[' :: rest => skip? fuel .firstItem (']' :: closings) rest
      | '\x7b' :: rest => skip? fuel .firstKey ('\x7d' :: closings) rest
      | text =>
        match skipScalar? text with
        | some rest => skip? fuel .next closings rest
        | none => none

def readChoice (depth : Nat) (fits : String → Bool) (text : List Char) :
    Except Refusal (Json × List Char) :=
  match text with
  | '\x22' :: _ =>
    readFitting (fun | .string name => fits name | _ => false) text
  | '\x7b' :: rest =>
    if depth = 0 then .error .malformed
    else do
      let (name, rest) ← readFitting (fun | .string name => fits name | _ => false) (skipBlank rest)
      match afterColon? rest with
      | none => .error .malformed
      | some rest =>
        let (_, rest) ← readFitting Json.isNull (skipBlank rest)
        match name, skipBlank rest with
        | .string name, '\x7d' :: rest => .ok (.object [(name, .null)], rest)
        | _, _ => .error .malformed
  | _ => .error .malformed

namespace Style

def isStrict : Style → Bool
  | lenient => false
  | _ => true

end Style

def FieldRule.isGiven (rule : FieldRule) (fields : List (String × Json)) : Bool :=
  fields.any fun field => rule.keys.contains field.1

mutual

/-- A value of a shape. `depth` levels of arrays and objects may still be opened. -/
def readShape (fuel depth : Nat) (shape : Shape) (text : List Char) :
    Except Refusal (Json × List Char) :=
  match fuel with
  | 0 => .error .malformed
  | fuel + 1 =>
    let text := skipBlank text
    match shape, text with
    | .nullable _, 'n' :: _ => readFitting Json.isNull text
    | .nullable shape, _ => readShape fuel depth shape text
    | .scalar fits, _ => readFitting fits text
    | .choice fits, _ => readChoice depth fits text
    | .free, '[' :: rest =>
      if depth = 0 then .error .malformed else readItems fuel (depth - 1) .free [] rest
    | .free, '\x7b' :: rest =>
      if depth = 0 then .error .malformed else readEntries fuel (depth - 1) .free [] rest
    | .free, _ => readFitting (fun _ => true) text
    | .list shape, '[' :: rest =>
      if depth = 0 then .error .malformed else readItems fuel (depth - 1) shape [] rest
    | .dict shape, '\x7b' :: rest =>
      if depth = 0 then .error .malformed else readEntries fuel (depth - 1) shape [] rest
    | .object style fields, '\x7b' :: rest =>
      if depth = 0 then .error .malformed else readFields fuel (depth - 1) style fields [] true rest
    | .object .fixed fields, '[' :: rest =>
      if depth = 0 then .error .malformed else readPositions fuel (depth - 1) fields [] rest
    | .object .lenient _, '[' :: _ => .error (if depth = 0 then .malformed else .unfit)
    | _, _ => .error (mismatch text)

def readItems (fuel depth : Nat) (shape : Shape) (items : List Json) (text : List Char) :
    Except Refusal (Json × List Char) :=
  match fuel with
  | 0 => .error .malformed
  | fuel + 1 =>
    match next? ']' items.isEmpty text with
    | none => .error .malformed
    | some (.closed rest) => .ok (.array items.reverse, rest)
    | some (.item text) =>
      match readShape fuel depth shape text with
      | .error refusal => .error refusal
      | .ok (item, rest) => readItems fuel depth shape (item :: items) rest

def readEntries (fuel depth : Nat) (shape : Shape) (fields : List (String × Json))
    (text : List Char) : Except Refusal (Json × List Char) :=
  match fuel with
  | 0 => .error .malformed
  | fuel + 1 =>
    match next? '\x7d' fields.isEmpty text with
    | none => .error .malformed
    | some (.closed rest) => .ok (.object fields.reverse, rest)
    | some (.item text) =>
      match readKey? text with
      | none => .error .malformed
      | some (key, rest) =>
        match afterColon? rest with
        | none => .error .malformed
        | some rest =>
          match readShape fuel depth shape rest with
          | .error refusal => .error refusal
          | .ok (value, rest) => readEntries fuel depth shape ((key, value) :: fields) rest

/-- The rest of an object with fields of its own. A field that may not be repeated is refused on its
key, and a field that is missing at the end. -/
def readFields (fuel depth : Nat) (style : Style) (rules : List (FieldRule × Shape))
    (fields : List (String × Json)) (isFirst : Bool) (text : List Char) :
    Except Refusal (Json × List Char) :=
  match fuel with
  | 0 => .error .malformed
  | fuel + 1 =>
    match next? '\x7d' isFirst text with
    | none => .error .malformed
    | some (.closed rest) =>
      if rules.any fun (rule, _) => rule.presence = .required && !rule.isGiven fields then
        .error .unfit
      else .ok (.object fields.reverse, rest)
    | some (.item text) =>
      match readKey? text with
      | none => .error .malformed
      | some (key, rest) =>
        let known := rules.find? fun (rule, _) => rule.keys.contains key
        if style.isStrict && known.any fun (rule, _) => rule.isGiven fields then .error .unfit
        else match afterColon? rest with
          | none => .error .malformed
          | some rest =>
            match known, style with
            | none, .fixed | none, .lenient =>
              match skip? fuel .value [] rest with
              | none => .error .malformed
              | some rest => readFields fuel depth style rules fields false rest
            | _, _ =>
              match readShape fuel depth ((known.map (·.2)).getD .free) rest with
              | .error refusal => .error refusal
              | .ok (value, rest) =>
                readFields fuel depth style rules ((key, value) :: fields) false rest

def readPositions (fuel depth : Nat) (rules : List (FieldRule × Shape)) (items : List Json)
    (text : List Char) : Except Refusal (Json × List Char) :=
  match fuel with
  | 0 => .error .malformed
  | fuel + 1 =>
    match rules with
    | [] =>
      match skipBlank text with
      | ']' :: rest => .ok (.array items.reverse, rest)
      | _ => .error .malformed
    | (_, shape) :: others =>
      match next? ']' items.isEmpty text with
      | none => .error .malformed
      | some (.closed rest) =>
        if rules.all fun (rule, _) => rule.presence = .defaulted then
          .ok (.array items.reverse, rest)
        else .error .unfit
      | some (.item text) =>
        match readShape fuel depth shape text with
        | .error refusal => .error refusal
        | .ok (item, rest) => readPositions fuel depth others (item :: items) rest

end

namespace Shape

def readFirst (shape : Shape) (text : String) : Except Refusal (Json × List Char) :=
  let characters := text.toList
  readShape (4 * characters.length + 16) maxDepth shape characters

/-- The value of a shape that a text denotes. Only blanks may follow it. -/
def read (shape : Shape) (text : String) : Except Refusal Json :=
  match shape.readFirst text with
  | .error refusal => .error refusal
  | .ok (value, rest) => if rest.all isBlank then .ok value else .error .malformed

end Shape

def parse? (text : String) : Option Json := (Shape.free.read text).toOption

end NfsStorage.Json

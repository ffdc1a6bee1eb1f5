import NfsStorage.Json.Printer

/-!
Writing JSON values as YAML in block style. A text is written plainly where it cannot be taken for
anything else, and in single quotes or, if it holds characters of control, in double ones otherwise.
-/

namespace NfsStorage.Yaml

def reservedWords : List String :=
  ["null", "true", "false", "yes", "no", "on", "off", "y", "n", "inf", "nan"]

/-- Texts that are written plainly begin with a letter, possibly after a point. -/
def isPlainText (text : String) : Bool :=
  let chars := text.toList
  let word := if chars.head? = some '.' then chars.tail else chars
  (word.head?.map Char.isAlpha).getD false &&
    chars.all (fun c => c.isAlphanum || "_-./".contains c) &&
    !reservedWords.contains (String.ofList (word.map Char.toLower))

def singleQuotedText (text : String) : String :=
  "\x27" ++ text.replace "\x27" "\x27\x27" ++ "\x27"

def scalarText (text : String) : String :=
  if isPlainText text then text
  else if text.toList.any fun c => c.toNat < 0x20 then String.ofList (Json.quote text)
  else singleQuotedText text

def inlineText? : Json → Option String
  | .array [] => some "[]"
  | .object [] => some "\x7b\x7d"
  | .array _ | .object _ => none
  | .string text => some (scalarText text)
  | j => some j.render

def indented (lines : List String) : List String := lines.map ("  " ++ ·)

def itemLines : List String → List String
  | [] => []
  | first :: rest => ("- " ++ first) :: indented rest

mutual

def linesOf : Json → List String
  | .array items => linesOfItems items
  | .object fields => linesOfFields fields
  | j => (inlineText? j).toList

def linesOfItems : List Json → List String
  | [] => []
  | item :: rest =>
    itemLines (match inlineText? item with
      | some text => [text]
      | none => linesOf item) ++ linesOfItems rest

def linesOfFields : List (String × Json) → List String
  | [] => []
  | (key, value) :: rest =>
    (match inlineText? value, value with
      | some text, _ => [scalarText key ++ ": " ++ text]
      | none, .object fields => (scalarText key ++ ":") :: indented (linesOfFields fields)
      | none, value => (scalarText key ++ ":") :: linesOf value) ++ linesOfFields rest

end

def render (j : Json) : String :=
  String.join ((match inlineText? j with
    | some text => [text]
    | none => linesOf j).map (· ++ "\n"))

end NfsStorage.Yaml

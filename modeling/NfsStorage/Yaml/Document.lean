import NfsStorage.Yaml.Lexer
import NfsStorage.Yaml.Node

/-!
Reading documents from their tokens.
-/

namespace NfsStorage.Yaml

/-- The numbers of the anchors that have been written so far, by their names. -/
abbrev Known := List (String × Nat)

/-- A new anchor gets as its number how many other names there are. -/
def Known.add (known : Known) (name : String) : Nat × Known :=
  (known.length, (name, known.length) :: known.filter (·.1 ≠ name))

/-- The beginnings of tags that handles stand for. -/
abbrev Handles := List (String × Tag)

def Handles.standard : Handles := [("!", ['!']), ("!!", "tag:yaml.org,2002:".toList)]

/-- The full tag. One without a handle is full already. -/
def Handles.resolve? (handles : Handles) (handle : String) (suffix : Tag) : Option Tag :=
  if handle = "" then some suffix else (handles.lookup handle).map (· ++ suffix)

/-- What stands before a node: an anchor and a tag, in either order. -/
def properties : List Token → Option String × Option (String × Tag) × List Token
  | .anchor name :: .tag handle suffix :: rest => (some name, some (handle, suffix), rest)
  | .tag handle suffix :: .anchor name :: rest => (some name, some (handle, suffix), rest)
  | .anchor name :: rest => (some name, none, rest)
  | .tag handle suffix :: rest => (none, some (handle, suffix), rest)
  | tokens => (none, none, tokens)

/-- Where a node stands. In a flow collection there are no block collections, and a list that is the
value of a key may stand in the column of the key. -/
inductive Setting where
  | flow
  | block
  | keyed
deriving DecidableEq, Repr

def isNext (tokens : List Token) (candidates : List Token) : Bool :=
  tokens.head?.any (candidates.contains ·)

abbrev Reading := Option (Node × Known × List Token)

mutual

def readNode (fuel : Nat) (handles : Handles) (setting : Setting) (known : Known)
    (tokens : List Token) : Reading :=
  match fuel, tokens with
  | 0, _ => none
  | _ + 1, .reference name :: rest =>
    (known.lookup name).map fun id => (.reference id, known, rest)
  | fuel + 1, tokens => do
    let (anchor?, tag?, rest) := properties tokens
    let tag? ← match tag? with
      | none => some none
      | some (handle, suffix) => (handles.resolve? handle suffix).map some
    let (known, wrap) : Known × (Node → Node) := match anchor? with
      | none => (known, id)
      | some name => ((known.add name).2, .anchored (known.add name).1)
    let (node, known, rest) ← readContent fuel handles setting known tag?
      (anchor?.isSome || tag?.isSome) rest
    return (wrap node, known, rest)

/-- A node without its properties. Where there are some, nothing else need be written. A lone mark
is no tag for a scalar that is written. -/
def readContent (fuel : Nat) (handles : Handles) (setting : Setting) (known : Known)
    (tag? : Option Tag) (mayBeEmpty : Bool) (tokens : List Token) : Reading :=
  match fuel, setting, tokens with
  | 0, _, _ => none
  | _ + 1, _, .scalar text isPlain :: rest =>
    some (.scalar text isPlain (tag?.filter (· ≠ ['!'])), known, rest)
  | fuel + 1, _, .openBracket :: rest => readFlowList fuel handles known [] rest
  | fuel + 1, _, .openBrace :: rest => readFlowMapping fuel handles known [] rest
  | fuel + 1, .block, .sequenceStart :: rest | fuel + 1, .keyed, .sequenceStart :: rest =>
    readList fuel handles known [] rest
  | fuel + 1, .block, .mappingStart :: rest | fuel + 1, .keyed, .mappingStart :: rest =>
    readMapping fuel handles known [] rest
  | fuel + 1, .keyed, .dash :: rest => readKeyedList fuel handles known [] (.dash :: rest)
  | _ + 1, _, tokens => if mayBeEmpty then some (.scalar "" true tag?, known, tokens) else none

def readList (fuel : Nat) (handles : Handles) (known : Known) (items : List Node)
    (tokens : List Token) : Reading :=
  match fuel, tokens with
  | fuel + 1, .dash :: rest =>
    if isNext rest [.dash, .blockEnd] then readList fuel handles known (.empty :: items) rest
    else do
      let (item, known, rest) ← readNode fuel handles .block known rest
      readList fuel handles known (item :: items) rest
  | _ + 1, .blockEnd :: rest => some (.list items.reverse, known, rest)
  | _, _ => none

/-- The items of a list in the column of its key. -/
def readKeyedList (fuel : Nat) (handles : Handles) (known : Known) (items : List Node)
    (tokens : List Token) : Reading :=
  match fuel, tokens with
  | 0, _ => none
  | fuel + 1, .dash :: rest =>
    if isNext rest [.dash, .key, .colon, .blockEnd] then
      readKeyedList fuel handles known (.empty :: items) rest
    else do
      let (item, known, rest) ← readNode fuel handles .block known rest
      readKeyedList fuel handles known (item :: items) rest
  | _ + 1, tokens => some (.list items.reverse, known, tokens)

/-- A key or a value of a block mapping, which may be left out. -/
def readPart (fuel : Nat) (handles : Handles) (known : Known) (tokens : List Token) : Reading :=
  match fuel with
  | 0 => none
  | fuel + 1 =>
    if isNext tokens [.key, .colon, .blockEnd] then some (.empty, known, tokens)
    else readNode fuel handles .keyed known tokens

def readMapping (fuel : Nat) (handles : Handles) (known : Known) (entries : List (Node × Node))
    (tokens : List Token) : Reading :=
  match fuel, tokens with
  | fuel + 1, .key :: rest => do
    let (key, known, rest) ← readPart fuel handles known rest
    match rest with
    | .colon :: rest =>
      let (value, known, rest) ← readPart fuel handles known rest
      readMapping fuel handles known ((key, value) :: entries) rest
    | _ => readMapping fuel handles known ((key, .empty) :: entries) rest
  | _ + 1, .blockEnd :: rest => some (.mapping entries.reverse, known, rest)
  | _, _ => none

/-- A value in a flow collection, which may be left out before what ends it. -/
def readFlowValue (fuel : Nat) (handles : Handles) (known : Known) (closing : Token)
    (tokens : List Token) : Reading :=
  match fuel, tokens with
  | 0, _ => none
  | fuel + 1, .colon :: rest =>
    if isNext rest [.comma, closing] then some (.empty, known, rest)
    else readNode fuel handles .flow known rest
  | _ + 1, tokens => some (.empty, known, tokens)

/-- The items of a flow list. An item with a colon is a mapping of one entry; where its key is left
out, the token that shows it counts for nothing. -/
def readFlowList (fuel : Nat) (handles : Handles) (known : Known) (items : List Node)
    (tokens : List Token) : Reading :=
  match fuel, tokens with
  | 0, _ => none
  | _ + 1, .closeBracket :: rest => some (.list items.reverse, known, rest)
  | fuel + 1, tokens => do
    let rest ← match items, tokens with
      | [], _ => some tokens
      | _, .comma :: rest => some rest
      | _, _ => none
    match rest with
    | .closeBracket :: rest => some (.list items.reverse, known, rest)
    | .key :: rest =>
      let (key, known, rest) ←
        if isNext rest [.colon, .comma, .closeBracket] then some (.empty, known, rest.drop 1)
        else readNode fuel handles .flow known rest
      let (value, known, rest) ← readFlowValue fuel handles known .closeBracket rest
      readFlowList fuel handles known (.mapping [(key, value)] :: items) rest
    | _ =>
      let (item, known, rest) ← readNode fuel handles .flow known rest
      readFlowList fuel handles known (item :: items) rest

def readFlowMapping (fuel : Nat) (handles : Handles) (known : Known)
    (entries : List (Node × Node)) (tokens : List Token) : Reading :=
  match fuel, tokens with
  | 0, _ => none
  | _ + 1, .closeBrace :: rest => some (.mapping entries.reverse, known, rest)
  | fuel + 1, tokens => do
    let rest ← match entries, tokens with
      | [], _ => some tokens
      | _, .comma :: rest => some rest
      | _, _ => none
    match rest with
    | .closeBrace :: rest => some (.mapping entries.reverse, known, rest)
    | .key :: rest =>
      let (key, known, rest) ←
        if isNext rest [.colon, .comma, .closeBrace] then some (.empty, known, rest)
        else readNode fuel handles .flow known rest
      let (value, known, rest) ← readFlowValue fuel handles known .closeBrace rest
      readFlowMapping fuel handles known ((key, value) :: entries) rest
    | _ =>
      let (key, known, rest) ← readNode fuel handles .flow known rest
      readFlowMapping fuel handles known ((key, .empty) :: entries) rest

end

/-- The directives before a document: a version that is understood, given at most once, and handles,
each introduced at most once. -/
def readDirectives (hasVersion : Bool) (handles : Handles) :
    List Token → Option (Handles × List Token)
  | .version major minor :: rest =>
    if hasVersion || major ≠ 1 || (minor ≠ 1 && minor ≠ 2) then none
    else readDirectives true handles rest
  | .handle name stem :: rest =>
    if (handles.lookup name).isSome then none
    else readDirectives hasVersion ((name, stem) :: handles) rest
  | tokens => some (handles ++ Handles.standard, tokens)

/-- What begins or ends a document, after which nothing need be written. -/
def isBoundary : List Token → Bool
  | [] | .version .. :: _ | .handle .. :: _ | .documentStart :: _ | .documentEnd :: _ => true
  | _ => false

def readExplicit (fuel : Nat) (tokens : List Token) : Option (Node × List Token) :=
  match readDirectives false [] tokens with
  | some (handles, .documentStart :: rest) =>
    if isBoundary rest then some (.empty, rest)
    else (readNode fuel handles .block [] rest).map fun (node, _, rest) => (node, rest)
  | _ => none

/-- A document. Only the first may begin without dashes. -/
def readDocument (fuel : Nat) (isFirst : Bool) (tokens : List Token) : Option (Node × List Token) :=
  match tokens with
  | .version .. :: _ | .handle .. :: _ | .documentStart :: _ => readExplicit fuel tokens
  | _ =>
    if isFirst then
      (readNode fuel .standard .block [] tokens).map fun (node, _, rest) => (node, rest)
    else none

def readDocuments (size : Nat) (documents : List Document) (tokens : List Token) :
    (fuel : Nat) → Option (List Document)
  | 0 => none
  | fuel + 1 =>
    match tokens.dropWhile (fun t => !documents.isEmpty && t = .documentEnd) with
    | [] => some documents.reverse
    | tokens =>
      match readDocument size documents.isEmpty tokens with
      | some (root, rest) => readDocuments size (.ofNode root :: documents) rest fuel
      | none => none

def documents? (text : String) : Option (List Document) :=
  (tokens? text).bind fun tokens =>
    readDocuments (4 * tokens.length + 4) [] tokens (tokens.length + 1)

def document? (text : String) : Option (Option Document) :=
  match documents? text with
  | some [] => some none
  | some [d] => some (some d)
  | _ => none

end NfsStorage.Yaml

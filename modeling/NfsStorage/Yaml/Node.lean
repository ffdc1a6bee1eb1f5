import NfsStorage.Yaml.Token

/-!
YAML documents as trees. An anchor is known by a number, which a later anchor may share: then it is
the last of them that the number names.
-/

namespace NfsStorage.Yaml

inductive Node where
  | scalar (text : String) (isPlain : Bool) (tag : Option Tag)
  | list (items : List Node)
  | mapping (entries : List (Node × Node))
  | anchored (id : Nat) (node : Node)
  | reference (id : Nat)
deriving Repr

namespace Node

/-- What stands where nothing is written. -/
def empty : Node := .scalar "" true none

instance : Inhabited Node := ⟨empty⟩

def content : Node → Node
  | anchored _ node => node
  | node => node

mutual

/-- The nodes that anchors name, in the order in which they begin. -/
def anchors : Node → List (Nat × Node)
  | anchored id node => (id, node) :: node.anchors
  | list items => anchorsOfItems items
  | mapping entries => anchorsOfEntries entries
  | _ => []

def anchorsOfItems : List Node → List (Nat × Node)
  | [] => []
  | item :: rest => item.anchors ++ anchorsOfItems rest

def anchorsOfEntries : List (Node × Node) → List (Nat × Node)
  | [] => []
  | (key, value) :: rest => key.anchors ++ value.anchors ++ anchorsOfEntries rest

end

end Node

structure Document where
  root : Node
  anchors : List (Nat × Node)
deriving Repr

namespace Document

def ofNode (root : Node) : Document := ⟨root, root.anchors⟩

/-- The node that is meant where one is written: an alias means what its anchor names. -/
def meant (d : Document) : Node → Node
  | .reference id => ((d.anchors.reverse.lookup id).getD .empty).content
  | node => node.content

def text? (d : Document) (node : Node) : Option String :=
  match d.meant node with
  | .scalar text _ _ => some text
  | _ => none

def nullTag : Tag := "tag:yaml.org,2002:null".toList

def isNullText (text : String) : Bool := ["~", "null", "Null", "NULL"].contains text

/-- A scalar as an optional text. A plain one may stand for nothing; one that is tagged as null has
to be null, and any other tag makes it a text. -/
def optionalText? (d : Document) (node : Node) : Option (Option String) :=
  match d.meant node with
  | .scalar text false _ => some (some text)
  | .scalar text true none => some (if text = "" || isNullText text then none else some text)
  | .scalar text true (some tag) =>
    if tag ≠ nullTag then some (some text)
    else if isNullText text then some none
    else none
  | _ => none

end Document

end NfsStorage.Yaml

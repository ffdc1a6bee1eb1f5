import NfsStorage.Resource.Workload
import NfsStorage.Selector
import NfsStorage.Store.Error

/-!
What the scheduler asks of the extender, what it is answered, and the errors it may be answered
with.
-/

namespace NfsStorage.Extender

open Json

structure NodeList where
  items : List Node := []
deriving DecidableEq

instance : JsonCodec NodeList where
  decode j := do
    let r ← Record.ofJson? ["items"] j
    return { items := ← r.orDefault "items" [] }
  encode l := .object (fieldOf "items" l.items)

instance : Shaped NodeList := ⟨.object .fixed [Shape.defaulted (List Node) "items"]⟩

/-- A question about a pod. The candidates are given by name or as whole nodes. -/
structure Question where
  pod : Option Pod := none
  nodes : Option NodeList := none
  nodeNames : Option (List String) := none
deriving DecidableEq

/-- The names may be written under either of two keys, but not under both. -/
def Question.ofJson? (j : Json) : Option Question := do
  let r ← Record.ofJson? ["pod", "nodes", "nodenames"] j
  return {
    pod := ← r.nullable ["pod"]
    nodes := ← r.nullable ["nodes"]
    nodeNames := ← r.nullable ["nodenames", "nodeNames"] }

instance : Shaped Question := ⟨.object .fixed [
  Shape.optional Pod "pod",
  Shape.optional NodeList "nodes",
  (⟨["nodenames", "nodeNames"], .nullable⟩, shape (Option (List String)))]⟩

inductive Error where
  | undecodable
  | missingPod
  | noNodes
  | getClaim («namespace» name : String) (cause : StoreError)
  | claimNotFound («namespace» name : String)
  | claimWithoutClass («namespace» name : String)
  | getStorageClass (name : String) (cause : StoreError)
  | storageClassNotFound (name : String)
  | getVolume (name : String) (cause : StoreError)
  | getDeclaration (name : String) (cause : StoreError)
  | declarationNotFound (name : String)
  | listNodes (cause : StoreError)
  | invalidSelector (declaration : String) (cause : SelectorError)
deriving DecidableEq, Repr

namespace Error

/-- The HTTP status of an error: 400 where the question is at fault. -/
def status : Error → Nat
  | undecodable | missingPod | noNodes | claimNotFound .. => 400
  | _ => 500

def claimText («namespace» name : String) : String :=
  "PersistentVolumeClaim " ++ «namespace» ++ "/" ++ name

instance : Fault Error where
  texts
    | undecodable => ["unable to decode the request", "the body holds no question"]
    | missingPod => ["no pod in the request"]
    | noNodes => ["no nodes provided"]
    | getClaim «namespace» name cause =>
      ("failed to get " ++ claimText «namespace» name) :: Fault.texts cause
    | claimNotFound «namespace» name => ["found no " ++ claimText «namespace» name]
    | claimWithoutClass «namespace» name => [claimText «namespace» name ++ " has no storage class"]
    | getStorageClass name cause => ("failed to get StorageClass " ++ name) :: Fault.texts cause
    | storageClassNotFound name => ["found no StorageClass " ++ name]
    | getVolume name cause => ("failed to get PersistentVolume " ++ name) :: Fault.texts cause
    | getDeclaration name cause => ("failed to get NFSStorageClass " ++ name) :: Fault.texts cause
    | declarationNotFound name => ["found no NFSStorageClass " ++ name]
    | listNodes cause => "failed to list nodes" :: Fault.texts cause
    | invalidSelector declaration cause =>
      ("NFSStorageClass " ++ declaration ++ " has an invalid node selector") :: Fault.texts cause

end Error

inductive Candidates where
  | names (names : List String)
  | nodes (nodes : List Node)
deriving DecidableEq

namespace Candidates

/-- Names win over nodes, and an empty list counts as none. -/
def ofQuestion (q : Question) : Except Error Candidates :=
  match q.nodeNames.filter (!·.isEmpty), q.nodes.filter (!·.items.isEmpty) with
  | some given, _ => .ok (.names given)
  | none, some given => .ok (.nodes given.items)
  | none, none => .error .noNodes

def nameList : Candidates → List String
  | names given => given
  | nodes given => given.map (·.name)

end Candidates

/-- Which candidates pass. Nodes are echoed if the candidates were given as nodes. -/
structure Verdict where
  nodes : Option NodeList
  nodeNames : List String
  failed : Dict String
deriving DecidableEq

namespace Verdict

def rejection : String := "node is not selected by user selectors"

def divide (passes : String → Bool) (candidates : Candidates) : Verdict :=
  { nodes := match candidates with
      | .names _ => none
      | .nodes given => some ⟨given.filter fun node => passes node.name⟩
    nodeNames := candidates.nameList.filter passes
    failed := Dict.ofList
      ((candidates.nameList.filter fun name => !passes name).map fun name => (name, rejection)) }

def toJson (v : Verdict) : Json :=
  .object (
    fieldOf? "nodes" v.nodes ++
    fieldOf "nodenames" v.nodeNames ++
    if v.failed.isEmpty then [] else fieldOf "failedNodes" v.failed)

end Verdict

structure Priority where
  host : String
  score : Int64
deriving DecidableEq

def Priority.toJson (p : Priority) : Json :=
  .object (fieldOf "host" p.host ++ fieldOf "score" p.score)

end NfsStorage.Extender

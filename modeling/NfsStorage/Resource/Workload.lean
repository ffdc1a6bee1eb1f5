import NfsStorage.Resource.Layout.Node
import NfsStorage.Resource.Layout.Pod
import NfsStorage.Resource.Metadata

/-!
Nodes and the pods bound to them.
-/

namespace NfsStorage

open Json

structure Node where
  metadata : Metadata := {}
  spec : Option (Kept Layout.nodeSpec) := none
  status : Option (Kept Layout.nodeStatus) := none
deriving DecidableEq

namespace Node

instance : Resource Node where
  decode j := do
    let m ← Members.ofJson? j
    m.constant "apiVersion" "v1"
    m.constant "kind" "Node"
    return {
      metadata := ← m.orDefault "metadata" {}
      spec := ← m.optional "spec"
      status := ← m.optional "status" }
  encode n := .object (
    fieldOf "apiVersion" "v1" ++
    fieldOf "kind" "Node" ++
    fieldOf "metadata" n.metadata ++
    fieldOf? "spec" n.spec ++
    fieldOf? "status" n.status)
  metadata := metadata
  withMetadata n m := { n with metadata := m }

instance : Shaped Node := ⟨.object .lenient [
  Shape.constant "apiVersion" "v1",
  Shape.constant "kind" "Node",
  Shape.member Metadata "metadata",
  Shape.member (Kept Layout.nodeSpec) "spec",
  Shape.member (Kept Layout.nodeStatus) "status"]⟩

def name (n : Node) : String := n.metadata.nameAny

end Node

structure ClaimReference where
  claimName : String := ""
  readOnly : Option Bool := none
deriving DecidableEq

instance : JsonCodec ClaimReference where
  decode j := do
    let m ← Members.ofJson? j
    return {
      claimName := ← m.orDefault "claimName" ""
      readOnly := ← m.optional "readOnly" }
  encode r := .object (fieldOf "claimName" r.claimName ++ fieldOf? "readOnly" r.readOnly)

instance : Shaped ClaimReference := ⟨.object .lenient [
  Shape.member String "claimName",
  Shape.member Bool "readOnly"]⟩

structure PodVolume where
  name : String := ""
  persistentVolumeClaim : Option ClaimReference := none
  rest : Rest Layout.podVolumeRest := default
deriving DecidableEq

instance : JsonCodec PodVolume where
  decode j := do
    let m ← Members.ofJson? j
    return {
      name := ← m.orDefault "name" ""
      persistentVolumeClaim := ← m.optional "persistentVolumeClaim"
      rest := ← decode j }
  encode v := .object (
    fieldOf "name" v.name ++
    fieldOf? "persistentVolumeClaim" v.persistentVolumeClaim ++
    v.rest.fields)

instance : Shaped PodVolume := ⟨.object .lenient ([
  Shape.member String "name",
  Shape.member ClaimReference "persistentVolumeClaim"] ++ Schema.toShapes Layout.podVolumeRest)⟩

abbrev Container := Kept Layout.container

structure PodSpec where
  nodeName : Option String := none
  containers : List Container := []
  volumes : Option (List PodVolume) := none
  rest : Rest Layout.podSpecRest := default
deriving DecidableEq

instance : JsonCodec PodSpec where
  decode j := do
    let m ← Members.ofJson? j
    return {
      nodeName := ← m.optional "nodeName"
      containers := ← m.orDefault "containers" []
      volumes := ← m.optional "volumes"
      rest := ← decode j }
  encode s := .object (
    fieldOf? "nodeName" s.nodeName ++
    fieldOf "containers" s.containers ++
    fieldOf? "volumes" s.volumes ++
    s.rest.fields)

instance : Shaped PodSpec := ⟨.object .lenient ([
  Shape.member String "nodeName",
  Shape.member (List Container) "containers",
  Shape.member (List PodVolume) "volumes"] ++ Schema.toShapes Layout.podSpecRest)⟩

structure Pod where
  metadata : Metadata := {}
  spec : Option PodSpec := none
  status : Option (Kept Layout.podStatus) := none
deriving DecidableEq

namespace Pod

instance : Resource Pod where
  decode j := do
    let m ← Members.ofJson? j
    m.constant "apiVersion" "v1"
    m.constant "kind" "Pod"
    return {
      metadata := ← m.orDefault "metadata" {}
      spec := ← m.optional "spec"
      status := ← m.optional "status" }
  encode p := .object (
    fieldOf "apiVersion" "v1" ++
    fieldOf "kind" "Pod" ++
    fieldOf "metadata" p.metadata ++
    fieldOf? "spec" p.spec ++
    fieldOf? "status" p.status)
  metadata := metadata
  withMetadata p m := { p with metadata := m }

instance : Shaped Pod := ⟨.object .lenient [
  Shape.constant "apiVersion" "v1",
  Shape.constant "kind" "Pod",
  Shape.member Metadata "metadata",
  Shape.member PodSpec "spec",
  Shape.member (Kept Layout.podStatus) "status"]⟩

def name (p : Pod) : String := p.metadata.nameAny

/-- The namespace of a pod, where a missing one counts as empty. -/
def «namespace» (p : Pod) : String := p.metadata.namespace.getD ""

def claimNames (p : Pod) : List String :=
  ((p.spec.bind (·.volumes)).getD []).filterMap fun volume =>
    volume.persistentVolumeClaim.map (·.claimName)

end Pod

end NfsStorage

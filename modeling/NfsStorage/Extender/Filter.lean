import NfsStorage.Data.NameSet
import NfsStorage.Extender.Basic
import NfsStorage.Resource.Names
import NfsStorage.Store.Program

/-!
A pod whose claims the NFS driver provisions may only run where the selectors of all declarations
behind those claims agree.
-/

namespace NfsStorage.Extender

/-- The provisioner that a claim is annotated with, in the current or the older spelling. -/
def annotatedProvisioner? (claim : Claim) : Option String :=
  [Names.provisionerAnnotation, Names.betaProvisionerAnnotation].findSome? fun key =>
    (claim.metadata.annotation? key).filter (· ≠ "")

def givenName? (name : Option String) : Option String := name.filter (· ≠ "")

def classProvisioner (claim : Claim) : Pass Error (Option String) :=
  match givenName? claim.storageClassName? with
  | none => pure none
  | some name => do
    let found ← Pass.request (.get .storageClasses name) (.getStorageClass name)
    return (found.map (·.provisioner)).filter (· ≠ "")

def volumeDriver (claim : Claim) : Pass Error (Option String) :=
  match givenName? claim.volumeName? with
  | none => pure none
  | some name => do
    let found ← Pass.request (.get .volumes name) (.getVolume name)
    return found.bind (·.driver?)

/-- Who provisions a claim: its annotations say so, or its storage class, or its volume. -/
def provisioner (claim : Claim) : Pass Error (Option String) :=
  match annotatedProvisioner? claim with
  | some name => pure (some name)
  | none => do
    match ← classProvisioner claim with
    | some name => return some name
    | none => volumeDriver claim

/-- Claims are looked for in the namespace of their pod. -/
def getClaim («namespace» name : String) : Pass Error Claim := do
  match ← Pass.request (.getIn .claims «namespace» name) (.getClaim «namespace» name) with
  | some claim => return claim
  | none => throw (.claimNotFound «namespace» name)

def declarationBehind («namespace» name : String) (claim : Claim) : Pass Error Declaration :=
  match givenName? claim.storageClassName? with
  | none => throw (.claimWithoutClass «namespace» name)
  | some className => do
    match ← Pass.request (.get .storageClasses className) (.getStorageClass className) with
    | none => throw (.storageClassNotFound className)
    | some storageClass =>
      let declaration := storageClass.name
      match ← Pass.request (.get .declarations declaration) (.getDeclaration declaration) with
      | none => throw (.declarationNotFound declaration)
      | some d => return d

/-- The declaration behind a claim, unless another driver provisions it. -/
def backing («namespace» name : String) : Pass Error (Option Declaration) := do
  let claim ← getClaim «namespace» name
  let driver ← provisioner claim
  if driver = some Names.nfsDriver then
    let d ← declarationBehind «namespace» name claim
    return some d
  else return none

/-- One declaration for each claim of the NFS driver, in the order of the claims. -/
def backingAll («namespace» : String) : List String → Pass Error (List Declaration)
  | [] => pure []
  | name :: rest => do
    let first ← backing «namespace» name
    let others ← backingAll «namespace» rest
    return first.toList ++ others

def selectedNames (d : Declaration) (nodes : List Node) : Except Error (List String) := do
  let chosen ← nodes.filterM fun node =>
    (d.nodeSelector.selects node.metadata.labels).mapError (Error.invalidSelector d.name)
  return chosen.map (·.name)

/-- The names of the nodes that all declarations select; without declarations there are none. -/
def admittedNames (declarations : List Declaration) (nodes : List Node) :
    Except Error (List String) := do
  let selections ← declarations.mapM fun d => selectedNames d nodes
  return match selections with
    | [] => []
    | first :: rest => sortedNames (first.filter fun name => rest.all (·.contains name))

/-- The test that candidates have to pass for a pod with these declarations behind its claims. -/
def admission (declarations : List Declaration) : Pass Error (String → Bool) :=
  if declarations.isEmpty then pure fun _ => true
  else do
    let nodes ← Pass.request (.list .nodes) .listNodes
    let admitted ← ExceptT.mk (pure (admittedNames declarations nodes))
    return fun name => admitted.contains name

def podOf (q : Question) : Except Error Pod :=
  match q.pod with
  | some pod => .ok pod
  | none => .error .missingPod

def filter (q : Question) : Pass Error Verdict := do
  let pod ← ExceptT.mk (pure (podOf q))
  let candidates ← ExceptT.mk (pure (Candidates.ofQuestion q))
  let declarations ← backingAll pod.namespace pod.claimNames
  let passes ← admission declarations
  return Verdict.divide passes candidates

/-- All candidates are equally good. -/
def prioritize (q : Question) : Except Error (List Priority) := do
  let _ ← podOf q
  let candidates ← Candidates.ofQuestion q
  return candidates.nameList.map fun host => ⟨host, 0⟩

end NfsStorage.Extender

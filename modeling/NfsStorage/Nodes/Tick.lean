import NfsStorage.Controller.Basic
import NfsStorage.Nodes.Plan
import NfsStorage.Store.Program
import NfsStorage.Store.Retry

/-!
One tick of the node controller: it reads the cluster, plans, and carries the plan out until the
first failure. Labels are added first, then removed, and pods are deleted last.
-/

namespace NfsStorage.NodeTick

open NodePlan

inductive Error where
  | listDeclarations (cause : StoreError)
  | listNodes (cause : StoreError)
  | listPods (cause : StoreError)
  | listClaims (cause : StoreError)
  | listSnapshots (cause : StoreError)
  | getLease (cause : StoreError)
  | updateNodeLabel (node : String) (cause : StoreError)
  | deletePod (pod : String) (cause : StoreError)
deriving DecidableEq, Repr

namespace Error

def category : Error → String
  | listDeclarations _ => "ListDeclarations"
  | listNodes _ => "ListNodes"
  | listPods _ => "ListPods"
  | listClaims _ => "ListClaims"
  | listSnapshots _ => "ListSnapshots"
  | getLease _ => "GetLease"
  | updateNodeLabel .. => "UpdateNodeLabel"
  | deletePod .. => "DeletePod"

def ownText : Error → String
  | listDeclarations _ => "failed to list NFSStorageClasses"
  | listNodes _ => "failed to list nodes"
  | listPods _ => "failed to list pods"
  | listClaims _ => "failed to list persistent volume claims"
  | listSnapshots _ => "failed to list volume snapshots"
  | getLease _ => "failed to get the snapshotter leader lease"
  | updateNodeLabel node _ => "failed to update the module label of node " ++ node
  | deletePod pod _ => "failed to delete pod " ++ pod

def cause : Error → StoreError
  | listDeclarations cause | listNodes cause | listPods cause | listClaims cause
  | listSnapshots cause | getLease cause | updateNodeLabel _ cause | deletePod _ cause => cause

instance : Fault Error := ⟨fun e => e.ownText :: Fault.texts e.cause⟩

end Error

/-- The lease that the snapshotter beside the active NFS controller holds. -/
def snapshotterLease : String := "external-snapshotter-leader-nfs-csi-k8s-io"

/-- Where snapshots are not known to the server there are none. -/
def listSnapshots : Pass Error (List Snapshot) :=
  ExceptT.mk do
    match ← Program.call (.list .snapshots) with
    | .ok snapshots => return .ok snapshots
    | .error e => return if e.isNotFound then .ok [] else .error (.listSnapshots e)

def observe : Pass Error Observation := do
  let snapshots ← listSnapshots
  let lease ← Pass.request (.get .leases snapshotterLease) .getLease
  let declarations ← Pass.request (.list .declarations) .listDeclarations
  let nodes ← Pass.request (.list .nodes) .listNodes
  let pods ← Pass.request (.list .pods) .listPods
  let claims ← Pass.request (.list .claims) .listClaims
  return {
    declarations, nodes, pods, claims, snapshots
    controllerNode := (lease.bind (·.spec)).bind (·.holderIdentity) }

/-- The node with the label set to the empty text, or without it. -/
def withLabel (node : Node) (present : Bool) : Node :=
  let labels := node.metadata.labels.getD ∅
  let labels := if present then labels.insert Names.nodeLabel "" else labels.erase Names.nodeLabel
  { node with metadata := { node.metadata with labels := some labels } }

def hasWantedLabel (node : Node) (present : Bool) : Bool :=
  if present then node.metadata.label? Names.nodeLabel = some ""
  else (node.metadata.label? Names.nodeLabel).isNone

/-- Read a node and write it back with the label as wanted, if it is not so already. -/
def labelOnce (name : String) (present : Bool) : Program (Except StoreError Unit) := do
  match ← Program.call (.get .nodes name) with
  | .error e => return .error e
  | .ok none => return .ok ()
  | .ok (some node) =>
    if hasWantedLabel node present then return .ok ()
    else
      let answer ← Program.call (.replace .nodes name (withLabel node present))
      return answer.map fun _ => ()

def setLabel (name : String) (present : Bool) : Program (Except StoreError Unit) :=
  retryOnConflict (fun ms => .sleep ms (.done ())) StoreError.isConflict (labelOnce name present)

def setLabels (present : Bool) : List String → Pass Error Unit
  | [] => pure ()
  | node :: rest => do
    ExceptT.mk do
      let answer ← setLabel node present
      return answer.mapError (Error.updateNodeLabel node)
    setLabels present rest

/-- The name in a reference of a pod: what follows the last slash. -/
def nameInReference (reference : String) : String :=
  String.ofList ((Text.splitAt '/' reference.toList).getLastD [])

def deletePods : List String → Pass Error Unit
  | [] => pure ()
  | pod :: rest => do
    Pass.request (.delete .modulePods (nameInReference pod)) (.deletePod pod)
    deletePods rest

def carryOut (plan : Plan) : Pass Error Unit := do
  setLabels true plan.toLabel
  setLabels false plan.toUnlabel
  deletePods plan.podsToDelete

def tick (op : Operator) : Pass Error Plan := do
  let o ← observe
  let plan := o.plan op.namespace
  carryOut plan
  return plan

end NfsStorage.NodeTick

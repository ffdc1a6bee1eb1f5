import NfsStorage.Data.NameSet
import NfsStorage.Resource.Declaration
import NfsStorage.Resource.Names
import NfsStorage.Resource.Snapshot
import NfsStorage.Resource.Storage
import NfsStorage.Resource.Workload
import NfsStorage.Selector

/-!
Which nodes carry the label of the module. A node is labelled when some declaration selects it. A
labelled node that is selected no more keeps the label while pods on it use NFS volumes, while the
active controller on it has work to finish, and while some selector could not be evaluated.
-/

namespace NfsStorage.NodePlan

/-- What a plan is made from. `controllerNode` is where the active NFS controller runs, as far as
that is known. -/
structure Observation where
  declarations : List Declaration := []
  nodes : List Node := []
  pods : List Pod := []
  claims : List Claim := []
  snapshots : List Snapshot := []
  controllerNode : Option String := none

inductive Protection where
  | nfsPods (pods : List String)
  | pendingControllerWork
  | unevaluatedSelectors
deriving DecidableEq, Repr

structure Plan where
  toLabel : List String
  toUnlabel : List String
  /-- Labelled nodes that no selector covers and that keep the label for now. -/
  kept : Dict Protection
  /-- Pods of the module, by namespace and name. -/
  podsToDelete : List String
  /-- Declarations whose selector is invalid. -/
  skipped : List String

def Plan.isEmpty (p : Plan) : Bool :=
  p.toLabel.isEmpty && p.toUnlabel.isEmpty && p.podsToDelete.isEmpty

namespace Observation

def liveDeclarations (o : Observation) : List Declaration :=
  o.declarations.filter fun d => !d.isDeleting

/-- The conditions of every valid selector. -/
def selectors (o : Observation) : List (List Condition) :=
  o.liveDeclarations.filterMap fun d => d.nodeSelector.conditions.toOption

def skipped (o : Observation) : List String :=
  (o.liveDeclarations.filter fun d => d.nodeSelector.conditions.toOption.isNone).map (·.name)

def isSelected (o : Observation) (node : Node) : Bool :=
  o.selectors.any fun conditions =>
    conditions.all (Condition.holds (node.metadata.labels.getD ∅))

def isLabelled (node : Node) : Bool := (node.metadata.label? Names.nodeLabel).isSome

def selectedNames (o : Observation) : List String :=
  sortedNames ((o.nodes.filter o.isSelected).map (·.name))

def labelledNames (o : Observation) : List String :=
  sortedNames ((o.nodes.filter isLabelled).map (·.name))

/-- Claims that the NFS driver provisioned are known by an annotation. -/
def isNfsClaim (claim : Claim) : Bool :=
  claim.metadata.annotation? Names.provisionerAnnotation = some Names.nfsDriver

/-- There is an NFS claim of this namespace and name; a missing namespace counts as empty. -/
def hasNfsClaim (o : Observation) («namespace» name : String) : Bool :=
  o.claims.any fun claim =>
    isNfsClaim claim && claim.metadata.namespace.getD "" = «namespace» && claim.name = name

def hasPendingSnapshot (o : Observation) : Bool :=
  o.snapshots.any fun snapshot =>
    !snapshot.isReady &&
      match snapshot.spec.source.persistentVolumeClaimName with
      | some claim => o.hasNfsClaim (snapshot.metadata.namespace.getD "") claim
      | none => false

def hasPendingClaim (o : Observation) : Bool :=
  o.claims.any fun claim => isNfsClaim claim && claim.phase? = some "Pending"

/-- The active controller may go: no NFS snapshot or claim waits for it. -/
def controllerRemovable (o : Observation) : Bool := !o.hasPendingSnapshot && !o.hasPendingClaim

def nodeOf? (pod : Pod) : Option String := (pod.spec.bind (·.nodeName)).filter (· ≠ "")

def usesNfsClaim (o : Observation) (pod : Pod) : Bool :=
  pod.claimNames.any (o.hasNfsClaim pod.namespace)

def isInNamespace («namespace» : String) (pod : Pod) : Bool :=
  pod.metadata.namespace = some «namespace»

def isControllerPod («namespace» : String) (pod : Pod) : Bool :=
  isInNamespace «namespace» pod && pod.metadata.label? "app" = some "csi-controller"

def podReference (pod : Pod) : String := pod.namespace ++ "/" ++ pod.name

def nfsPodsOn (o : Observation) (node : String) : List String :=
  (o.pods.filter fun pod => nodeOf? pod = some node && o.usesNfsClaim pod).map podReference

/-- The active controller runs on this node and is needed there. -/
def holdsController (o : Observation) («namespace» node : String) : Bool :=
  o.controllerNode = some node && !o.controllerRemovable &&
    o.pods.any fun pod => nodeOf? pod = some node && isControllerPod «namespace» pod

/-- Why a labelled node that is not selected keeps its label, if it does. -/
def protection? (o : Observation) («namespace» node : String) : Option Protection :=
  let pods := o.nfsPodsOn node
  if !pods.isEmpty then some (.nfsPods pods)
  else if o.holdsController «namespace» node then some .pendingControllerWork
  else if !o.skipped.isEmpty then some .unevaluatedSelectors
  else none

/-- Labelled nodes that no selector covers. -/
def leftovers (o : Observation) : List String :=
  o.labelledNames.filter fun node => !o.selectedNames.contains node

def keptNodes (o : Observation) («namespace» : String) : Dict Protection :=
  Dict.ofList (o.leftovers.filterMap fun node =>
    (o.protection? «namespace» node).map fun protection => (node, protection))

/-- A pod of the module that runs where the module no longer serves. -/
def isStray (o : Observation) («namespace» : String) (pod : Pod) : Bool :=
  isInNamespace «namespace» pod &&
    (match nodeOf? pod with
      | some node =>
        !(o.selectedNames.contains node || (o.keptNodes «namespace»).contains node)
      | none => false) &&
    (!isControllerPod «namespace» pod || o.controllerRemovable)

def plan (o : Observation) («namespace» : String) : Plan :=
  { toLabel := o.selectedNames.filter fun node => !o.labelledNames.contains node
    toUnlabel := o.leftovers.filter fun node => (o.protection? «namespace» node).isNone
    kept := o.keptNodes «namespace»
    podsToDelete := (o.pods.filter (o.isStray «namespace»)).map podReference
    skipped := o.skipped }

end Observation

end NfsStorage.NodePlan

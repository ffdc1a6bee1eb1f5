import NfsStorage.Store.Basic
import NfsStorage.Resource.Declaration
import NfsStorage.Resource.ModuleConfig
import NfsStorage.Resource.Snapshot
import NfsStorage.Resource.Storage
import NfsStorage.Resource.Workload
import NfsStorage.Resource.Lease

/-!
The stores of a cluster. A collection names a store and fixes the kind of its objects.

A store keeps its objects by their bare names, as `Store` does for every kind. Most collections hold
objects without a namespace, or those of the namespace of the controller. `pods`, `claims` and
`snapshots` hold objects of all namespaces, and so no two of the same name in different ones: which
namespace an object is in is read from its metadata only. Whatever goes by lists of objects, such as
a plan for the nodes, takes any lists, with names repeated across namespaces.
-/

namespace NfsStorage

/-- `pods` holds the pods of all namespaces, `modulePods` those of the controller's. -/
inductive Collection where
  | declarations | moduleConfigs | storageClasses | secrets | snapshotClasses | configMaps | nodes
  | pods | modulePods | claims | snapshots | leases | volumes
deriving DecidableEq, Repr

namespace Collection

def all : List Collection :=
  [declarations, moduleConfigs, storageClasses, secrets, snapshotClasses, configMaps, nodes, pods,
    modulePods, claims, snapshots, leases, volumes]

def name : Collection → String
  | declarations => "declarations"
  | moduleConfigs => "moduleConfigs"
  | storageClasses => "storageClasses"
  | secrets => "secrets"
  | snapshotClasses => "snapshotClasses"
  | configMaps => "configMaps"
  | nodes => "nodes"
  | pods => "pods"
  | modulePods => "modulePods"
  | claims => "claims"
  | snapshots => "snapshots"
  | leases => "leases"
  | volumes => "volumes"

def ofName? (name : String) : Option Collection := all.find? (·.name = name)

@[reducible]
def Object : Collection → Type
  | declarations => Declaration
  | moduleConfigs => ModuleConfig
  | storageClasses => StorageClass
  | secrets => Secret
  | snapshotClasses => SnapshotClass
  | configMaps => ConfigMap
  | nodes => Node
  | pods | modulePods => Pod
  | claims => Claim
  | snapshots => Snapshot
  | leases => Lease
  | volumes => Volume

@[reducible]
instance resource : (c : Collection) → Resource c.Object
  | declarations => inferInstanceAs (Resource Declaration)
  | moduleConfigs => inferInstanceAs (Resource ModuleConfig)
  | storageClasses => inferInstanceAs (Resource StorageClass)
  | secrets => inferInstanceAs (Resource Secret)
  | snapshotClasses => inferInstanceAs (Resource SnapshotClass)
  | configMaps => inferInstanceAs (Resource ConfigMap)
  | nodes => inferInstanceAs (Resource Node)
  | pods => inferInstanceAs (Resource Pod)
  | modulePods => inferInstanceAs (Resource Pod)
  | claims => inferInstanceAs (Resource Claim)
  | snapshots => inferInstanceAs (Resource Snapshot)
  | leases => inferInstanceAs (Resource Lease)
  | volumes => inferInstanceAs (Resource Volume)

end Collection

/-- The stores of a cluster, each with one object to a name in whatever namespace, and the time of the
server's clock. -/
structure Cluster where
  declarations : Store Declaration := {}
  moduleConfigs : Store ModuleConfig := {}
  storageClasses : Store StorageClass := {}
  secrets : Store Secret := {}
  snapshotClasses : Store SnapshotClass := {}
  configMaps : Store ConfigMap := {}
  nodes : Store Node := {}
  pods : Store Pod := {}
  modulePods : Store Pod := {}
  claims : Store Claim := {}
  snapshots : Store Snapshot := {}
  leases : Store Lease := {}
  volumes : Store Volume := {}
  clock : Time := ⟨⟨2024, 1, 1⟩, 0, 0, 0, 0⟩

namespace Cluster

def store (k : Cluster) : (c : Collection) → Store c.Object
  | .declarations => k.declarations
  | .moduleConfigs => k.moduleConfigs
  | .storageClasses => k.storageClasses
  | .secrets => k.secrets
  | .snapshotClasses => k.snapshotClasses
  | .configMaps => k.configMaps
  | .nodes => k.nodes
  | .pods => k.pods
  | .modulePods => k.modulePods
  | .claims => k.claims
  | .snapshots => k.snapshots
  | .leases => k.leases
  | .volumes => k.volumes

def setStore (k : Cluster) : (c : Collection) → Store c.Object → Cluster
  | .declarations, s => { k with declarations := s }
  | .moduleConfigs, s => { k with moduleConfigs := s }
  | .storageClasses, s => { k with storageClasses := s }
  | .secrets, s => { k with secrets := s }
  | .snapshotClasses, s => { k with snapshotClasses := s }
  | .configMaps, s => { k with configMaps := s }
  | .nodes, s => { k with nodes := s }
  | .pods, s => { k with pods := s }
  | .modulePods, s => { k with modulePods := s }
  | .claims, s => { k with claims := s }
  | .snapshots, s => { k with snapshots := s }
  | .leases, s => { k with leases := s }
  | .volumes, s => { k with volumes := s }

@[simp]
theorem store_setStore (k : Cluster) (c : Collection) (s : Store c.Object) :
    (k.setStore c s).store c = s := by
  cases c <;> rfl

theorem store_setStore_of_ne (k : Cluster) {c d : Collection} (s : Store c.Object)
    (different : d ≠ c) : (k.setStore c s).store d = k.store d := by
  cases c <;> cases d <;> first | rfl | exact absurd rfl different

end Cluster

end NfsStorage

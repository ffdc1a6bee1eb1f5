import NfsStorage.Derivation
import NfsStorage.Fault

/-!
How a live object is brought to its desired form. The decisions look at the objects alone; carrying
them out is the business of a pass.
-/

namespace NfsStorage

inductive Action where
  | keep
  | create
  | updateInPlace
  /-- Delete the live object once its finalizers are gone, then create it anew. -/
  | recreate
  | delete
  /-- The object belongs to another owner and is not touched. -/
  | skipForeign (owner : String)
deriving DecidableEq, Repr

def Action.text : Action → String
  | keep => "none"
  | create => "create"
  | updateInPlace => "update-in-place"
  | recreate => "recreate"
  | delete => "delete"
  | skipForeign _ => "skip-foreign"

structure ForeignSecret where
  name : String
deriving DecidableEq, Repr

instance : Fault ForeignSecret where
  texts error :=
    ["foreign-secret: secret " ++ error.name ++
      " has a different payload and is not managed by nfs-storage-class-controller"]

def Action.forAbsent (deleting : Bool) : Action := if deleting then .keep else .create

/-- Labels and annotations that others added are no difference. -/
def Metadata.covers (live desired : Metadata) : Bool :=
  (live.labels.getD ∅).extends? (desired.labels.getD ∅) &&
    (live.annotations.getD ∅).extends? (desired.annotations.getD ∅)

def Metadata.isManaged (m : Metadata) : Bool := m.label? Names.managedByLabel = some Names.operator

/-- The server lets nobody change these fields of a storage class. -/
def StorageClass.sameFixedFields (live desired : StorageClass) : Bool :=
  live.reclaimPolicy = desired.reclaimPolicy &&
    live.volumeBindingMode = desired.volumeBindingMode &&
    live.allowVolumeExpansion = desired.allowVolumeExpansion &&
    live.parameters.getD ∅ = desired.parameters.getD ∅

def StorageClass.action (live : Option StorageClass) (desired : StorageClass) (deleting : Bool) :
    Action :=
  match live with
  | none => .forAbsent deleting
  | some live =>
    if live.provisioner ≠ Names.nfsDriver then .skipForeign live.provisioner
    else if deleting then .delete
    else if !live.sameFixedFields desired then .recreate
    else if live.mountOptions.getD [] = desired.mountOptions.getD [] &&
        live.metadata.covers desired.metadata then .keep
    else .updateInPlace

def Secret.action (live : Option Secret) (desired : Secret) (deleting : Bool) :
    Except ForeignSecret Action :=
  match live with
  | none => .ok (.forAbsent deleting)
  | some live =>
    let samePayload : Bool := live.data.getD ∅ = desired.data.getD ∅
    match deleting, live.metadata.isManaged, samePayload with
    | true, true, _ => .ok .delete
    | true, false, _ => .ok (.skipForeign "unmanaged")
    | false, true, true => .ok .keep
    | false, true, false | false, false, true => .ok .updateInPlace
    | false, false, false => .error ⟨live.name⟩

def SnapshotClass.action (live : Option SnapshotClass) (desired : SnapshotClass)
    (deleting : Bool) : Action :=
  match live with
  | none => .forAbsent deleting
  | some live =>
    if live.driver ≠ Names.nfsDriver then .skipForeign live.driver
    else if deleting then .delete
    else if live.deletionPolicy = desired.deletionPolicy &&
        live.parameters.getD ∅ = desired.parameters.getD ∅ &&
        live.metadata.covers desired.metadata then .keep
    else .updateInPlace

end NfsStorage

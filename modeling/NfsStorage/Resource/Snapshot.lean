import NfsStorage.Resource.Declaration

/-!
Snapshots of volumes, and the classes that say how a driver takes and deletes them.
-/

namespace NfsStorage

open Json

inductive DeletionPolicy where
  | delete | retain
deriving DecidableEq, Repr

namespace DeletionPolicy

def text : DeletionPolicy → String
  | delete => "Delete"
  | retain => "Retain"

def ofText? : String → Option DeletionPolicy
  | "Delete" => some delete
  | "Retain" => some retain
  | _ => none

instance : JsonCodec DeletionPolicy := ⟨decodeName ofText?, fun p => .string p.text⟩

def ofReclaimPolicy : ReclaimPolicy → DeletionPolicy
  | .delete => delete
  | .retain => retain

end DeletionPolicy

/-- The one kind that keeps the version and kind it was given. -/
structure SnapshotClass where
  apiVersion : String := "snapshot.storage.k8s.io/v1"
  kind : String := "VolumeSnapshotClass"
  metadata : Metadata := {}
  driver : String
  deletionPolicy : DeletionPolicy
  parameters : Option (Dict String) := none
deriving DecidableEq

namespace SnapshotClass

instance : Resource SnapshotClass where
  decode j := do
    let r ← Record.ofJson?
      ["apiVersion", "kind", "metadata", "driver", "deletionPolicy", "parameters"] j
    return {
      apiVersion := ← r.orDefault "apiVersion" "snapshot.storage.k8s.io/v1"
      kind := ← r.orDefault "kind" "VolumeSnapshotClass"
      metadata := ← r.orDefault "metadata" {}
      driver := ← r.required "driver"
      deletionPolicy := ← r.required "deletionPolicy"
      parameters := ← r.optional "parameters" }
  encode c := .object (
    fieldOf "apiVersion" c.apiVersion ++
    fieldOf "kind" c.kind ++
    fieldOf "metadata" c.metadata ++
    fieldOf "driver" c.driver ++
    fieldOf "deletionPolicy" c.deletionPolicy ++
    fieldOf? "parameters" c.parameters)
  metadata := metadata
  withMetadata c m := { c with metadata := m }

def name (c : SnapshotClass) : String := c.metadata.nameAny

end SnapshotClass

structure SnapshotSource where
  persistentVolumeClaimName : Option String := none
  volumeSnapshotContentName : Option String := none
deriving DecidableEq

instance : JsonCodec SnapshotSource where
  decode j := do
    let r ← Record.ofJson? ["persistentVolumeClaimName", "volumeSnapshotContentName"] j
    return {
      persistentVolumeClaimName := ← r.optional "persistentVolumeClaimName"
      volumeSnapshotContentName := ← r.optional "volumeSnapshotContentName" }
  encode s := .object (
    fieldOf? "persistentVolumeClaimName" s.persistentVolumeClaimName ++
    fieldOf? "volumeSnapshotContentName" s.volumeSnapshotContentName)

structure SnapshotSpec where
  source : SnapshotSource := {}
  volumeSnapshotClassName : Option String := none
deriving DecidableEq

instance : JsonCodec SnapshotSpec where
  decode j := do
    let r ← Record.ofJson? ["source", "volumeSnapshotClassName"] j
    return {
      source := ← r.orDefault "source" {}
      volumeSnapshotClassName := ← r.optional "volumeSnapshotClassName" }
  encode s := .object (
    fieldOf "source" s.source ++
    fieldOf? "volumeSnapshotClassName" s.volumeSnapshotClassName)

structure SnapshotStatus where
  readyToUse : Option Bool := none
  boundVolumeSnapshotContentName : Option String := none
deriving DecidableEq

instance : JsonCodec SnapshotStatus where
  decode j := do
    let r ← Record.ofJson? ["readyToUse", "boundVolumeSnapshotContentName"] j
    return {
      readyToUse := ← r.optional "readyToUse"
      boundVolumeSnapshotContentName := ← r.optional "boundVolumeSnapshotContentName" }
  encode s := .object (
    fieldOf? "readyToUse" s.readyToUse ++
    fieldOf? "boundVolumeSnapshotContentName" s.boundVolumeSnapshotContentName)

structure Snapshot where
  metadata : Metadata
  spec : SnapshotSpec
  status : Option SnapshotStatus := none
deriving DecidableEq

namespace Snapshot

instance : Resource Snapshot where
  decode j := do
    let r ← Record.ofJson? ["metadata", "spec", "status"] j
    return {
      metadata := ← r.required "metadata"
      spec := ← r.required "spec"
      status := ← r.nullable ["status"] }
  encode s := .object (
    fieldOf "apiVersion" "snapshot.storage.k8s.io/v1" ++
    fieldOf "kind" "VolumeSnapshot" ++
    fieldOf "metadata" s.metadata ++
    fieldOf "spec" s.spec ++
    fieldOf? "status" s.status)
  metadata := metadata
  withMetadata s m := { s with metadata := m }

def isReady (s : Snapshot) : Bool := (s.status.bind (·.readyToUse)).getD false

end Snapshot

end NfsStorage

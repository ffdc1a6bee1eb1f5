import NfsStorage.Resource.Layout.Volume
import NfsStorage.Resource.Metadata
import NfsStorage.Text.Base64

/-!
The objects that mounting goes by: storage classes, the secrets and configuration maps beside them,
claims and volumes.
-/

namespace NfsStorage

open Json

structure StorageClass where
  metadata : Metadata := {}
  provisioner : String := ""
  parameters : Option (Dict String) := none
  mountOptions : Option (List String) := none
  reclaimPolicy : Option String := none
  volumeBindingMode : Option String := none
  allowVolumeExpansion : Option Bool := none
  allowedTopologies : Option (List (Kept Layout.topologySelectorTerm)) := none
deriving DecidableEq

namespace StorageClass

instance : Resource StorageClass where
  decode j := do
    let m ← Members.ofJson? j
    m.constant "apiVersion" "storage.k8s.io/v1"
    m.constant "kind" "StorageClass"
    return {
      metadata := ← m.orDefault "metadata" {}
      provisioner := ← m.orDefault "provisioner" ""
      parameters := ← m.optional "parameters"
      mountOptions := ← m.optional "mountOptions"
      reclaimPolicy := ← m.optional "reclaimPolicy"
      volumeBindingMode := ← m.optional "volumeBindingMode"
      allowVolumeExpansion := ← m.optional "allowVolumeExpansion"
      allowedTopologies := ← m.optional "allowedTopologies" }
  encode c := .object (
    fieldOf "apiVersion" "storage.k8s.io/v1" ++
    fieldOf "kind" "StorageClass" ++
    fieldOf "metadata" c.metadata ++
    fieldOf "provisioner" c.provisioner ++
    fieldOf? "parameters" c.parameters ++
    fieldOf? "mountOptions" c.mountOptions ++
    fieldOf? "reclaimPolicy" c.reclaimPolicy ++
    fieldOf? "volumeBindingMode" c.volumeBindingMode ++
    fieldOf? "allowVolumeExpansion" c.allowVolumeExpansion ++
    fieldOf? "allowedTopologies" c.allowedTopologies)
  metadata := metadata
  withMetadata c m := { c with metadata := m }

def name (c : StorageClass) : String := c.metadata.nameAny

end StorageClass

/-- Bytes are written in base64; null stands for no bytes. -/
instance : JsonCodec Bytes where
  decode
    | .string text => Base64.decode text.toList
    | .null => some []
    | _ => none
  encode bytes := .string (String.ofList (Base64.encode bytes))

structure Secret where
  metadata : Metadata := {}
  type : Option String := none
  data : Option (Dict Bytes) := none
  stringData : Option (Dict String) := none
  immutable : Option Bool := none
deriving DecidableEq

namespace Secret

/-- Entries given as text are kept as the bytes of the text, and win over entries given as bytes. -/
def foldStringData (s : Secret) : Secret :=
  match s.stringData with
  | none => s
  | some texts =>
    { s with
      data := some ((s.data.getD ∅).overlay (texts.map Bytes.ofText))
      stringData := none }

instance : Resource Secret where
  decode j := do
    let m ← Members.ofJson? j
    m.constant "apiVersion" "v1"
    m.constant "kind" "Secret"
    return {
      metadata := ← m.orDefault "metadata" {}
      type := ← m.optional "type"
      data := ← m.optional "data"
      stringData := ← m.optional "stringData"
      immutable := ← m.optional "immutable" }
  encode s := .object (
    fieldOf "apiVersion" "v1" ++
    fieldOf "kind" "Secret" ++
    fieldOf "metadata" s.metadata ++
    fieldOf? "type" s.type ++
    fieldOf? "data" s.data ++
    fieldOf? "stringData" s.stringData ++
    fieldOf? "immutable" s.immutable)
  metadata := metadata
  withMetadata s m := { s with metadata := m }
  settled := foldStringData

def name (s : Secret) : String := s.metadata.nameAny

end Secret

structure ConfigMap where
  metadata : Metadata := {}
  data : Option (Dict String) := none
  binaryData : Option (Dict Bytes) := none
  immutable : Option Bool := none
deriving DecidableEq

instance : Resource ConfigMap where
  decode j := do
    let m ← Members.ofJson? j
    m.constant "apiVersion" "v1"
    m.constant "kind" "ConfigMap"
    return {
      metadata := ← m.orDefault "metadata" {}
      data := ← m.optional "data"
      binaryData := ← m.optional "binaryData"
      immutable := ← m.optional "immutable" }
  encode c := .object (
    fieldOf "apiVersion" "v1" ++
    fieldOf "kind" "ConfigMap" ++
    fieldOf "metadata" c.metadata ++
    fieldOf? "data" c.data ++
    fieldOf? "binaryData" c.binaryData ++
    fieldOf? "immutable" c.immutable)
  metadata := ConfigMap.metadata
  withMetadata c m := { c with metadata := m }

structure ClaimSpec where
  storageClassName : Option String := none
  volumeName : Option String := none
  rest : Rest Layout.claimSpecRest := default
deriving DecidableEq

instance : JsonCodec ClaimSpec where
  decode j := do
    let m ← Members.ofJson? j
    return {
      storageClassName := ← m.optional "storageClassName"
      volumeName := ← m.optional "volumeName"
      rest := ← decode j }
  encode s := .object (
    fieldOf? "storageClassName" s.storageClassName ++
    fieldOf? "volumeName" s.volumeName ++
    s.rest.fields)

structure ClaimStatus where
  phase : Option String := none
  rest : Rest Layout.claimStatusRest := default
deriving DecidableEq

instance : JsonCodec ClaimStatus where
  decode j := do
    let m ← Members.ofJson? j
    return {
      phase := ← m.optional "phase"
      rest := ← decode j }
  encode s := .object (fieldOf? "phase" s.phase ++ s.rest.fields)

structure Claim where
  metadata : Metadata := {}
  spec : Option ClaimSpec := none
  status : Option ClaimStatus := none
deriving DecidableEq

namespace Claim

instance : Resource Claim where
  decode j := do
    let m ← Members.ofJson? j
    m.constant "apiVersion" "v1"
    m.constant "kind" "PersistentVolumeClaim"
    return {
      metadata := ← m.orDefault "metadata" {}
      spec := ← m.optional "spec"
      status := ← m.optional "status" }
  encode c := .object (
    fieldOf "apiVersion" "v1" ++
    fieldOf "kind" "PersistentVolumeClaim" ++
    fieldOf "metadata" c.metadata ++
    fieldOf? "spec" c.spec ++
    fieldOf? "status" c.status)
  metadata := metadata
  withMetadata c m := { c with metadata := m }

def name (c : Claim) : String := c.metadata.nameAny

def storageClassName? (c : Claim) : Option String := c.spec.bind (·.storageClassName)

def volumeName? (c : Claim) : Option String := c.spec.bind (·.volumeName)

def phase? (c : Claim) : Option String := c.status.bind (·.phase)

end Claim

structure CsiSource where
  driver : String := ""
  volumeHandle : String := ""
  rest : Rest Layout.csiSourceRest := default
deriving DecidableEq

instance : JsonCodec CsiSource where
  decode j := do
    let m ← Members.ofJson? j
    return {
      driver := ← m.orDefault "driver" ""
      volumeHandle := ← m.orDefault "volumeHandle" ""
      rest := ← decode j }
  encode s := .object (
    fieldOf "driver" s.driver ++ fieldOf "volumeHandle" s.volumeHandle ++ s.rest.fields)

structure VolumeSpec where
  csi : Option CsiSource := none
  rest : Rest Layout.volumeSpecRest := default
deriving DecidableEq

instance : JsonCodec VolumeSpec where
  decode j := do
    let m ← Members.ofJson? j
    return {
      csi := ← m.optional "csi"
      rest := ← decode j }
  encode s := .object (fieldOf? "csi" s.csi ++ s.rest.fields)

structure Volume where
  metadata : Metadata := {}
  spec : Option VolumeSpec := none
  status : Option (Kept Layout.volumeStatus) := none
deriving DecidableEq

namespace Volume

instance : Resource Volume where
  decode j := do
    let m ← Members.ofJson? j
    m.constant "apiVersion" "v1"
    m.constant "kind" "PersistentVolume"
    return {
      metadata := ← m.orDefault "metadata" {}
      spec := ← m.optional "spec"
      status := ← m.optional "status" }
  encode v := .object (
    fieldOf "apiVersion" "v1" ++
    fieldOf "kind" "PersistentVolume" ++
    fieldOf "metadata" v.metadata ++
    fieldOf? "spec" v.spec ++
    fieldOf? "status" v.status)
  metadata := metadata
  withMetadata v m := { v with metadata := m }

def driver? (v : Volume) : Option String := (v.spec.bind (·.csi)).map (·.driver)

end Volume

end NfsStorage

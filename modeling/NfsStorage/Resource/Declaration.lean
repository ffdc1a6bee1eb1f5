import NfsStorage.Resource.Metadata
import NfsStorage.Resource.LabelSelector

/-!
The declaration of an NFS storage class: where its volumes are exported and how they are mounted,
and in its status what became of it.
-/

namespace NfsStorage

open Json

inductive NfsVersion where
  | v3 | v41 | v42
deriving DecidableEq, Repr

namespace NfsVersion

def text : NfsVersion → String
  | v3 => "3"
  | v41 => "4.1"
  | v42 => "4.2"

def ofText? : String → Option NfsVersion
  | "3" => some v3
  | "4.1" => some v41
  | "4.2" => some v42
  | _ => none

instance : JsonCodec NfsVersion := ⟨decodeName ofText?, fun v => .string v.text⟩

instance : Shaped NfsVersion := ⟨.ofNames ofText?⟩

end NfsVersion

inductive MountMode where
  | hard | soft
deriving DecidableEq, Repr

namespace MountMode

def text : MountMode → String
  | hard => "hard"
  | soft => "soft"

def ofText? : String → Option MountMode
  | "hard" => some hard
  | "soft" => some soft
  | _ => none

instance : JsonCodec MountMode := ⟨decodeName ofText?, fun m => .string m.text⟩

instance : Shaped MountMode := ⟨.ofNames ofText?⟩

end MountMode

inductive ReclaimPolicy where
  | delete | retain
deriving DecidableEq, Repr

namespace ReclaimPolicy

def text : ReclaimPolicy → String
  | delete => "Delete"
  | retain => "Retain"

def ofText? : String → Option ReclaimPolicy
  | "Delete" => some delete
  | "Retain" => some retain
  | _ => none

instance : JsonCodec ReclaimPolicy := ⟨decodeName ofText?, fun p => .string p.text⟩

instance : Shaped ReclaimPolicy := ⟨.ofNames ofText?⟩

end ReclaimPolicy

inductive VolumeBindingMode where
  | immediate | waitForFirstConsumer
deriving DecidableEq, Repr

namespace VolumeBindingMode

def text : VolumeBindingMode → String
  | immediate => "Immediate"
  | waitForFirstConsumer => "WaitForFirstConsumer"

def ofText? : String → Option VolumeBindingMode
  | "Immediate" => some immediate
  | "WaitForFirstConsumer" => some waitForFirstConsumer
  | _ => none

instance : JsonCodec VolumeBindingMode := ⟨decodeName ofText?, fun m => .string m.text⟩

instance : Shaped VolumeBindingMode := ⟨.ofNames ofText?⟩

end VolumeBindingMode

inductive Phase where
  | created | failed
deriving DecidableEq, Repr

namespace Phase

def text : Phase → String
  | created => "Created"
  | failed => "Failed"

def ofText? : String → Option Phase
  | "Created" => some created
  | "Failed" => some failed
  | _ => none

instance : JsonCodec Phase := ⟨decodeName ofText?, fun p => .string p.text⟩

instance : Shaped Phase := ⟨.ofNames ofText?⟩

end Phase

structure Connection where
  host : String
  share : String
  nfsVersion : NfsVersion
  tls : Bool := false
  mtls : Bool := false
deriving DecidableEq

instance : JsonCodec Connection where
  decode j := do
    let r ← Record.ofJson? ["host", "share", "nfsVersion", "tls", "mtls"] j
    return {
      host := ← r.required "host"
      share := ← r.required "share"
      nfsVersion := ← r.required "nfsVersion"
      tls := ← r.orDefault "tls" false
      mtls := ← r.orDefault "mtls" false }
  encode c := .object (
    fieldOf "host" c.host ++
    fieldOf "share" c.share ++
    fieldOf "nfsVersion" c.nfsVersion ++
    fieldOf "tls" c.tls ++
    fieldOf "mtls" c.mtls)

instance : Shaped Connection := ⟨.object .fixed [
  Shape.required String "host",
  Shape.required String "share",
  Shape.required NfsVersion "nfsVersion",
  Shape.defaulted Bool "tls",
  Shape.defaulted Bool "mtls"]⟩

/-- Mount settings. The timeout is in tenths of a second. -/
structure MountOptions where
  mountMode : Option MountMode := none
  timeout : Option Int32 := none
  retransmissions : Option Int32 := none
  readOnly : Option Bool := none
deriving DecidableEq

instance : JsonCodec MountOptions where
  decode j := do
    let r ← Record.ofJson? ["mountMode", "timeout", "retransmissions", "readOnly"] j
    return {
      mountMode := ← r.optional "mountMode"
      timeout := ← r.optional "timeout"
      retransmissions := ← r.optional "retransmissions"
      readOnly := ← r.optional "readOnly" }
  encode o := .object (
    fieldOf? "mountMode" o.mountMode ++
    fieldOf? "timeout" o.timeout ++
    fieldOf? "retransmissions" o.retransmissions ++
    fieldOf? "readOnly" o.readOnly)

instance : Shaped MountOptions := ⟨.object .fixed [
  Shape.member MountMode "mountMode",
  Shape.member Int32 "timeout",
  Shape.member Int32 "retransmissions",
  Shape.member Bool "readOnly"]⟩

structure WorkloadNodes where
  nodeSelector : Option LabelSelector := none
deriving DecidableEq

instance : JsonCodec WorkloadNodes where
  decode j := do
    let r ← Record.ofJson? ["nodeSelector"] j
    return { nodeSelector := ← r.optional "nodeSelector" }
  encode w := .object (fieldOf? "nodeSelector" w.nodeSelector)

instance : Shaped WorkloadNodes := ⟨.object .fixed [Shape.member LabelSelector "nodeSelector"]⟩

structure DeclarationSpec where
  connection : Connection
  mountOptions : Option MountOptions := none
  chmodPermissions : Option String := none
  volumeCleanup : Option String := none
  reclaimPolicy : ReclaimPolicy
  volumeBindingMode : VolumeBindingMode
  workloadNodes : Option WorkloadNodes := none
deriving DecidableEq

instance : JsonCodec DeclarationSpec where
  decode j := do
    let r ← Record.ofJson? ["connection", "mountOptions", "chmodPermissions", "volumeCleanup",
      "reclaimPolicy", "volumeBindingMode", "workloadNodes"] j
    return {
      connection := ← r.required "connection"
      mountOptions := ← r.optional "mountOptions"
      chmodPermissions := ← r.optional "chmodPermissions"
      volumeCleanup := ← r.optional "volumeCleanup"
      reclaimPolicy := ← r.required "reclaimPolicy"
      volumeBindingMode := ← r.required "volumeBindingMode"
      workloadNodes := ← r.optional "workloadNodes" }
  encode s := .object (
    fieldOf "connection" s.connection ++
    fieldOf? "mountOptions" s.mountOptions ++
    fieldOf? "chmodPermissions" s.chmodPermissions ++
    fieldOf? "volumeCleanup" s.volumeCleanup ++
    fieldOf "reclaimPolicy" s.reclaimPolicy ++
    fieldOf "volumeBindingMode" s.volumeBindingMode ++
    fieldOf? "workloadNodes" s.workloadNodes)

instance : Shaped DeclarationSpec := ⟨.object .fixed [
  Shape.required Connection "connection",
  Shape.member MountOptions "mountOptions",
  Shape.member String "chmodPermissions",
  Shape.member String "volumeCleanup",
  Shape.required ReclaimPolicy "reclaimPolicy",
  Shape.required VolumeBindingMode "volumeBindingMode",
  Shape.member WorkloadNodes "workloadNodes"]⟩

structure DeclarationStatus where
  phase : Option Phase := none
  reason : Option String := none
deriving DecidableEq

namespace DeclarationStatus

instance : JsonCodec DeclarationStatus where
  decode j := do
    let r ← Record.ofJson? ["phase", "reason"] j
    return {
      phase := ← r.optional "phase"
      reason := ← r.optional "reason" }
  encode s := .object (fieldOf? "phase" s.phase ++ fieldOf? "reason" s.reason)

instance : Shaped DeclarationStatus := ⟨.object .fixed [
  Shape.member Phase "phase",
  Shape.member String "reason"]⟩

def created : DeclarationStatus := ⟨some .created, some ""⟩

def failed (reason : String) : DeclarationStatus := ⟨some .failed, some reason⟩

end DeclarationStatus

structure Declaration where
  metadata : Metadata
  spec : DeclarationSpec
  status : Option DeclarationStatus := none
deriving DecidableEq

namespace Declaration

instance : Resource Declaration where
  decode j := do
    let r ← Record.ofJson? ["metadata", "spec", "status"] j
    return {
      metadata := ← r.required "metadata"
      spec := ← r.required "spec"
      status := ← r.nullable ["status"] }
  encode d := .object (
    fieldOf "apiVersion" "storage.deckhouse.io/v1alpha1" ++
    fieldOf "kind" "NFSStorageClass" ++
    fieldOf "metadata" d.metadata ++
    fieldOf "spec" d.spec ++
    fieldOf? "status" d.status)
  metadata := metadata
  withMetadata d m := { d with metadata := m }

instance : Shaped Declaration := ⟨.object .fixed [
  Shape.required Metadata "metadata",
  Shape.required DeclarationSpec "spec",
  Shape.optional DeclarationStatus "status"]⟩

def name (d : Declaration) : String := d.metadata.nameAny

def isDeleting (d : Declaration) : Bool := d.metadata.isDeleting

def defaultNodeSelector : LabelSelector :=
  { matchLabels := some (Dict.ofList [("kubernetes.io/os", "linux")]) }

def nodeSelector (d : Declaration) : LabelSelector :=
  (d.spec.workloadNodes.bind (·.nodeSelector)).getD defaultNodeSelector

end Declaration

end NfsStorage

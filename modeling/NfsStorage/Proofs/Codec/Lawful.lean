import NfsStorage.Proofs.Codec.Base64
import NfsStorage.Proofs.Codec.Fields
import NfsStorage.Resource.ModuleConfig
import NfsStorage.Resource.Snapshot
import NfsStorage.Resource.Storage
import NfsStorage.Resource.Workload

/-!
# Codecs that lose nothing

Every value without a time in it is read back from what was written of it.
-/

namespace NfsStorage

open Json

instance : LawfulCodec Bytes where
  decode_encode bytes := by
    change Base64.decode (String.ofList (Base64.encode bytes)).toList = some bytes
    rw [String.toList_ofList, Base64.decode_encode]
  encode_ne_null _ := Json.noConfusion

instance : LawfulCodec NfsVersion :=
  ⟨fun version => by cases version <;> rfl, fun _ => Json.noConfusion⟩

instance : LawfulCodec MountMode := ⟨fun mode => by cases mode <;> rfl, fun _ => Json.noConfusion⟩

instance : LawfulCodec ReclaimPolicy :=
  ⟨fun policy => by cases policy <;> rfl, fun _ => Json.noConfusion⟩

instance : LawfulCodec DeletionPolicy :=
  ⟨fun policy => by cases policy <;> rfl, fun _ => Json.noConfusion⟩

instance : LawfulCodec VolumeBindingMode :=
  ⟨fun mode => by cases mode <;> rfl, fun _ => Json.noConfusion⟩

instance : LawfulCodec Phase := ⟨fun phase => by cases phase <;> rfl, fun _ => Json.noConfusion⟩

instance : LawfulCodec Requirement where
  decode_encode r := by
    simp only [decode, encode, Members.ofJson?, Option.bind_eq_bind, Option.bind_some]
    rw [Members.orDefault_of_values "key" r.key _ (by simp),
      Members.orDefault_of_values "operator" r.operator _ (by simp),
      Members.optional_of_values "values" r.values (by simp)]
    rfl
  encode_ne_null _ := Json.noConfusion

instance : LawfulCodec LabelSelector where
  decode_encode s := by
    simp only [decode, encode, Members.ofJson?, Option.bind_eq_bind, Option.bind_some]
    rw [Members.optional_of_values "matchExpressions" s.matchExpressions (by simp),
      Members.optional_of_values "matchLabels" s.matchLabels (by simp)]
    rfl
  encode_ne_null _ := Json.noConfusion

instance : LawfulCodec Connection where
  decode_encode c := by
    simp only [decode, encode, Record.ofJson?, Option.bind_eq_bind, Option.bind_some]
    rw [Record.required_of_values "host" c.host (by simp),
      Record.required_of_values "share" c.share (by simp),
      Record.required_of_values "nfsVersion" c.nfsVersion (by simp),
      Record.orDefault_of_values "tls" c.tls _ (by simp),
      Record.orDefault_of_values "mtls" c.mtls _ (by simp)]
    rfl
  encode_ne_null _ := Json.noConfusion

instance : LawfulCodec MountOptions where
  decode_encode o := by
    simp only [decode, encode, Record.ofJson?, Option.bind_eq_bind, Option.bind_some]
    rw [Record.optional_of_values "mountMode" o.mountMode (by simp),
      Record.optional_of_values "timeout" o.timeout (by simp),
      Record.optional_of_values "retransmissions" o.retransmissions (by simp),
      Record.optional_of_values "readOnly" o.readOnly (by simp)]
    rfl
  encode_ne_null _ := Json.noConfusion

instance : LawfulCodec WorkloadNodes where
  decode_encode w := by
    simp only [decode, encode, Record.ofJson?, Option.bind_eq_bind, Option.bind_some]
    rw [Record.optional_of_values "nodeSelector" w.nodeSelector (by simp)]
    rfl
  encode_ne_null _ := Json.noConfusion

instance : LawfulCodec DeclarationSpec where
  decode_encode s := by
    simp only [decode, encode, Record.ofJson?, Option.bind_eq_bind, Option.bind_some]
    rw [Record.required_of_values "connection" s.connection (by simp),
      Record.optional_of_values "mountOptions" s.mountOptions (by simp),
      Record.optional_of_values "chmodPermissions" s.chmodPermissions (by simp),
      Record.optional_of_values "volumeCleanup" s.volumeCleanup (by simp),
      Record.required_of_values "reclaimPolicy" s.reclaimPolicy (by simp),
      Record.required_of_values "volumeBindingMode" s.volumeBindingMode (by simp),
      Record.optional_of_values "workloadNodes" s.workloadNodes (by simp)]
    rfl
  encode_ne_null _ := Json.noConfusion

instance : LawfulCodec DeclarationStatus where
  decode_encode s := by
    simp only [decode, encode, Record.ofJson?, Option.bind_eq_bind, Option.bind_some]
    rw [Record.optional_of_values "phase" s.phase (by simp),
      Record.optional_of_values "reason" s.reason (by simp)]
    rfl
  encode_ne_null _ := Json.noConfusion

instance : LawfulCodec ClaimReference where
  decode_encode r := by
    simp only [decode, encode, Members.ofJson?, Option.bind_eq_bind, Option.bind_some]
    rw [Members.orDefault_of_values "claimName" r.claimName _ (by simp),
      Members.optional_of_values "readOnly" r.readOnly (by simp)]
    rfl
  encode_ne_null _ := Json.noConfusion

instance : LawfulCodec PodVolume where
  decode_encode v := by
    have apart : ∀ key ∈ Layout.podVolumeRest.map (·.1),
        "name" ≠ key ∧ "persistentVolumeClaim" ≠ key := by decide +kernel
    have name := v.rest.valuesAt_fields_of_unknown fun known => (apart _ known).1 rfl
    have claim := v.rest.valuesAt_fields_of_unknown fun known => (apart _ known).2 rfl
    simp only [decode, encode, Members.ofJson?, Option.bind_eq_bind, Option.bind_some]
    rw [Members.orDefault_of_values "name" v.name _ (by simp [name]),
      Members.optional_of_values "persistentVolumeClaim" v.persistentVolumeClaim (by simp [claim]),
      v.rest.ofJson?_of_values fun key known => by simp [apart key known]]
    rfl
  encode_ne_null _ := Json.noConfusion

instance : LawfulCodec PodSpec where
  decode_encode s := by
    have apart : ∀ key ∈ Layout.podSpecRest.map (·.1),
        "nodeName" ≠ key ∧ "containers" ≠ key ∧ "volumes" ≠ key := by decide +kernel
    have node := s.rest.valuesAt_fields_of_unknown fun known => (apart _ known).1 rfl
    have containers := s.rest.valuesAt_fields_of_unknown fun known => (apart _ known).2.1 rfl
    have volumes := s.rest.valuesAt_fields_of_unknown fun known => (apart _ known).2.2 rfl
    simp only [decode, encode, Members.ofJson?, Option.bind_eq_bind, Option.bind_some]
    rw [Members.optional_of_values "nodeName" s.nodeName (by simp [node]),
      Members.orDefault_of_values "containers" s.containers _ (by simp [containers]),
      Members.optional_of_values "volumes" s.volumes (by simp [volumes]),
      s.rest.ofJson?_of_values fun key known => by simp [apart key known]]
    rfl
  encode_ne_null _ := Json.noConfusion

instance : LawfulCodec ClaimSpec where
  decode_encode s := by
    have apart : ∀ key ∈ Layout.claimSpecRest.map (·.1),
        "storageClassName" ≠ key ∧ "volumeName" ≠ key := by decide +kernel
    have storageClass := s.rest.valuesAt_fields_of_unknown fun known => (apart _ known).1 rfl
    have volume := s.rest.valuesAt_fields_of_unknown fun known => (apart _ known).2 rfl
    simp only [decode, encode, Members.ofJson?, Option.bind_eq_bind, Option.bind_some]
    rw [Members.optional_of_values "storageClassName" s.storageClassName (by simp [storageClass]),
      Members.optional_of_values "volumeName" s.volumeName (by simp [volume]),
      s.rest.ofJson?_of_values fun key known => by simp [apart key known]]
    rfl
  encode_ne_null _ := Json.noConfusion

instance : LawfulCodec ClaimStatus where
  decode_encode s := by
    have apart : ∀ key ∈ Layout.claimStatusRest.map (·.1), "phase" ≠ key := by decide +kernel
    have phase := s.rest.valuesAt_fields_of_unknown fun known => apart _ known rfl
    simp only [decode, encode, Members.ofJson?, Option.bind_eq_bind, Option.bind_some]
    rw [Members.optional_of_values "phase" s.phase (by simp [phase]),
      s.rest.ofJson?_of_values fun key known => by simp [apart key known]]
    rfl
  encode_ne_null _ := Json.noConfusion

instance : LawfulCodec CsiSource where
  decode_encode s := by
    have apart : ∀ key ∈ Layout.csiSourceRest.map (·.1),
        "driver" ≠ key ∧ "volumeHandle" ≠ key := by decide +kernel
    have driver := s.rest.valuesAt_fields_of_unknown fun known => (apart _ known).1 rfl
    have handle := s.rest.valuesAt_fields_of_unknown fun known => (apart _ known).2 rfl
    simp only [decode, encode, Members.ofJson?, Option.bind_eq_bind, Option.bind_some]
    rw [Members.orDefault_of_values "driver" s.driver _ (by simp [driver]),
      Members.orDefault_of_values "volumeHandle" s.volumeHandle _ (by simp [handle]),
      s.rest.ofJson?_of_values fun key known => by simp [apart key known]]
    rfl
  encode_ne_null _ := Json.noConfusion

instance : LawfulCodec VolumeSpec where
  decode_encode s := by
    have apart : ∀ key ∈ Layout.volumeSpecRest.map (·.1), "csi" ≠ key := by decide +kernel
    have source := s.rest.valuesAt_fields_of_unknown fun known => apart _ known rfl
    simp only [decode, encode, Members.ofJson?, Option.bind_eq_bind, Option.bind_some]
    rw [Members.optional_of_values "csi" s.csi (by simp [source]),
      s.rest.ofJson?_of_values fun key known => by simp [apart key known]]
    rfl
  encode_ne_null _ := Json.noConfusion

instance : LawfulCodec SnapshotSource where
  decode_encode s := by
    simp only [decode, encode, Record.ofJson?, Option.bind_eq_bind, Option.bind_some]
    rw [Record.optional_of_values "persistentVolumeClaimName" s.persistentVolumeClaimName (by simp),
      Record.optional_of_values "volumeSnapshotContentName" s.volumeSnapshotContentName (by simp)]
    rfl
  encode_ne_null _ := Json.noConfusion

instance : LawfulCodec SnapshotSpec where
  decode_encode s := by
    simp only [decode, encode, Record.ofJson?, Option.bind_eq_bind, Option.bind_some]
    rw [Record.orDefault_of_values "source" s.source _ (by simp),
      Record.optional_of_values "volumeSnapshotClassName" s.volumeSnapshotClassName (by simp)]
    rfl
  encode_ne_null _ := Json.noConfusion

instance : LawfulCodec SnapshotStatus where
  decode_encode s := by
    simp only [decode, encode, Record.ofJson?, Option.bind_eq_bind, Option.bind_some]
    rw [Record.optional_of_values "readyToUse" s.readyToUse (by simp),
      Record.optional_of_values "boundVolumeSnapshotContentName" s.boundVolumeSnapshotContentName
        (by simp)]
    rfl
  encode_ne_null _ := Json.noConfusion

instance : LawfulCodec MtlsParameters where
  decode_encode p := by
    simp only [decode, encode, Record.ofJson?, Option.bind_eq_bind, Option.bind_some]
    rw [Record.optional_of_values "clientCert" p.clientCert (by simp),
      Record.optional_of_values "clientKey" p.clientKey (by simp)]
    rfl
  encode_ne_null _ := Json.noConfusion

instance : LawfulCodec TlsParameters where
  decode_encode p := by
    simp only [decode, encode, Record.ofJson?, Option.bind_eq_bind, Option.bind_some]
    rw [Record.optional_of_values "ca" p.ca (by simp),
      Record.optional_of_values "mtls" p.mtls (by simp)]
    rfl
  encode_ne_null _ := Json.noConfusion

end NfsStorage

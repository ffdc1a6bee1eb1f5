import NfsStorage.Proofs.Codec.Deletion
import NfsStorage.Proofs.Store.Versioned

/-!
# Metadata as a part of its own

An object of whatever kind is read part by part: fields that are the same but for the metadata are
read as the same object with other metadata. So what a patch of the metadata leads to is known from
the metadata alone, once it is known that what was written can be read again.
-/

namespace NfsStorage

open Json

section SpecAndStatus

variable {K α β : Type} [JsonCodec α] [JsonCodec β]

/-- What is read of an object that has a spec and a status beside its metadata. -/
def Json.Members.specAndStatus (version kind : String) (make : Metadata → Option α → Option β → K)
    (m : Members) : Option K := do
  m.constant "apiVersion" version
  m.constant "kind" kind
  return make (← m.orDefault "metadata" {}) (← m.optional "spec") (← m.optional "status")

theorem Json.Members.specAndStatus_congr {version kind : String}
    {make : Metadata → Option α → Option β → K} {setMetadata : K → Metadata → K}
    (sets : ∀ m spec status m', setMetadata (make m spec status) m' = make m' spec status)
    {fields fields' : List (String × Json)} {j : Json}
    (same : ∀ key, key ≠ "metadata" → valuesAt fields' key = valuesAt fields key)
    (single : valuesAt fields' "metadata" = [j]) (given : j ≠ .null) {object : K}
    (read : specAndStatus version kind make ⟨fields⟩ = some object) :
    specAndStatus version kind make ⟨fields'⟩ = (decode j).map (setMetadata object) := by
  generalize metadataRead : (decode j : Option Metadata) = result
  simp only [specAndStatus, Option.bind_eq_bind, Option.bind_eq_some_iff] at read ⊢
  obtain ⟨_, versionRead, _, kindRead, _, -, spec, specRead, status, statusRead, made⟩ := read
  cases made
  rw [Members.constant_congr (same "apiVersion" (by decide)), versionRead,
    Members.constant_congr (same "kind" (by decide)), kindRead,
    Members.orDefault_of_values_single _ single given, metadataRead,
    Members.optional_congr (same "spec" (by decide)), specRead,
    Members.optional_congr (same "status" (by decide)), statusRead]
  cases result with
  | none => rfl
  | some m => exact congrArg some (sets _ spec status m).symm

theorem Json.Members.specAndStatus_written [LawfulCodec α] [LawfulCodec β] (version kind : String)
    (make : Metadata → Option α → Option β → K) {m : Metadata} (timed : m.Timed)
    (spec : Option α) (status : Option β) :
    specAndStatus version kind make ⟨fieldOf "apiVersion" version ++ fieldOf "kind" kind ++
      fieldOf "metadata" m ++ fieldOf? "spec" spec ++ fieldOf? "status" status⟩ =
      some (make m.toSeconds spec status) := by
  simp only [specAndStatus, Option.bind_eq_bind]
  rw [Members.constant_of_values (by simp [encode]), Members.constant_of_values (by simp [encode]),
    Members.orDefault_of_values_single (j := encode m) _ (by simp) Json.noConfusion,
    Metadata.decode_encode timed, Members.optional_of_values "spec" spec (by simp),
    Members.optional_of_values "status" status (by simp)]
  rfl

end SpecAndStatus

section Parts

variable {fields fields' : List (String × Json)} {j : Json}
  (same : ∀ key, key ≠ "metadata" → valuesAt fields' key = valuesAt fields key)
  (single : valuesAt fields' "metadata" = [j])

include same single

theorem StorageClass.decode_of_metadata {c : StorageClass} (given : j ≠ .null)
    (read : decode (.object fields) = some c) :
    (decode (.object fields') : Option StorageClass) = (decode j).map (Resource.withMetadata c) := by
  generalize metadataRead : (decode j : Option Metadata) = result
  simp only [decode, Members.ofJson?, Option.bind_eq_bind, Option.bind_some,
    Option.bind_eq_some_iff] at read ⊢
  obtain ⟨_, version, _, kind, _, -, _, provisioner, _, parameters, _, options, _, policy,
    _, mode, _, expansion, _, topologies, made⟩ := read
  cases made
  rw [Members.constant_congr (same "apiVersion" (by decide)), version,
    Members.constant_congr (same "kind" (by decide)), kind,
    Members.orDefault_of_values_single _ single given, metadataRead,
    Members.orDefault_congr (same "provisioner" (by decide)), provisioner,
    Members.optional_congr (same "parameters" (by decide)), parameters,
    Members.optional_congr (same "mountOptions" (by decide)), options,
    Members.optional_congr (same "reclaimPolicy" (by decide)), policy,
    Members.optional_congr (same "volumeBindingMode" (by decide)), mode,
    Members.optional_congr (same "allowVolumeExpansion" (by decide)), expansion,
    Members.optional_congr (same "allowedTopologies" (by decide)), topologies]
  cases result <;> rfl

theorem Secret.decode_of_metadata {s : Secret} (given : j ≠ .null)
    (read : decode (.object fields) = some s) :
    (decode (.object fields') : Option Secret) = (decode j).map (Resource.withMetadata s) := by
  generalize metadataRead : (decode j : Option Metadata) = result
  simp only [decode, Members.ofJson?, Option.bind_eq_bind, Option.bind_some,
    Option.bind_eq_some_iff] at read ⊢
  obtain ⟨_, version, _, kind, _, -, _, type, _, data, _, texts, _, immutable, made⟩ := read
  cases made
  rw [Members.constant_congr (same "apiVersion" (by decide)), version,
    Members.constant_congr (same "kind" (by decide)), kind,
    Members.orDefault_of_values_single _ single given, metadataRead,
    Members.optional_congr (same "type" (by decide)), type,
    Members.optional_congr (same "data" (by decide)), data,
    Members.optional_congr (same "stringData" (by decide)), texts,
    Members.optional_congr (same "immutable" (by decide)), immutable]
  cases result <;> rfl

theorem ConfigMap.decode_of_metadata {c : ConfigMap} (given : j ≠ .null)
    (read : decode (.object fields) = some c) :
    (decode (.object fields') : Option ConfigMap) = (decode j).map (Resource.withMetadata c) := by
  generalize metadataRead : (decode j : Option Metadata) = result
  simp only [decode, Members.ofJson?, Option.bind_eq_bind, Option.bind_some,
    Option.bind_eq_some_iff] at read ⊢
  obtain ⟨_, version, _, kind, _, -, _, data, _, binary, _, immutable, made⟩ := read
  cases made
  rw [Members.constant_congr (same "apiVersion" (by decide)), version,
    Members.constant_congr (same "kind" (by decide)), kind,
    Members.orDefault_of_values_single _ single given, metadataRead,
    Members.optional_congr (same "data" (by decide)), data,
    Members.optional_congr (same "binaryData" (by decide)), binary,
    Members.optional_congr (same "immutable" (by decide)), immutable]
  cases result <;> rfl

theorem Lease.decode_of_metadata {l : Lease} (given : j ≠ .null)
    (read : decode (.object fields) = some l) :
    (decode (.object fields') : Option Lease) = (decode j).map (Resource.withMetadata l) := by
  generalize metadataRead : (decode j : Option Metadata) = result
  simp only [decode, Members.ofJson?, Option.bind_eq_bind, Option.bind_some,
    Option.bind_eq_some_iff] at read ⊢
  obtain ⟨_, version, _, kind, _, -, _, spec, made⟩ := read
  cases made
  rw [Members.constant_congr (same "apiVersion" (by decide)), version,
    Members.constant_congr (same "kind" (by decide)), kind,
    Members.orDefault_of_values_single _ single given, metadataRead,
    Members.optional_congr (same "spec" (by decide)), spec]
  cases result <;> rfl

theorem Declaration.decode_of_metadata {d : Declaration} (read : decode (.object fields) = some d) :
    (decode (.object fields') : Option Declaration) = (decode j).map (Resource.withMetadata d) := by
  generalize metadataRead : (decode j : Option Metadata) = result
  simp only [decode, Record.ofJson?, Option.bind_eq_bind, Option.bind_some,
    Option.bind_eq_some_iff] at read ⊢
  obtain ⟨_, -, _, spec, _, status, made⟩ := read
  cases made
  rw [Record.required_of_values_single single, metadataRead,
    Record.required_congr (same "spec" (by decide)), spec,
    Record.nullable_congr (same "status" (by decide)), status]
  cases result <;> rfl

theorem Snapshot.decode_of_metadata {s : Snapshot} (read : decode (.object fields) = some s) :
    (decode (.object fields') : Option Snapshot) = (decode j).map (Resource.withMetadata s) := by
  generalize metadataRead : (decode j : Option Metadata) = result
  simp only [decode, Record.ofJson?, Option.bind_eq_bind, Option.bind_some,
    Option.bind_eq_some_iff] at read ⊢
  obtain ⟨_, -, _, spec, _, status, made⟩ := read
  cases made
  rw [Record.required_of_values_single single, metadataRead,
    Record.required_congr (same "spec" (by decide)), spec,
    Record.nullable_congr (same "status" (by decide)), status]
  cases result <;> rfl

theorem ModuleConfig.decode_of_metadata {c : ModuleConfig}
    (read : decode (.object fields) = some c) :
    (decode (.object fields') : Option ModuleConfig) = (decode j).map (Resource.withMetadata c) := by
  generalize metadataRead : (decode j : Option Metadata) = result
  simp only [decode, Record.ofJson?, Option.bind_eq_bind, Option.bind_some,
    Option.bind_eq_some_iff] at read ⊢
  obtain ⟨_, -, _, spec, made⟩ := read
  cases made
  rw [Record.required_of_values_single single, metadataRead,
    Record.required_congr (same "spec" (by decide)), spec]
  cases result <;> rfl

theorem SnapshotClass.decode_of_metadata {c : SnapshotClass}
    (read : decode (.object fields) = some c) :
    (decode (.object fields') : Option SnapshotClass) = (decode j).map (Resource.withMetadata c) := by
  generalize metadataRead : (decode j : Option Metadata) = result
  simp only [decode, Record.ofJson?, Option.bind_eq_bind, Option.bind_some,
    Option.bind_eq_some_iff] at read ⊢
  obtain ⟨_, version, _, kind, _, -, _, driver, _, policy, _, parameters, made⟩ := read
  cases made
  rw [Record.orDefault_congr (same "apiVersion" (by decide)), version,
    Record.orDefault_congr (same "kind" (by decide)), kind,
    Record.orDefault_of_values_single _ single, metadataRead,
    Record.required_congr (same "driver" (by decide)), driver,
    Record.required_congr (same "deletionPolicy" (by decide)), policy,
    Record.optional_congr (same "parameters" (by decide)), parameters]
  cases result <;> rfl

/-- Fields that are the same but for the metadata are read as the same object with other
metadata. -/
theorem Collection.decode_of_metadata {c : Collection} {object : c.Object} (given : j ≠ .null)
    (read : decode (.object fields) = some object) :
    decode (.object fields') = (decode j).map (Resource.withMetadata object) := by
  cases c
  case declarations => exact Declaration.decode_of_metadata same single read
  case moduleConfigs => exact ModuleConfig.decode_of_metadata same single read
  case storageClasses => exact StorageClass.decode_of_metadata same single given read
  case secrets => exact Secret.decode_of_metadata same single given read
  case snapshotClasses => exact SnapshotClass.decode_of_metadata same single read
  case configMaps => exact ConfigMap.decode_of_metadata same single given read
  case snapshots => exact Snapshot.decode_of_metadata same single read
  case leases => exact Lease.decode_of_metadata same single given read
  case nodes | pods | modulePods | claims | volumes =>
    exact Members.specAndStatus_congr (fun _ _ _ _ => rfl) same single given read

end Parts

namespace Collection

variable {c : Collection}

theorem timed_of_decode {j : Json} {object : c.Object} (read : decode j = some object) :
    (Resource.metadata object).Timed := by
  cases c
  case declarations | storageClasses | secrets | snapshotClasses | configMaps =>
    exact LawfulResource.timed_of_decode read
  all_goals simp only [decode, Option.bind_eq_bind, Option.bind_eq_some_iff] at read
  case moduleConfigs =>
    obtain ⟨_, -, _, held, _, -, made⟩ := read
    cases made
    exact Metadata.timed_of_required held
  case snapshots =>
    obtain ⟨_, -, _, held, _, -, _, -, made⟩ := read
    cases made
    exact Metadata.timed_of_required held
  case nodes | pods | modulePods | claims | volumes =>
    obtain ⟨_, -, _, -, _, -, _, held, _, -, _, -, made⟩ := read
    cases made
    exact Metadata.timed_of_orDefault held
  case leases =>
    obtain ⟨_, -, _, -, _, -, _, held, _, -, made⟩ := read
    cases made
    exact Metadata.timed_of_orDefault held

@[simp]
theorem withMetadata_metadata (object : c.Object) :
    Resource.withMetadata object (Resource.metadata object) = object := by
  cases c <;> rfl

@[simp]
theorem withMetadata_withMetadata (object : c.Object) (m m' : Metadata) :
    Resource.withMetadata (Resource.withMetadata object m) m' = Resource.withMetadata object m' := by
  cases c <;> rfl

theorem encode_withMetadata (object : c.Object) (m : Metadata) :
    encode (Resource.withMetadata object m) =
      .object (setField "metadata" (encode m) (encode object).fields) := by
  cases c <;> simp [encode, Json.fields, Resource.withMetadata, fieldOf, setField]

/-- Read with other metadata, what was written of an object is the same object with these. -/
theorem decode_setMetadata {object again : c.Object} (read : decode (encode object) = some again)
    {j : Json} (given : j ≠ .null) :
    decode (.object (setField "metadata" j (encode object).fields)) =
      (decode j).map (Resource.withMetadata again) := by
  obtain ⟨fields, written, single⟩ := c.exists_encode_eq object
  rw [written] at read ⊢
  refine decode_of_metadata (fun key other => ?_) ?_ given read
  · rw [Json.fields, valuesAt_setField, if_neg other.symm]
  · rw [Json.fields, valuesAt_setField, if_pos rfl, single]
    rfl

theorem lookup_encode_metadata (object : c.Object) :
    (encode object).fields.lookup "metadata" = some (encode (Resource.metadata object)) := by
  cases c <;> rfl

theorem decode_merge_metadata {object again : c.Object}
    (read : decode (encode object) = some again) (patch : List (String × Json)) :
    decode (merge (encode object) (.object [("metadata", .object patch)])) =
      (decode (merge (encode (Resource.metadata object)) (.object patch))).map
        (Resource.withMetadata again) := by
  have laid : merge (encode object) (.object [("metadata", .object patch)]) =
      .object (setField "metadata" (merge (encode (Resource.metadata object)) (.object patch))
        (encode object).fields) := by
    rw [merge, mergeFields_value _ _ Json.noConfusion, lookup_encode_metadata, Option.getD_some]
  rw [laid, decode_setMetadata read (merge_object_ne_null _ _)]

end Collection

end NfsStorage

import NfsStorage.Proofs.Codec.Lawful
import NfsStorage.Proofs.Codec.Time
import NfsStorage.Proofs.Json.MergePatch
import NfsStorage.Store.Basic

/-!
# Patched objects

What becomes of an object when a merge patch is laid over its written form and the outcome is read
again. A patch of the metadata changes the metadata and nothing else, and within it only the fields
that it names; times lose their fraction on the way. `LawfulResource` gathers what the stores rely
on in a kind of object.
-/

namespace NfsStorage

open Json

namespace Json

theorem valuesAt_mergeFields_of_ne (target : List (String × Json)) {name key : String}
    (value : Json) (different : name ≠ key) :
    valuesAt (mergeFields target [(name, value)]) key = valuesAt target key := by
  by_cases absent : value = .null
  · subst absent
    rw [mergeFields_null, valuesAt_dropField, if_neg different]
  · rw [mergeFields_value target name absent, valuesAt_setField, if_neg different]

theorem merge_field {fields : List (String × Json)} {key : String} {old : Json}
    (found : fields.lookup key = some old) (patch : List (String × Json)) :
    merge (.object fields) (.object [(key, .object patch)]) =
      .object (setField key (merge old (.object patch)) fields) := by
  rw [merge, Json.fields, mergeFields_value _ _ Json.noConfusion, found, Option.getD_some]

theorem merge_object_ne_null (target : Json) (patch : List (String × Json)) :
    merge target (.object patch) ≠ .null := by
  rw [merge]
  exact Json.noConfusion

end Json

namespace Json.Record

theorem exists_merge_pair {α β : Type} [JsonCodec α] [LawfulCodec α] [JsonCodec β]
    [LawfulCodec β] {target : Json} {first second : String} (different : first ≠ second) {a : α}
    {b : β} (plain : (encode a).isObject = false ∧ (encode b).isObject = false)
    (once : (valuesAt target.fields first).tail = [] ∧ (valuesAt target.fields second).tail = []) :
    ∃ fields, merge target (.object [(first, encode a), (second, encode b)]) = .object fields ∧
      (Record.mk fields false).optional first = some (some a) ∧
      (Record.mk fields false).optional second = some (some b) := by
  refine ⟨setField second (encode b) (setField first (encode a) target.fields), ?_, ?_, ?_⟩
  · rw [merge, mergeFields_cons, mergeFields_value _ _ (encode_ne_null a), merge_of_plain _ plain.1,
      mergeFields_value _ _ (encode_ne_null b), merge_of_plain _ plain.2]
  · apply optional_of_values first (some a)
    simp [valuesAt_setField, once.1, different.symm]
  · apply optional_of_values second (some b)
    simp [valuesAt_setField, once.2, different]

theorem nullable_of_merge {α : Type} [JsonCodec α] [LawfulCodec α]
    {fields : List (String × Json)} {key : String} {old : Option α} {part : α}
    (values : valuesAt fields key = (old.map encode).toList)
    (isObject : ∃ parts, encode part = .object parts)
    (read : decode (merge ((old.map encode).getD .null) (encode part)) = some part) :
    ((Record.mk (mergeFields fields [(key, encode part)]) false).nullable [key] :
      Option (Option α)) = some (some part) := by
  have before : fields.lookup key = old.map encode := by
    rw [lookup_eq_head?_valuesAt, values]
    cases old <;> rfl
  have laid : valuesAt (mergeFields fields [(key, encode part)]) key =
      [merge ((old.map encode).getD .null) (encode part)] := by
    rw [mergeFields_value _ _ (encode_ne_null part), before, valuesAt_setField, if_pos rfl, values]
    cases old <;> rfl
  have given : merge ((old.map encode).getD .null) (encode part) ≠ .null := by
    obtain ⟨parts, written⟩ := isObject
    rw [written]
    exact merge_object_ne_null _ _
  rw [nullable, single_mk, laid]
  change decodeNullable _ = _
  rw [decodeNullable_of_ne_null given, read]
  rfl

end Json.Record

namespace Metadata

/-- The deletion was asked for at a time that a clock shows, if at all. -/
def Timed (m : Metadata) : Prop := ∀ t, m.deletionTimestamp = some t → t.Valid

def toSeconds (m : Metadata) : Metadata :=
  { m with deletionTimestamp := m.deletionTimestamp.map Time.toSeconds }

@[simp]
theorem isDeleting_toSeconds (m : Metadata) : m.toSeconds.isDeleting = m.isDeleting :=
  Option.isSome_map

theorem timed_toSeconds {m : Metadata} (timed : m.Timed) : m.toSeconds.Timed := by
  intro t found
  obtain ⟨u, asked, rfl⟩ := Option.map_eq_some_iff.mp found
  exact timed u asked

theorem optional_time {fields : List (String × Json)} {key : String} {time : Option Time}
    (valid : ∀ t, time = some t → t.Valid)
    (values : valuesAt fields key = (time.map encode).toList) :
    ((Members.mk fields).optional key : Option (Option Time)) =
      some (time.map Time.toSeconds) := by
  refine Members.optional_of_reread key time values (fun _ _ => Json.noConfusion) fun t asked => ?_
  exact Time.parse?_secondsText (valid t asked)

/-- Fields that are those of written metadata, the labels apart, are read as that metadata with
whatever the labels are read as. -/
theorem decode_object {fields : List (String × Json)} {m : Metadata} (timed : m.Timed)
    (same : ∀ key, key ≠ "labels" → valuesAt fields key = valuesAt (encode m).fields key) :
    (decode (.object fields) : Option Metadata) =
      ((Members.mk fields).optional "labels").map fun labels => { m.toSeconds with labels } := by
  have written : (encode m).fields = fieldOf? "name" m.name ++
      fieldOf? "generateName" m.generateName ++ fieldOf? "namespace" m.namespace ++
      fieldOf? "labels" m.labels ++ fieldOf? "annotations" m.annotations ++
      fieldOf? "finalizers" m.finalizers ++ fieldOf? "resourceVersion" m.resourceVersion ++
      fieldOf? "deletionTimestamp" m.deletionTimestamp ++ fieldOf? "generation" m.generation ++
      fieldOf? "uid" m.uid ++ fieldOf? "creationTimestamp" m.creationTimestamp ++
      fieldOf? "deletionGracePeriodSeconds" m.deletionGracePeriodSeconds ++
      fieldOf? "managedFields" m.managedFields ++
      fieldOf? "ownerReferences" m.ownerReferences ++ fieldOf? "selfLink" m.selfLink := rfl
  rw [written] at same
  dsimp only [decode, Members.ofJson?, Option.bind_eq_bind, Option.bind_some]
  rw [Members.optional_of_values "name" m.name (by rw [same _ (by decide)]; simp),
    Members.optional_of_values "generateName" m.generateName (by rw [same _ (by decide)]; simp),
    Members.optional_of_values "namespace" m.namespace (by rw [same _ (by decide)]; simp),
    Members.optional_of_values "annotations" m.annotations (by rw [same _ (by decide)]; simp),
    Members.optional_of_values "finalizers" m.finalizers (by rw [same _ (by decide)]; simp),
    Members.optional_of_values "resourceVersion" m.resourceVersion (by rw [same _ (by decide)]; simp),
    optional_time timed (by rw [same _ (by decide)]; simp),
    Members.optional_of_values "generation" m.generation (by rw [same _ (by decide)]; simp),
    Members.optional_of_values "uid" m.uid (by rw [same _ (by decide)]; simp),
    Members.optional_of_values "creationTimestamp" m.creationTimestamp
      (by rw [same _ (by decide)]; simp),
    Members.optional_of_values "deletionGracePeriodSeconds" m.deletionGracePeriodSeconds
      (by rw [same _ (by decide)]; simp),
    Members.optional_of_values "managedFields" m.managedFields (by rw [same _ (by decide)]; simp),
    Members.optional_of_values "ownerReferences" m.ownerReferences
      (by rw [same _ (by decide)]; simp),
    Members.optional_of_values "selfLink" m.selfLink (by rw [same _ (by decide)]; simp)]
  cases ((Members.mk fields).optional "labels" : Option (Option Labels)) <;> rfl

theorem decode_encode {m : Metadata} (timed : m.Timed) :
    (decode (encode m) : Option Metadata) = some m.toSeconds := by
  change decode (.object (encode m).fields) = _
  rw [decode_object timed fun _ _ => rfl,
    Members.optional_of_values "labels" m.labels (by simp [encode, Json.fields])]
  rfl

/-- The finalizers are those of the patch, and all else is as it was. -/
theorem decode_merge_finalizers {m : Metadata} (timed : m.Timed) (finalizers : List String) :
    (decode (merge (encode m) (.object [("finalizers",
      if finalizers.isEmpty then .null else encode finalizers)])) : Option Metadata) =
      some { m.toSeconds with
        finalizers := if finalizers.isEmpty then none else some finalizers } := by
  let patched : Metadata :=
    { m with finalizers := if finalizers.isEmpty then none else some finalizers }
  have same : ∀ key, valuesAt (mergeFields (encode m).fields [("finalizers",
      if finalizers.isEmpty then .null else encode finalizers)]) key =
        valuesAt (encode patched).fields key := by
    intro key
    by_cases here : "finalizers" = key
    · subst here
      by_cases none : finalizers.isEmpty = true
      · rw [if_pos none, mergeFields_null, valuesAt_dropField]
        simp [encode, Json.fields, patched, none]
      · rw [if_neg none, mergeFields_value _ _ (encode_ne_null finalizers), valuesAt_setField]
        cases held : m.finalizers <;>
          simp [encode, Json.fields, patched, none, held, merge]
    · rw [valuesAt_mergeFields_of_ne _ _ here]
      simp [encode, Json.fields, patched, here]
  rw [merge, decode_object (m := patched) timed fun key _ => same key,
    Members.optional_of_values "labels" m.labels (by rw [same]; simp [encode, Json.fields, patched])]
  rfl

theorem decode_merge_labels {m : Metadata} (timed : m.Timed) (change : Json) :
    ∃ read : Option (Option Labels),
      (decode (merge (encode m) (.object [("labels", change)])) : Option Metadata) =
        read.map fun labels => { m.toSeconds with labels } := by
  have same : ∀ key, key ≠ "labels" →
      valuesAt (mergeFields (encode m).fields [("labels", change)]) key =
        valuesAt (encode m).fields key := fun key different =>
    valuesAt_mergeFields_of_ne _ change different.symm
  rw [merge]
  exact ⟨_, decode_object timed same⟩

theorem deletionTimestamp_of_decode {fields : List (String × Json)} {m : Metadata}
    (read : decode (.object fields) = some m) :
    (Members.mk fields).optional "deletionTimestamp" = some m.deletionTimestamp := by
  obtain ⟨_, taken, read⟩ := Option.bind_eq_some_iff.mp read
  obtain rfl := Option.some.inj taken
  -- Seven fields are read before the time, and seven after it.
  iterate 7 obtain ⟨_, -, read⟩ := Option.bind_eq_some_iff.mp read
  obtain ⟨_, timeRead, read⟩ := Option.bind_eq_some_iff.mp read
  iterate 7 obtain ⟨_, -, read⟩ := Option.bind_eq_some_iff.mp read
  obtain rfl := Option.some.inj read
  exact timeRead

theorem timed_of_decode {j : Json} {m : Metadata} (read : decode j = some m) : m.Timed := by
  cases j with
  | object fields =>
      intro t asked
      have timeRead := deletionTimestamp_of_decode read
      rw [asked] at timeRead
      obtain ⟨written, timeOf⟩ := Members.exists_decode_of_optional timeRead
      cases written with
      | string text => exact Time.valid_of_parse? timeOf
      | _ => exact nomatch timeOf
  | _ => exact nomatch read

theorem timed_default : ({} : Metadata).Timed := fun _ asked => nomatch asked

theorem timed_of_orDefault {members : Members} {key : String} {m : Metadata}
    (read : members.orDefault key {} = some m) : m.Timed := by
  rcases Members.decode_of_orDefault read with rfl | ⟨_, decoded⟩
  · exact timed_default
  · exact timed_of_decode decoded

theorem timed_of_required {record : Record} {key : String} {m : Metadata}
    (read : record.required key = some m) : m.Timed := by
  obtain ⟨_, decoded⟩ := Record.exists_decode_of_required read
  exact timed_of_decode decoded

end Metadata

/-- What the stores rely on in a kind of object: the metadata is a part of its own, the settled form
leaves it alone, and a patch of the metadata is a patch of that part. -/
class LawfulResource (K : Type) [Resource K] : Prop where
  metadata_withMetadata : ∀ (object : K) (m : Metadata),
    Resource.metadata (Resource.withMetadata object m) = m
  withMetadata_metadata : ∀ object : K,
    Resource.withMetadata object (Resource.metadata object) = object
  withMetadata_withMetadata : ∀ (object : K) (m m' : Metadata),
    Resource.withMetadata (Resource.withMetadata object m) m' = Resource.withMetadata object m'
  settled_withMetadata : ∀ (object : K) (m : Metadata),
    Resource.settled (Resource.withMetadata object m) =
      Resource.withMetadata (Resource.settled object) m
  decode_merge_metadata : ∀ (object : K) (patch : List (String × Json)),
    (decode (merge (encode object) (.object [("metadata", .object patch)])) : Option K) =
      (decode (merge (encode (Resource.metadata object)) (.object patch)) : Option Metadata).map
        (Resource.withMetadata object)
  timed_of_decode : ∀ {j : Json} {object : K}, decode j = some object →
    (Resource.metadata object).Timed

namespace Resource

export LawfulResource (metadata_withMetadata withMetadata_metadata withMetadata_withMetadata
  settled_withMetadata)

attribute [simp] metadata_withMetadata withMetadata_metadata withMetadata_withMetadata
  settled_withMetadata

variable {K : Type} [Resource K] [LawfulResource K]

@[simp]
theorem metadata_settled (object : K) : metadata (settled object) = metadata object := by
  have whole := settled_withMetadata object (metadata object)
  rw [withMetadata_metadata] at whole
  rw [whole, metadata_withMetadata]

def heldBy (object : K) (finalizers : List String) : K :=
  withMetadata object { (metadata object).toSeconds with
    finalizers := if finalizers.isEmpty then none else some finalizers }

theorem decode_finalizersPatch {object : K} (timed : (metadata object).Timed)
    (finalizers : List String) :
    (decode (merge (encode object) (finalizersPatch finalizers)) : Option K) =
      some (heldBy object finalizers) := by
  rw [finalizersPatch, LawfulResource.decode_merge_metadata,
    Metadata.decode_merge_finalizers timed]
  rfl

@[simp]
theorem metadata_heldBy (object : K) (finalizers : List String) :
    metadata (heldBy object finalizers) = { (metadata object).toSeconds with
      finalizers := if finalizers.isEmpty then none else some finalizers } :=
  metadata_withMetadata _ _

@[simp]
theorem finalizerList_heldBy (object : K) (finalizers : List String) :
    (metadata (heldBy object finalizers)).finalizerList = finalizers := by
  rw [metadata_heldBy]
  cases finalizers <;> rfl

@[simp]
theorem name_heldBy (object : K) (finalizers : List String) :
    name (heldBy object finalizers) = name object := by
  rw [name, metadata_heldBy]
  rfl

theorem timed_heldBy {object : K} (timed : (metadata object).Timed) (finalizers : List String) :
    (metadata (heldBy object finalizers)).Timed := by
  rw [metadata_heldBy]
  exact Metadata.timed_toSeconds timed

theorem decode_labelsPatch {object patched : K} (timed : (metadata object).Timed) {change : Json}
    (read : decode (merge (encode object)
      (.object [("metadata", .object [("labels", change)])])) = some patched) :
    ∃ labels, patched = withMetadata object { (metadata object).toSeconds with labels } := by
  obtain ⟨labels, merged⟩ := Metadata.decode_merge_labels timed change
  rw [LawfulResource.decode_merge_metadata, merged, Option.map_map] at read
  obtain ⟨labels, -, made⟩ := Option.map_eq_some_iff.mp read
  exact ⟨labels, made.symm⟩

end Resource

section Kinds

theorem StorageClass.decode_setMetadata (c : StorageClass) {j : Json} (given : j ≠ .null) :
    (decode (.object (setField "metadata" j (encode c).fields)) : Option StorageClass) =
      (decode j).map fun m => { c with metadata := m } := by
  generalize read : (decode j : Option Metadata) = result
  simp only [decode, Members.ofJson?, encode, Json.fields, Option.bind_eq_bind, Option.bind_some]
  rw [Members.constant_of_values (by simp [valuesAt_setField, encode]),
    Members.constant_of_values (by simp [valuesAt_setField, encode]),
    Members.orDefault_of_values_single _ (by simp [valuesAt_setField]) given, read,
    Members.orDefault_of_values "provisioner" c.provisioner _ (by simp [valuesAt_setField]),
    Members.optional_of_values "parameters" c.parameters (by simp [valuesAt_setField]),
    Members.optional_of_values "mountOptions" c.mountOptions (by simp [valuesAt_setField]),
    Members.optional_of_values "reclaimPolicy" c.reclaimPolicy (by simp [valuesAt_setField]),
    Members.optional_of_values "volumeBindingMode" c.volumeBindingMode
      (by simp [valuesAt_setField]),
    Members.optional_of_values "allowVolumeExpansion" c.allowVolumeExpansion
      (by simp [valuesAt_setField]),
    Members.optional_of_values "allowedTopologies" c.allowedTopologies
      (by simp [valuesAt_setField])]
  cases result <;> rfl

theorem StorageClass.timed_of_decode {j : Json} {c : StorageClass} (read : decode j = some c) :
    c.metadata.Timed := by
  simp only [decode, Option.bind_eq_bind, Option.bind_eq_some_iff] at read
  obtain ⟨_, -, _, -, _, -, m, metadataRead, _, -, _, -, _, -, _, -, _, -, _, -, _, -, made⟩ := read
  obtain rfl := Option.some.inj made
  exact Metadata.timed_of_orDefault metadataRead

instance : LawfulResource StorageClass where
  metadata_withMetadata _ _ := rfl
  withMetadata_metadata _ := rfl
  withMetadata_withMetadata _ _ _ := rfl
  settled_withMetadata _ _ := rfl
  decode_merge_metadata c patch := by
    have found : (encode c).fields.lookup "metadata" = some (encode c.metadata) := rfl
    exact (congrArg decode (merge_field found patch)).trans
      (c.decode_setMetadata (merge_object_ne_null _ _))
  timed_of_decode := StorageClass.timed_of_decode

theorem Secret.decode_setMetadata (s : Secret) {j : Json} (given : j ≠ .null) :
    (decode (.object (setField "metadata" j (encode s).fields)) : Option Secret) =
      (decode j).map fun m => { s with metadata := m } := by
  generalize read : (decode j : Option Metadata) = result
  simp only [decode, Members.ofJson?, encode, Json.fields, Option.bind_eq_bind, Option.bind_some]
  rw [Members.constant_of_values (by simp [valuesAt_setField, encode]),
    Members.constant_of_values (by simp [valuesAt_setField, encode]),
    Members.orDefault_of_values_single _ (by simp [valuesAt_setField]) given, read,
    Members.optional_of_values "type" s.type (by simp [valuesAt_setField]),
    Members.optional_of_values "data" s.data (by simp [valuesAt_setField]),
    Members.optional_of_values "stringData" s.stringData (by simp [valuesAt_setField]),
    Members.optional_of_values "immutable" s.immutable (by simp [valuesAt_setField])]
  cases result <;> rfl

theorem Secret.timed_of_decode {j : Json} {s : Secret} (read : decode j = some s) :
    s.metadata.Timed := by
  simp only [decode, Option.bind_eq_bind, Option.bind_eq_some_iff] at read
  obtain ⟨_, -, _, -, _, -, m, metadataRead, _, -, _, -, _, -, _, -, made⟩ := read
  obtain rfl := Option.some.inj made
  exact Metadata.timed_of_orDefault metadataRead

instance : LawfulResource Secret where
  metadata_withMetadata _ _ := rfl
  withMetadata_metadata _ := rfl
  withMetadata_withMetadata _ _ _ := rfl
  settled_withMetadata s m := by
    change Secret.foldStringData { s with metadata := m } =
      { s.foldStringData with metadata := m }
    unfold Secret.foldStringData
    rcases s with ⟨_, _, _, _ | _, _⟩ <;> rfl
  decode_merge_metadata s patch := by
    have found : (encode s).fields.lookup "metadata" = some (encode s.metadata) := rfl
    exact (congrArg decode (merge_field found patch)).trans
      (s.decode_setMetadata (merge_object_ne_null _ _))
  timed_of_decode := Secret.timed_of_decode

theorem ConfigMap.decode_setMetadata (c : ConfigMap) {j : Json} (given : j ≠ .null) :
    (decode (.object (setField "metadata" j (encode c).fields)) : Option ConfigMap) =
      (decode j).map fun m => { c with metadata := m } := by
  generalize read : (decode j : Option Metadata) = result
  simp only [decode, Members.ofJson?, encode, Json.fields, Option.bind_eq_bind, Option.bind_some]
  rw [Members.constant_of_values (by simp [valuesAt_setField, encode]),
    Members.constant_of_values (by simp [valuesAt_setField, encode]),
    Members.orDefault_of_values_single _ (by simp [valuesAt_setField]) given, read,
    Members.optional_of_values "data" c.data (by simp [valuesAt_setField]),
    Members.optional_of_values "binaryData" c.binaryData (by simp [valuesAt_setField]),
    Members.optional_of_values "immutable" c.immutable (by simp [valuesAt_setField])]
  cases result <;> rfl

theorem ConfigMap.timed_of_decode {j : Json} {c : ConfigMap} (read : decode j = some c) :
    c.metadata.Timed := by
  simp only [decode, Option.bind_eq_bind, Option.bind_eq_some_iff] at read
  obtain ⟨_, -, _, -, _, -, m, metadataRead, _, -, _, -, _, -, made⟩ := read
  obtain rfl := Option.some.inj made
  exact Metadata.timed_of_orDefault metadataRead

instance : LawfulResource ConfigMap where
  metadata_withMetadata _ _ := rfl
  withMetadata_metadata _ := rfl
  withMetadata_withMetadata _ _ _ := rfl
  settled_withMetadata _ _ := rfl
  decode_merge_metadata c patch := by
    have found : (encode c).fields.lookup "metadata" = some (encode c.metadata) := rfl
    exact (congrArg decode (merge_field found patch)).trans
      (c.decode_setMetadata (merge_object_ne_null _ _))
  timed_of_decode := ConfigMap.timed_of_decode

theorem SnapshotClass.decode_setMetadata (c : SnapshotClass) (j : Json) :
    (decode (.object (setField "metadata" j (encode c).fields)) : Option SnapshotClass) =
      (decode j).map fun m => { c with metadata := m } := by
  generalize read : (decode j : Option Metadata) = result
  simp only [decode, Record.ofJson?, encode, Json.fields, Option.bind_eq_bind, Option.bind_some]
  rw [Record.orDefault_of_values "apiVersion" c.apiVersion _ (by simp [valuesAt_setField]),
    Record.orDefault_of_values "kind" c.kind _ (by simp [valuesAt_setField]),
    Record.orDefault_of_values_single (j := j) _ (by simp [valuesAt_setField]), read,
    Record.required_of_values "driver" c.driver (by simp [valuesAt_setField]),
    Record.required_of_values "deletionPolicy" c.deletionPolicy (by simp [valuesAt_setField]),
    Record.optional_of_values "parameters" c.parameters (by simp [valuesAt_setField])]
  cases result <;> rfl

theorem SnapshotClass.timed_of_decode {j : Json} {c : SnapshotClass} (read : decode j = some c) :
    c.metadata.Timed := by
  simp only [decode, Option.bind_eq_bind, Option.bind_eq_some_iff] at read
  obtain ⟨_, -, _, -, _, -, m, metadataRead, _, -, _, -, _, -, made⟩ := read
  obtain rfl := Option.some.inj made
  rcases Record.decode_of_orDefault metadataRead with rfl | ⟨_, decoded⟩
  · exact Metadata.timed_default
  · exact Metadata.timed_of_decode decoded

instance : LawfulResource SnapshotClass where
  metadata_withMetadata _ _ := rfl
  withMetadata_metadata _ := rfl
  withMetadata_withMetadata _ _ _ := rfl
  settled_withMetadata _ _ := rfl
  decode_merge_metadata c patch := by
    have found : (encode c).fields.lookup "metadata" = some (encode c.metadata) := rfl
    exact (congrArg decode (merge_field found patch)).trans (c.decode_setMetadata _)
  timed_of_decode := SnapshotClass.timed_of_decode

theorem Declaration.decode_of_values {fields : List (String × Json)} {spec : DeclarationSpec}
    {status : Option DeclarationStatus} {j : Json}
    (metadataValues : valuesAt fields "metadata" = [j])
    (specValues : valuesAt fields "spec" = [encode spec])
    (statusRead : (Record.mk fields false).nullable ["status"] = some status) :
    (decode (.object fields) : Option Declaration) =
      (decode j).map fun metadata => { metadata, spec, status } := by
  generalize read : (decode j : Option Metadata) = result
  simp only [decode, Record.ofJson?, Option.bind_eq_bind, Option.bind_some]
  rw [Record.required_of_values_single metadataValues, read,
    Record.required_of_values "spec" spec specValues, statusRead]
  cases result <;> rfl

theorem Declaration.decode_setMetadata (d : Declaration) (j : Json) :
    (decode (.object (setField "metadata" j (encode d).fields)) : Option Declaration) =
      (decode j).map fun metadata => { d with metadata } := by
  apply Declaration.decode_of_values
  · simp [valuesAt_setField, encode, Json.fields]
  · simp [valuesAt_setField, encode, Json.fields]
  · exact Record.nullable_of_values "status" d.status
      (by simp [valuesAt_setField, encode, Json.fields])

/-- Laid over another status, or over none, a status that has both its parts takes its place. -/
theorem DeclarationStatus.decode_merge (old : Option DeclarationStatus) (phase : Phase)
    (reason : String) :
    (decode (merge ((old.map encode).getD .null)
      (encode (⟨some phase, some reason⟩ : DeclarationStatus))) : Option DeclarationStatus) =
      some ⟨some phase, some reason⟩ := by
  have once : (valuesAt ((old.map encode).getD .null).fields "phase").tail = [] ∧
      (valuesAt ((old.map encode).getD .null).fields "reason").tail = [] := by
    rcases old with _ | ⟨_ | _, _ | _⟩ <;> exact ⟨rfl, rfl⟩
  have plain : (encode phase).isObject = false ∧ (encode reason).isObject = false := ⟨rfl, rfl⟩
  obtain ⟨fields, laid, phaseRead, reasonRead⟩ :=
    Record.exists_merge_pair (by decide : "phase" ≠ "reason") plain once
  change decode (merge _ (.object [("phase", encode phase), ("reason", encode reason)])) = _
  rw [laid]
  simp only [decode, Record.ofJson?, Option.bind_eq_bind, Option.bind_some]
  rw [phaseRead, reasonRead]
  rfl

theorem Declaration.decode_merge_status {d : Declaration} (timed : d.metadata.Timed)
    (phase : Phase) (reason : String) :
    (decode (merge (encode d) (.object [("status",
      encode (⟨some phase, some reason⟩ : DeclarationStatus))])) : Option Declaration) =
      some { d with
        metadata := d.metadata.toSeconds
        status := some ⟨some phase, some reason⟩ } := by
  have others (key : String) (different : "status" ≠ key) :=
    valuesAt_mergeFields_of_ne (encode d).fields
      (encode (⟨some phase, some reason⟩ : DeclarationStatus)) different
  have metadataValues : valuesAt (encode d).fields "metadata" = [encode d.metadata] := by
    simp [encode, Json.fields]
  have specValues : valuesAt (encode d).fields "spec" = [encode d.spec] := by
    simp [encode, Json.fields]
  have statusValues : valuesAt (encode d).fields "status" = (d.status.map encode).toList := by
    simp [encode, Json.fields]
  rw [merge, Declaration.decode_of_values ((others _ (by decide)).trans metadataValues)
    ((others _ (by decide)).trans specValues)
    (Record.nullable_of_merge statusValues ⟨_, rfl⟩
      (DeclarationStatus.decode_merge d.status phase reason)), Metadata.decode_encode timed]
  rfl

theorem Declaration.timed_of_decode {j : Json} {d : Declaration} (read : decode j = some d) :
    d.metadata.Timed := by
  simp only [decode, Option.bind_eq_bind, Option.bind_eq_some_iff] at read
  obtain ⟨_, -, m, metadataRead, _, -, _, -, made⟩ := read
  obtain rfl := Option.some.inj made
  exact Metadata.timed_of_required metadataRead

instance : LawfulResource Declaration where
  metadata_withMetadata _ _ := rfl
  withMetadata_metadata _ := rfl
  withMetadata_withMetadata _ _ _ := rfl
  settled_withMetadata _ _ := rfl
  decode_merge_metadata d patch := by
    have found : (encode d).fields.lookup "metadata" = some (encode d.metadata) := rfl
    exact (congrArg decode (merge_field found patch)).trans (d.decode_setMetadata _)
  timed_of_decode := Declaration.timed_of_decode

end Kinds

end NfsStorage

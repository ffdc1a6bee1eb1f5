import NfsStorage.Proofs.Codec.Lease
import NfsStorage.Proofs.Codec.Parts
import NfsStorage.Proofs.Codec.Settings

/-!
# Reading, writing and reading again

An object is read from any of several spellings and written in one. What is written of an object that
was read is read again, as the same object but for digits of times that are not written, and it is
written again as it was. `rewriting_stable` says so of every kind of object.
-/

namespace NfsStorage

open Json

theorem Metadata.encode_toSeconds (m : Metadata) : encode m.toSeconds = encode m := by
  have same : fieldOf? "deletionTimestamp" m.toSeconds.deletionTimestamp =
      fieldOf? "deletionTimestamp" m.deletionTimestamp := by
    rw [toSeconds]
    cases m.deletionTimestamp <;> rfl
  simp only [encode, same]
  rfl

theorem Metadata.toSeconds_toSeconds (m : Metadata) : m.toSeconds.toSeconds = m.toSeconds := by
  rw [toSeconds, toSeconds, Option.map_map]
  rfl

namespace Lease

def toSeconds (l : Lease) : Lease :=
  { metadata := l.metadata.toSeconds, spec := l.spec.map (·.mapTimes Time.toSeconds) }

end Lease

namespace Collection

/-- An object with the fractions of all its times cut off. -/
def toSeconds : (c : Collection) → c.Object → c.Object
  | .leases, l => l.toSeconds
  | _, other => Resource.withMetadata other (Resource.metadata other).toSeconds

/-- What was written of an object is read as another one that differs from it only in fractions of
times, and of which the same is written. -/
structure Rewritten (c : Collection) (object again : c.Object) : Prop where
  read : decode (encode object) = some again
  agrees : c.toSeconds again = c.toSeconds object
  written : encode again = encode object

end Collection

section Kinds

theorem Snapshot.decode_encode {s : Snapshot} (timed : s.metadata.Timed) :
    (decode (encode s) : Option Snapshot) = some { s with metadata := s.metadata.toSeconds } := by
  simp only [decode, encode, Record.ofJson?, Option.bind_eq_bind, Option.bind_some]
  rw [Record.required_of_values_single (j := encode s.metadata) (by simp),
    Metadata.decode_encode timed, Record.required_of_values "spec" s.spec (by simp),
    Record.nullable_of_values "status" s.status (by simp)]
  rfl

theorem ModuleConfig.decode_encode {c : ModuleConfig} (timed : c.metadata.Timed)
    (tidy : c.spec.settings.Tidy) :
    (decode (encode c) : Option ModuleConfig) =
      some { c with metadata := c.metadata.toSeconds } := by
  simp only [decode, encode, Record.ofJson?, Option.bind_eq_bind, Option.bind_some]
  rw [Record.required_of_values_single (j := encode c.metadata) (by simp),
    Metadata.decode_encode timed, Record.required_of_values_single (j := encode c.spec) (by simp),
    ModuleConfigSpec.decode_encode tidy]
  rfl

theorem Lease.decode_encode {l : Lease} (timed : l.metadata.Timed)
    (specTimed : ∀ spec, l.spec = some spec → spec.Timed) :
    (decode (encode l) : Option Lease) =
      some ⟨l.metadata.toSeconds, l.spec.map (·.mapTimes Time.toMicroseconds)⟩ := by
  simp only [decode, encode, Members.ofJson?, Option.bind_eq_bind, Option.bind_some]
  rw [Members.constant_of_values (by simp [encode]), Members.constant_of_values (by simp [encode]),
    Members.orDefault_of_values_single (j := encode l.metadata) _ (by simp) Json.noConfusion,
    Metadata.decode_encode timed,
    Members.optional_of_reread "spec" l.spec (by simp) (fun _ _ => Json.noConfusion)
      fun spec held => LeaseSpec.decode_encode (specTimed spec held)]
  rfl

theorem ModuleConfig.tidy_of_decode {j : Json} {c : ModuleConfig} (read : decode j = some c) :
    c.spec.settings.Tidy := by
  simp only [decode, Option.bind_eq_bind, Option.bind_eq_some_iff] at read
  obtain ⟨_, -, _, -, spec, specRead, made⟩ := read
  cases made
  obtain ⟨_, decoded⟩ := Record.exists_decode_of_required specRead
  exact ModuleConfigSpec.tidy_of_decode decoded

theorem Lease.timed_of_decode {j : Json} {l : Lease} (read : decode j = some l) :
    ∀ spec, l.spec = some spec → spec.Timed := by
  simp only [decode, Option.bind_eq_bind, Option.bind_eq_some_iff] at read
  obtain ⟨_, -, _, -, _, -, _, -, _, specRead, made⟩ := read
  cases made
  rintro spec rfl
  obtain ⟨_, decoded⟩ := Members.exists_decode_of_optional specRead
  exact LeaseSpec.timed_of_decode decoded

/-- A kind whose objects have no times but in their metadata loses nothing else. -/
theorem LawfulResource.decode_encode {c : Collection} [LawfulResource c.Object] {object : c.Object}
    (timed : (Resource.metadata object).Timed) :
    decode (encode object) =
      some (Resource.withMetadata object (Resource.metadata object).toSeconds) := by
  -- The empty patch of the metadata changes nothing.
  have kept : merge (encode (Resource.metadata object)) (.object []) =
      encode (Resource.metadata object) := by
    simp [encode, merge, Json.fields, mergeFields]
  have laid : merge (encode object) (.object [("metadata", .object [])]) = encode object := by
    rw [merge, mergeFields_value _ _ Json.noConfusion, Collection.lookup_encode_metadata,
      Option.getD_some, kept, ← Collection.encode_withMetadata, Collection.withMetadata_metadata]
  rw [← laid, LawfulResource.decode_merge_metadata, kept, Metadata.decode_encode timed]
  rfl

end Kinds

namespace Lease

theorem toSeconds_reread (l : Lease) :
    toSeconds ⟨l.metadata.toSeconds, l.spec.map (·.mapTimes Time.toMicroseconds)⟩ = l.toSeconds := by
  have cut (spec : LeaseSpec) : (spec.mapTimes Time.toMicroseconds).mapTimes Time.toSeconds =
      spec.mapTimes Time.toSeconds := by
    simp only [LeaseSpec.mapTimes, Option.map_map]
    rfl
  simp only [toSeconds, Metadata.toSeconds_toSeconds, Option.map_map, Function.comp_def, cut]

theorem encode_reread (l : Lease) :
    encode (⟨l.metadata.toSeconds, l.spec.map (·.mapTimes Time.toMicroseconds)⟩ : Lease) =
      encode l := by
  have spec : fieldOf? "spec" (l.spec.map (·.mapTimes Time.toMicroseconds)) =
      fieldOf? "spec" l.spec := by
    cases l.spec with
    | none => rfl
    | some spec => exact congrArg (fun value => [("spec", value)]) (LeaseSpec.encode_mapTimes spec)
  have metadata : fieldOf "metadata" l.metadata.toSeconds = fieldOf "metadata" l.metadata :=
    congrArg (fun value => [("metadata", value)]) (Metadata.encode_toSeconds l.metadata)
  simp only [encode, spec, metadata]

end Lease

namespace Collection

variable {c : Collection}

theorem toSeconds_withMetadata (object : c.Object) (m : Metadata) :
    c.toSeconds (Resource.withMetadata object m) =
      Resource.withMetadata (c.toSeconds object) m.toSeconds := by
  cases c <;> rfl

theorem rewritten_of_decode_encode {object : c.Object} (plain : c ≠ .leases)
    (read : decode (encode object) =
      some (Resource.withMetadata object (Resource.metadata object).toSeconds)) :
    c.Rewritten object (Resource.withMetadata object (Resource.metadata object).toSeconds) where
  read := read
  agrees := by
    have cut : c.toSeconds object =
        Resource.withMetadata object (Resource.metadata object).toSeconds := by
      cases c <;> first | rfl | exact absurd rfl plain
    rw [toSeconds_withMetadata, cut, withMetadata_withMetadata, Metadata.toSeconds_toSeconds]
  written := by
    rw [encode_withMetadata, Metadata.encode_toSeconds, ← encode_withMetadata,
      withMetadata_metadata]

theorem exists_rewritten {j : Json} {object : c.Object} (read : decode j = some object) :
    ∃ again, c.Rewritten object again := by
  have timed := timed_of_decode read
  cases c
  case declarations | storageClasses | secrets | snapshotClasses | configMaps =>
    exact ⟨_, rewritten_of_decode_encode Collection.noConfusion (LawfulResource.decode_encode timed)⟩
  case moduleConfigs =>
    exact ⟨_, rewritten_of_decode_encode Collection.noConfusion
      (ModuleConfig.decode_encode timed (ModuleConfig.tidy_of_decode read))⟩
  case nodes | pods | modulePods | claims | volumes =>
    exact ⟨_, rewritten_of_decode_encode Collection.noConfusion
      (Members.specAndStatus_written _ _ _ timed _ _)⟩
  case snapshots =>
    exact ⟨_, rewritten_of_decode_encode Collection.noConfusion (Snapshot.decode_encode timed)⟩
  case leases =>
    exact ⟨_, Lease.decode_encode timed (Lease.timed_of_decode read), Lease.toSeconds_reread object,
      Lease.encode_reread object⟩

theorem Rewritten.withMetadata {object again : c.Object} (rewritten : c.Rewritten object again)
    {m : Metadata} (timed : m.Timed) :
    c.Rewritten (Resource.withMetadata object m) (Resource.withMetadata again m.toSeconds) where
  read := by
    rw [encode_withMetadata, decode_setMetadata rewritten.read Json.noConfusion,
      Metadata.decode_encode timed]
    rfl
  agrees := by
    rw [toSeconds_withMetadata, toSeconds_withMetadata, rewritten.agrees,
      Metadata.toSeconds_toSeconds]
  written := by
    rw [encode_withMetadata, encode_withMetadata, rewritten.written, Metadata.encode_toSeconds]

end Collection

/-- What is written of an object that was read is read again, whatever the spelling in which the
object was given: as an object that is the same but for fractions of times, and of which the same is
written. -/
theorem rewriting_stable {c : Collection} {j : Json} {object : c.Object}
    (read : decode j = some object) :
    ∃ again : c.Object, decode (encode object) = some again ∧
      c.toSeconds again = c.toSeconds object ∧ encode again = encode object := by
  obtain ⟨again, rewritten⟩ := Collection.exists_rewritten read
  exact ⟨again, rewritten.read, rewritten.agrees, rewritten.written⟩

/-- A declaration whose parts are given by position, with choices as objects, an unknown field, nulls,
times of other places with fractions, and an owner with a field that owners do not have. -/
def spelledDeclaration : Json := .object [
  ("metadata", .object [("name", .string "a"), ("labels", .null),
    ("creationTimestamp", .string "2023-12-31T22:00:00.5-01:00"),
    ("deletionTimestamp", .string "2024-01-01T00:30:00.75+01:00"),
    ("ownerReferences", .array [.object [("uid", .string "u"), ("kind", .string "Node"),
      ("controller", .null), ("since", .int 3)]]),
    ("managedFields", .array [.object [("manager", .string "m"),
      ("fieldsV1", .object [("f:spec", .object [])])]])]),
  ("spec", .array [.array [.string "h", .string "/s", .object [("4.1", .null)]], .null, .null,
    .string "Discard", .object [("Delete", .null)], .string "Immediate"]),
  ("unknown", .bool true)]

def spelledConfig : Json := .array [
  .object [("name", .string "csi-nfs")],
  .array [.null, .int 2, .object [("v3support", .null), ("tlsParameters", .array [.string "Y2E="]),
    ("logLevel", .object [("deep", .array [.null, .bool true])])]]]

theorem rewriting_stable_spelled :
    (∃ d again : Declaration, decode spelledDeclaration = some d ∧ decode (encode d) = some again ∧
      Collection.declarations.toSeconds again = Collection.declarations.toSeconds d ∧
      encode again = encode d) ∧
    ∃ config again : ModuleConfig, decode spelledConfig = some config ∧
      decode (encode config) = some again ∧
      Collection.moduleConfigs.toSeconds again = Collection.moduleConfigs.toSeconds config ∧
      encode again = encode config := by
  obtain ⟨d, declared⟩ : ∃ d : Declaration, decode spelledDeclaration = some d :=
    Option.isSome_iff_exists.mp (by decide +kernel)
  obtain ⟨config, configured⟩ : ∃ config : ModuleConfig, decode spelledConfig = some config :=
    Option.isSome_iff_exists.mp (by decide +kernel)
  obtain ⟨again, stable⟩ := rewriting_stable (c := .declarations) declared
  obtain ⟨again', stable'⟩ := rewriting_stable (c := .moduleConfigs) configured
  exact ⟨⟨d, again, declared, stable⟩, config, again', configured, stable'⟩

end NfsStorage

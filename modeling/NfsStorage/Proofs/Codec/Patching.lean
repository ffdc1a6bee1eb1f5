import NfsStorage.Controller.ModuleConfig
import NfsStorage.Proofs.Codec.Labels
import NfsStorage.Proofs.Codec.Rewriting

/-!
# What the patches of the controllers lead to

A patch is laid over the written form of an object, and the outcome is read again. The controllers
patch the finalizers, a label or the status. Whatever the kind of the object, each of these patches
leads to the object with the part changed that the patch names, but for fractions of times.
-/

namespace NfsStorage

open Json

namespace Metadata

/-- Metadata with a label set to a text, or without it. Where there were no labels, none are left as
an empty map. -/
def withLabel (m : Metadata) (key : String) (value : Option String) : Metadata :=
  { m with labels := some (value.elim ((m.labels.getD ∅).erase key) ((m.labels.getD ∅).insert key)) }

theorem label?_withLabel (m : Metadata) (key target : String) (value : Option String) :
    (m.withLabel key value).label? target = if target = key then value else m.label? target := by
  rw [label?_eq, label?_eq]
  cases value with
  | none => exact Dict.get?_erase _ _ _
  | some text => exact Dict.get?_insert _ _ _ _

theorem decode_merge_withLabel {m : Metadata} (timed : m.Timed) (key : String)
    (value : Option String) :
    decode (merge (encode m) (.object [("labels", .object [(key, value.elim .null Json.string)])])) =
      some (m.withLabel key value).toSeconds := by
  obtain ⟨labels, read, valued, others⟩ := exists_decode_merge_label timed key value
  have same : some labels = (m.withLabel key value).labels := by
    refine congrArg some (Dict.ext_get? fun target => ?_)
    have known := m.label?_withLabel key target value
    rw [label?_eq, label?_eq] at known
    refine Eq.trans ?_ known.symm
    by_cases here : target = key
    · rw [if_pos here, here, valued]
    · rw [if_neg here, others target here]
  rw [read, same]
  rfl

end Metadata

namespace SnapshotStatus

/-- Laid over another status, or over none, a status that has both its parts takes its place. -/
theorem decode_merge (old : Option SnapshotStatus) (ready : Bool) (content : String) :
    (decode (merge ((old.map encode).getD .null)
      (encode (⟨some ready, some content⟩ : SnapshotStatus))) : Option SnapshotStatus) =
      some ⟨some ready, some content⟩ := by
  have once : (valuesAt ((old.map encode).getD .null).fields "readyToUse").tail = [] ∧
      (valuesAt ((old.map encode).getD .null).fields "boundVolumeSnapshotContentName").tail = [] := by
    rcases old with _ | ⟨_ | _, _ | _⟩ <;> exact ⟨rfl, rfl⟩
  have plain : (encode ready).isObject = false ∧ (encode content).isObject = false := ⟨rfl, rfl⟩
  obtain ⟨fields, laid, readyRead, contentRead⟩ := Record.exists_merge_pair
    (by decide : "readyToUse" ≠ "boundVolumeSnapshotContentName") plain once
  change decode (merge _ (.object [("readyToUse", encode ready),
    ("boundVolumeSnapshotContentName", encode content)])) = _
  rw [laid]
  simp only [decode, Record.ofJson?, Option.bind_eq_bind, Option.bind_some]
  rw [readyRead, contentRead]
  rfl

end SnapshotStatus

namespace Snapshot

theorem decode_merge_status {s : Snapshot} (timed : s.metadata.Timed) (ready : Bool)
    (content : String) :
    (decode (merge (encode s) (.object [("status",
      encode (⟨some ready, some content⟩ : SnapshotStatus))])) : Option Snapshot) =
      some { s with
        metadata := s.metadata.toSeconds
        status := some ⟨some ready, some content⟩ } := by
  have others (key : String) (different : "status" ≠ key) :=
    valuesAt_mergeFields_of_ne (encode s).fields
      (encode (⟨some ready, some content⟩ : SnapshotStatus)) different
  have metadataValues : valuesAt (encode s).fields "metadata" = [encode s.metadata] := by
    simp [encode, Json.fields]
  have specValues : valuesAt (encode s).fields "spec" = [encode s.spec] := by
    simp [encode, Json.fields]
  have statusValues : valuesAt (encode s).fields "status" = (s.status.map encode).toList := by
    simp [encode, Json.fields]
  rw [merge]
  simp only [decode, Record.ofJson?, Option.bind_eq_bind, Option.bind_some]
  rw [Record.required_of_values_single ((others _ (by decide)).trans metadataValues),
    Record.required_of_values "spec" s.spec ((others _ (by decide)).trans specValues),
    Record.nullable_of_merge statusValues ⟨_, rfl⟩ (SnapshotStatus.decode_merge s.status _ _),
    Metadata.decode_encode timed]
  rfl

end Snapshot

namespace Collection

variable {c : Collection} {object : c.Object}

/-- The object was read from JSON, whatever metadata it was given since. -/
def Decoded (c : Collection) (object : c.Object) : Prop :=
  ∃ (j : Json) (given : c.Object) (m : Metadata), decode j = some given ∧ m.Timed ∧
    object = Resource.withMetadata given m

theorem decoded_of_decode {j : Json} (read : decode j = some object) : c.Decoded object :=
  ⟨j, object, _, read, timed_of_decode read, (withMetadata_metadata object).symm⟩

theorem Decoded.timed (decoded : c.Decoded object) : (Resource.metadata object).Timed := by
  obtain ⟨_, given, m, -, timed, rfl⟩ := decoded
  rwa [metadata_withMetadata]

theorem Decoded.withMetadata (decoded : c.Decoded object) {m : Metadata} (timed : m.Timed) :
    c.Decoded (Resource.withMetadata object m) := by
  obtain ⟨j, given, _, read, -, rfl⟩ := decoded
  exact ⟨j, given, m, read, timed, withMetadata_withMetadata given _ m⟩

theorem Decoded.exists_rewritten (decoded : c.Decoded object) : ∃ again, c.Rewritten object again := by
  obtain ⟨_, given, m, read, timed, rfl⟩ := decoded
  obtain ⟨again, rewritten⟩ := Collection.exists_rewritten read
  exact ⟨_, rewritten.withMetadata timed⟩

/-- Of a kind without times beside the metadata, every object could have been read. -/
theorem decoded_of_timed [LawfulResource c.Object] (timed : (Resource.metadata object).Timed) :
    c.Decoded object :=
  ⟨encode object, _, _, LawfulResource.decode_encode timed, timed, by simp⟩

theorem Decoded.settled (decoded : c.Decoded object) : c.Decoded (Resource.settled object) := by
  cases c
  case secrets =>
    apply decoded_of_timed
    rw [Resource.metadata_settled]
    exact decoded.timed
  all_goals exact decoded

theorem metadata_toSeconds (object : c.Object) :
    Resource.metadata (c.toSeconds object) = (Resource.metadata object).toSeconds := by
  cases c <;> rfl

/-- Laid over an object, the patch leads to the other one, but for fractions of times. -/
def LeadsTo (c : Collection) (object : c.Object) (change : Json) (next : c.Object) : Prop :=
  ∃ new, decode (merge (encode object) change) = some new ∧ c.toSeconds new = c.toSeconds next

/-- A patch of the metadata leads to the object with the metadata that it leads to. -/
theorem Decoded.leadsTo_withMetadata (decoded : c.Decoded object) {patch : List (String × Json)}
    {m : Metadata} (read : decode (merge (encode (Resource.metadata object)) (.object patch)) =
      some m.toSeconds) :
    c.LeadsTo object (.object [("metadata", .object patch)]) (Resource.withMetadata object m) := by
  obtain ⟨again, rewritten⟩ := decoded.exists_rewritten
  refine ⟨Resource.withMetadata again m.toSeconds, ?_, ?_⟩
  · rw [decode_merge_metadata rewritten.read, read]
    rfl
  · rw [toSeconds_withMetadata, toSeconds_withMetadata, rewritten.agrees,
      Metadata.toSeconds_toSeconds]

def withFinalizers (object : c.Object) (finalizers : List String) : c.Object :=
  Resource.withMetadata object { Resource.metadata object with
    finalizers := if finalizers.isEmpty then none else some finalizers }

theorem Decoded.leadsTo_withFinalizers (decoded : c.Decoded object) (finalizers : List String) :
    c.LeadsTo object (finalizersPatch finalizers) (withFinalizers object finalizers) :=
  decoded.leadsTo_withMetadata (Metadata.decode_merge_finalizers decoded.timed finalizers)

def withMark (object : c.Object) (mismatch : Bool) : c.Object :=
  Resource.withMetadata object ((Resource.metadata object).withLabel Names.mismatchLabel
    (if mismatch then some ModuleConfigPass.mismatchValue else none))

theorem Decoded.leadsTo_withMark (decoded : c.Decoded object) (mismatch : Bool) :
    c.LeadsTo object (ModuleConfigPass.mismatchPatch mismatch) (withMark object mismatch) := by
  have value : (if mismatch then Json.string ModuleConfigPass.mismatchValue else .null) =
      (if mismatch then some ModuleConfigPass.mismatchValue else none).elim .null Json.string := by
    cases mismatch <;> rfl
  rw [ModuleConfigPass.mismatchPatch, value]
  exact decoded.leadsTo_withMetadata (Metadata.decode_merge_withLabel decoded.timed _ _)

/-- The object with another status of which both parts are given, and how the status is written. -/
inductive WithStatus : (c : Collection) → c.Object → Json → c.Object → Prop where
  | declaration (d : Declaration) (phase : Phase) (reason : String) :
      WithStatus .declarations d (encode (⟨some phase, some reason⟩ : DeclarationStatus))
        { d with status := some ⟨some phase, some reason⟩ }
  | snapshot (s : Snapshot) (ready : Bool) (content : String) :
      WithStatus .snapshots s (encode (⟨some ready, some content⟩ : SnapshotStatus))
        { s with status := some ⟨some ready, some content⟩ }

theorem WithStatus.metadata_eq {status : Json} {next : c.Object}
    (given : WithStatus c object status next) :
    Resource.metadata next = Resource.metadata object := by
  cases given <;> rfl

theorem WithStatus.leadsTo {status : Json} {next : c.Object}
    (given : WithStatus c object status next) (decoded : c.Decoded object) :
    c.LeadsTo object (.object [("status", status)]) next := by
  cases given with
  | declaration d phase reason =>
      exact ⟨_, Declaration.decode_merge_status decoded.timed phase reason,
        congrArg (fun m => ({ d with metadata := m, status := _ } : Declaration))
          (Metadata.toSeconds_toSeconds d.metadata)⟩
  | snapshot s ready content =>
      exact ⟨_, Snapshot.decode_merge_status decoded.timed ready content,
        congrArg (fun m => ({ s with metadata := m, status := _ } : Snapshot))
          (Metadata.toSeconds_toSeconds s.metadata)⟩

end Collection

end NfsStorage

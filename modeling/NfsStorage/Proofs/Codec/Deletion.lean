import NfsStorage.Proofs.Codec.Resource
import NfsStorage.Store.Cluster

/-!
# Patches and deletion

A patch that has nothing to say about the time of deletion leaves an object as much asked to go as
it was, whatever else it changes. This holds of every kind of object, also of those whose written
form is not read back as it was.
-/

namespace NfsStorage

open Json

namespace Json

/-- The patch is an object that patches the metadata, if at all, by an object without a time of
deletion. -/
def sparesDeletion : Json → Bool
  | .object patch => (valuesAt patch "metadata").all fun
    | .object fields => (valuesAt fields "deletionTimestamp").isEmpty
    | _ => false
  | _ => false

theorem valuesAt_mergeFields_of_nil {patch : List (String × Json)} {key : String}
    (unnamed : valuesAt patch key = []) (target : List (String × Json)) :
    valuesAt (mergeFields target patch) key = valuesAt target key := by
  induction patch generalizing target with
  | nil => rw [mergeFields]
  | cons first rest inductionHypothesis =>
      obtain ⟨name, value⟩ := first
      rw [valuesAt_cons] at unnamed
      split at unnamed
      next => cases unnamed
      next different =>
        rw [mergeFields_cons, inductionHypothesis unnamed,
          valuesAt_mergeFields_of_ne _ _ different]

/-- What is written of metadata, as far as the time of deletion goes. -/
def Dated (j : Json) (time : List Json) : Prop :=
  ∃ fields, j = .object fields ∧ valuesAt fields "deletionTimestamp" = time

theorem Dated.ne_null {j : Json} {time : List Json} (dated : j.Dated time) : j ≠ .null := by
  obtain ⟨fields, rfl, -⟩ := dated
  exact Json.noConfusion

/-- Field by field, a patch that spares the deletion leaves the metadata with the same time. -/
theorem exists_dated_mergeFields {patch fields : List (String × Json)} {j : Json}
    {time : List Json} (spares : (Json.object patch).sparesDeletion = true)
    (single : valuesAt fields "metadata" = [j]) (dated : j.Dated time) :
    ∃ j', valuesAt (mergeFields fields patch) "metadata" = [j'] ∧ j'.Dated time := by
  induction patch generalizing fields j with
  | nil => exact ⟨j, by rwa [mergeFields], dated⟩
  | cons first rest inductionHypothesis =>
      obtain ⟨key, value⟩ := first
      rw [sparesDeletion, valuesAt_cons] at spares
      rw [mergeFields_cons]
      by_cases here : key = "metadata"
      · rw [if_pos here, List.all_cons, Bool.and_eq_true] at spares
        obtain ⟨spared, spares⟩ := spares
        cases value with
        | object change =>
            obtain ⟨inner, rfl, times⟩ := dated
            have laid : valuesAt (mergeFields fields [(key, .object change)]) "metadata" =
                [.object (mergeFields inner change)] := by
              rw [mergeFields_value _ _ Json.noConfusion, valuesAt_setField, if_pos here, here,
                lookup_eq_head?_valuesAt, single]
              simp [merge, Json.fields]
            refine inductionHypothesis spares laid ⟨_, rfl, ?_⟩
            rw [valuesAt_mergeFields_of_nil (List.isEmpty_iff.mp spared), times]
        | _ => cases spared
      · rw [if_neg here] at spares
        exact inductionHypothesis spares
          ((valuesAt_mergeFields_of_ne fields value here).trans single) dated

end Json

namespace Metadata

theorem dated_encode (m : Metadata) :
    (encode m : Json).Dated (m.deletionTimestamp.map encode).toList :=
  ⟨_, rfl, by simp⟩

/-- Read from what says of the deletion what was written of other metadata, metadata are as much
asked to go. -/
theorem isDeleting_of_dated {j : Json} {old new : Metadata}
    (dated : j.Dated (old.deletionTimestamp.map encode).toList) (read : decode j = some new) :
    new.isDeleting = old.isDeleting := by
  obtain ⟨fields, rfl, times⟩ := dated
  have timeRead := deletionTimestamp_of_decode read
  rw [isDeleting, isDeleting]
  cases asked : old.deletionTimestamp with
  | none =>
      rw [asked] at times
      rw [Members.optional_of_values_nil times] at timeRead
      rw [← Option.some.inj timeRead]
  | some before =>
      rw [asked] at times
      rw [Members.optional_of_values_single times Json.noConfusion] at timeRead
      obtain ⟨_, -, now⟩ := Option.map_eq_some_iff.mp timeRead
      rw [← now]
      rfl

end Metadata

namespace Collection

theorem exists_encode_eq (c : Collection) (object : c.Object) :
    ∃ fields, encode object = .object fields ∧
      valuesAt fields "metadata" = [encode (Resource.metadata object)] := by
  cases c <;> exact ⟨_, rfl, by simp; rfl⟩

/-- The metadata of an object that is read are those that its one field for them is read as. -/
theorem decode_metadata {c : Collection} {fields : List (String × Json)} {j : Json}
    {object : c.Object} (single : valuesAt fields "metadata" = [j]) (given : j ≠ .null)
    (read : decode (.object fields) = some object) : decode j = some (Resource.metadata object) := by
  have member {m : Metadata} (found : (Members.mk fields).orDefault "metadata" {} = some m) :
      decode j = some m := by
    rwa [Members.orDefault_of_values_single _ single given] at found
  have field {m : Metadata} (found : (Record.mk fields false).required "metadata" = some m) :
      decode j = some m := by
    rwa [Record.required_of_values_single single] at found
  cases c <;>
    simp only [decode, Members.ofJson?, Record.ofJson?, Option.bind_eq_bind, Option.bind_some,
      Option.bind_eq_some_iff] at read
  case declarations | snapshots =>
    obtain ⟨m, found, _, -, _, -, made⟩ := read
    cases made
    exact field found
  case moduleConfigs =>
    obtain ⟨m, found, _, -, made⟩ := read
    cases made
    exact field found
  case snapshotClasses =>
    obtain ⟨_, -, _, -, m, found, _, -, _, -, _, -, made⟩ := read
    cases made
    rwa [Record.orDefault_of_values_single _ single] at found
  case storageClasses =>
    obtain ⟨_, -, _, -, m, found, _, -, _, -, _, -, _, -, _, -, _, -, _, -, made⟩ := read
    cases made
    exact member found
  case secrets =>
    obtain ⟨_, -, _, -, m, found, _, -, _, -, _, -, _, -, made⟩ := read
    cases made
    exact member found
  case configMaps =>
    obtain ⟨_, -, _, -, m, found, _, -, _, -, _, -, made⟩ := read
    cases made
    exact member found
  case nodes | pods | modulePods | claims | volumes =>
    obtain ⟨_, -, _, -, m, found, _, -, _, -, made⟩ := read
    cases made
    exact member found
  case leases =>
    obtain ⟨_, -, _, -, m, found, _, -, made⟩ := read
    cases made
    exact member found

/-- A patch that spares the deletion leaves an object as much asked to go as it was. -/
theorem isDeleting_of_decode_merge {c : Collection} {old new : c.Object} {change : Json}
    (spares : change.sparesDeletion = true)
    (read : decode (merge (encode old) change) = some new) :
    Resource.isDeleting new = Resource.isDeleting old := by
  obtain ⟨fields, written, single⟩ := c.exists_encode_eq old
  cases change with
  | object patch =>
      rw [written, merge, Json.fields] at read
      obtain ⟨j, laid, dated⟩ :=
        exists_dated_mergeFields spares single (Metadata.dated_encode _)
      exact Metadata.isDeleting_of_dated dated (decode_metadata laid dated.ne_null read)
  | _ => cases spares

end Collection

theorem sparesDeletion_finalizersPatch (finalizers : List String) :
    (finalizersPatch finalizers).sparesDeletion = true := rfl

theorem sparesDeletion_status (status : Json) :
    (Json.object [("status", status)]).sparesDeletion = true := rfl

end NfsStorage

import NfsStorage.Proofs.Codec.Dictionary
import NfsStorage.Proofs.Codec.Resource

/-!
# Labels, and a patch of one of them

A patch that names a single label changes that label and no other, and apart from the labels it
changes nothing but the fraction of a time.
-/

namespace NfsStorage

open Json

namespace Metadata

variable (m : Metadata) (key : String)

theorem label?_eq : m.label? key = (m.labels.getD ∅).get? key := by
  rw [label?]
  cases m.labels <;> rfl

theorem annotation?_eq : m.annotation? key = (m.annotations.getD ∅).get? key := by
  rw [annotation?]
  cases m.annotations <;> rfl

end Metadata

namespace Metadata

theorem valuesAt_labels (m : Metadata) :
    valuesAt (encode m).fields "labels" = (m.labels.map encode).toList := by
  simp [encode, Json.fields]

def labelFields (m : Metadata) : List (String × Json) := ((m.labels.map encode).getD .null).fields

theorem spelled_labelFields (m : Metadata) : (m.labels.getD ∅).Spelled m.labelFields :=
  Dict.spelled_getD m.labels

theorem decode_merge_label_eq {m : Metadata} (timed : m.Timed) (key : String) (value : Json) :
    (decode (merge (encode m) (.object [("labels", .object [(key, value)])])) : Option Metadata) =
      (decode (.object (mergeFields m.labelFields [(key, value)])) : Option Labels).map
        fun labels => { m.toSeconds with labels := some labels } := by
  have before : (encode m).fields.lookup "labels" = m.labels.map encode := by
    rw [lookup_eq_head?_valuesAt, valuesAt_labels]
    cases m.labels <;> rfl
  let laid := Json.object (mergeFields m.labelFields [(key, value)])
  have fields : mergeFields (encode m).fields [("labels", .object [(key, value)])] =
      setField "labels" laid (encode m).fields := by
    rw [mergeFields_value _ _ Json.noConfusion, before, merge]
    rfl
  have single : valuesAt (setField "labels" laid (encode m).fields) "labels" = [laid] := by
    rw [valuesAt_setField, if_pos rfl, valuesAt_labels]
    cases m.labels <;> rfl
  have others : ∀ name, name ≠ "labels" →
      valuesAt (setField "labels" laid (encode m).fields) name = valuesAt (encode m).fields name := by
    intro name different
    rw [valuesAt_setField, if_neg different.symm]
  rw [merge, fields, decode_object timed others,
    Members.optional_of_values_single single Json.noConfusion, Option.map_map]
  rfl

theorem get?_of_decode_label {m : Metadata} {key : String} {value : Json} {labels : Labels}
    (read : decode (.object (mergeFields m.labelFields [(key, value)])) = some labels)
    {target : String} (different : target ≠ key) :
    labels.get? target = (m.labels.getD ∅).get? target := by
  rw [Dict.get?_of_decode read, valuesAt_mergeFields_of_ne _ _ different.symm,
    m.spelled_labelFields]
  cases (m.labels.getD ∅).get? target <;> rfl

theorem decode_merge_label {m patched : Metadata} (timed : m.Timed) {key : String} {value : Json}
    (read : decode (merge (encode m) (.object [("labels", .object [(key, value)])])) =
      some patched) :
    ∃ labels, patched = { m.toSeconds with labels } ∧ ∀ target, target ≠ key →
      (labels.getD ∅).get? target = (m.labels.getD ∅).get? target := by
  rw [decode_merge_label_eq timed] at read
  obtain ⟨labels, decoded, rfl⟩ := Option.map_eq_some_iff.mp read
  exact ⟨some labels, rfl, fun _ => get?_of_decode_label decoded⟩

theorem exists_decode_merge_label {m : Metadata} (timed : m.Timed) (key : String)
    (value : Option String) :
    ∃ labels : Labels,
      decode (merge (encode m) (.object [("labels", .object [(key,
        value.elim .null Json.string)])])) = some { m.toSeconds with labels := some labels } ∧
      labels.get? key = value ∧
      ∀ target, target ≠ key → labels.get? target = (m.labels.getD ∅).get? target := by
  have spelled := m.spelled_labelFields
  rw [decode_merge_label_eq timed]
  cases value with
  | none =>
      rw [Option.elim_none, mergeFields_null, (spelled.erase key).decode]
      refine ⟨_, rfl, ?_, fun target different => ?_⟩
      · rw [Dict.get?_erase, if_pos rfl]
      · rw [Dict.get?_erase, if_neg different]
  | some text =>
      rw [Option.elim_some, mergeFields_value _ _ Json.noConfusion, merge_of_plain _ rfl,
        show Json.string text = encode text from rfl, (spelled.insert key text).decode]
      refine ⟨_, rfl, ?_, fun target different => ?_⟩
      · rw [Dict.get?_insert, if_pos rfl]
      · rw [Dict.get?_insert, if_neg different]

end Metadata

theorem Resource.decode_labelPatch {K : Type} [Resource K] [LawfulResource K] {object patched : K}
    (timed : (Resource.metadata object).Timed) {key : String} {value : Json}
    (read : decode (merge (encode object)
      (.object [("metadata", .object [("labels", .object [(key, value)])])])) = some patched) :
    ∃ labels, patched =
        Resource.withMetadata object { (Resource.metadata object).toSeconds with labels } ∧
      ∀ target, target ≠ key → (labels.getD ∅).get? target =
        ((Resource.metadata object).labels.getD ∅).get? target := by
  rw [LawfulResource.decode_merge_metadata] at read
  obtain ⟨m, decoded, rfl⟩ := Option.map_eq_some_iff.mp read
  obtain ⟨labels, made, same⟩ := Metadata.decode_merge_label timed decoded
  exact ⟨labels, congrArg _ made, same⟩

theorem Resource.exists_decode_labelPatch {K : Type} [Resource K] [LawfulResource K] {object : K}
    (timed : (Resource.metadata object).Timed) (key : String) (value : Option String) :
    ∃ labels : Labels,
      decode (merge (encode object) (.object [("metadata", .object [("labels", .object [(key,
        value.elim .null Json.string)])])])) = some (Resource.withMetadata object
          { (Resource.metadata object).toSeconds with labels := some labels }) ∧
      labels.get? key = value ∧ ∀ target, target ≠ key →
        labels.get? target = ((Resource.metadata object).labels.getD ∅).get? target := by
  obtain ⟨labels, read, rest⟩ := Metadata.exists_decode_merge_label timed key value
  refine ⟨labels, ?_, rest⟩
  rw [LawfulResource.decode_merge_metadata, read]
  rfl

end NfsStorage

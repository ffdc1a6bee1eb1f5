import Mathlib.Data.Set.List
import NfsStorage.Proofs.Codec.Lawful
import NfsStorage.Proofs.Json.MergePatch

/-!
# Dictionaries in their written form

Fields spell a dictionary if they give each key the value that it has there, and no other. In whatever
order they stand they are read as the dictionary, and to set or to drop one of them is to insert or
to erase an entry. So a dictionary that is laid over another as a patch is read as the overlay.
-/

namespace NfsStorage.Dict

open Json

variable {α : Type} [JsonCodec α] {fields : List (String × Json)} {d : Dict α}

theorem get?_of_decode (read : decode (.object fields) = some d) (key : String) :
    d.get? key = (valuesAt fields key).getLast?.bind decode := by
  have general : ∀ (start : Dict α) entries, decodeEntries fields = some entries →
      (entries.foldl (fun d entry => d.insert entry.1 entry.2) start).get? key =
        match (valuesAt fields key).getLast? with
        | some j => decode j
        | none => start.get? key := by
    clear read
    induction fields with
    | nil =>
        intro start entries read
        obtain rfl : [] = entries := Option.some.inj read
        rfl
    | cons first rest inductionHypothesis =>
        intro start entries read
        obtain ⟨name, j⟩ := first
        simp only [decodeEntries, List.mapM_cons, Option.bind_eq_bind, Option.bind_eq_some_iff,
          Option.map_eq_some_iff] at read
        obtain ⟨_, ⟨value, decoded, rfl⟩, others, read, made⟩ := read
        obtain rfl := Option.some.inj made
        rw [List.foldl_cons, inductionHypothesis _ others read, valuesAt_cons]
        by_cases here : name = key
        · rw [if_pos here, List.getLast?_cons]
          cases (valuesAt rest key).getLast? with
          | none => simp [get?_insert, here, decoded]
          | some later => rfl
        · rw [if_neg here, get?_insert, if_neg fun same => here same.symm]
  obtain ⟨entries, decoded, rfl⟩ := Option.map_eq_some_iff.mp read
  rw [ofList, general _ entries decoded]
  cases (valuesAt fields key).getLast? <;> rfl

theorem valuesAt_encode (d : Dict α) (key : String) :
    valuesAt (encode d).fields key = ((d.get? key).map encode).toList := by
  have general : ∀ entries : List (String × α), entries.Pairwise (fun a b => a.1 < b.1) →
      valuesAt (entries.map fun entry => (entry.1, encode entry.2)) key =
        ((entries.lookup key).map encode).toList := by
    intro entries
    induction entries with
    | nil => exact fun _ => rfl
    | cons first rest inductionHypothesis =>
        intro increasing
        obtain ⟨name, value⟩ := first
        obtain ⟨less, increasing⟩ := List.pairwise_cons.mp increasing
        rw [List.map_cons, valuesAt_cons, inductionHypothesis increasing, lookup_cons]
        by_cases here : name = key
        · subst here
          have absent : rest.lookup name = none :=
            lookup_eq_none_of_forall_ne fun entry later => (ne_of_lt (less entry later)).symm
          simp [absent]
        · simp [here, Ne.symm here]
  exact general d.entries d.increasing

/-- The fields give each key the value that it has in the dictionary, once, and no other key any. -/
def Spelled (d : Dict α) (fields : List (String × Json)) : Prop :=
  ∀ key, valuesAt fields key = ((d.get? key).map encode).toList

theorem spelled_getD (d : Option (Dict α)) :
    (d.getD ∅).Spelled ((d.map encode).getD .null).fields := by
  cases d with
  | none => exact fun _ => rfl
  | some d => exact d.valuesAt_encode

namespace Spelled

theorem insert (spelled : d.Spelled fields) (key : String) (value : α) :
    (d.insert key value).Spelled (setField key (encode value) fields) := by
  intro target
  rw [valuesAt_setField, get?_insert, spelled]
  by_cases here : target = key
  · rw [if_pos here, if_pos here.symm]
    cases d.get? target <;> rfl
  · rw [if_neg here, if_neg (Ne.symm here)]

theorem erase (spelled : d.Spelled fields) (key : String) :
    (d.erase key).Spelled (dropField key fields) := by
  intro target
  rw [valuesAt_dropField, get?_erase, spelled]
  by_cases here : target = key
  · rw [if_pos here, if_pos here.symm]
    rfl
  · rw [if_neg here, if_neg (Ne.symm here)]

variable [LawfulCodec α]

theorem decode (spelled : d.Spelled fields) : JsonCodec.decode (.object fields) = some d := by
  -- Each field is what is written of an entry, so that they are read as a list of entries at least.
  let written (entry : String × α) : String × Json := (entry.1, encode entry.2)
  have encoded : ∀ field ∈ fields, field ∈ Set.range written := by
    rintro ⟨key, j⟩ membership
    have given : j ∈ valuesAt fields key :=
      List.mem_map.mpr ⟨(key, j), List.mem_filter.mpr ⟨membership, decide_eq_true rfl⟩, rfl⟩
    rw [spelled] at given
    obtain ⟨value, -, rfl⟩ := Option.map_eq_some_iff.mp (Option.mem_toList.mp given)
    exact ⟨(key, value), rfl⟩
  obtain ⟨entries, rfl⟩ : fields ∈ Set.range (List.map written) := by
    rwa [Set.range_list_map]
  have read : JsonCodec.decode (.object (entries.map written)) = some (ofList entries) :=
    congrArg (Option.map ofList) (decodeEntries_map_encode entries)
  refine read.trans (congrArg some (ext_get? fun key => ?_))
  rw [get?_of_decode read, spelled]
  cases d.get? key <;> simp

theorem overlay (spelled : d.Spelled fields) (plain : ∀ value : α, (encode value).isObject = false)
    (upper : Dict α) : (d.overlay upper).Spelled (mergeFields fields (encode upper).fields) := by
  have general (entries : List (String × α)) :
      (entries.foldl (fun d entry => d.insert entry.1 entry.2) d).Spelled
        (mergeFields fields (entries.map fun entry => (entry.1, encode entry.2))) := by
    induction entries generalizing fields d with
    | nil => rwa [List.map_nil, mergeFields]
    | cons entry rest inductionHypothesis =>
        rw [List.map_cons, List.foldl_cons, mergeFields_cons,
          mergeFields_value _ _ (encode_ne_null entry.2), merge_of_plain _ (plain entry.2)]
        exact inductionHypothesis (spelled.insert entry.1 entry.2)
  exact general upper.entries

end Spelled

/-- Laid over another dictionary, or over none, a dictionary of values that are no objects is read as
the overlay. -/
theorem decode_merge_encode [LawfulCodec α] (plain : ∀ value : α, (encode value).isObject = false)
    (base : Option (Dict α)) (upper : Dict α) :
    decode (merge ((base.map encode).getD .null) (encode upper)) =
      some ((base.getD ∅).overlay upper) := by
  change decode (merge _ (.object (encode upper).fields)) = _
  rw [merge]
  exact ((spelled_getD base).overlay plain upper).decode

end NfsStorage.Dict

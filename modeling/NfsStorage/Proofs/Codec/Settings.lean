import NfsStorage.Proofs.Codec.Labels
import NfsStorage.Proofs.Json.MergePatch

/-!
# Module settings as they are written

The settings that are not interpreted stand beside the others in one object. What was read once has
no interpreted name among them and no field twice in them, and so it is read back from what is
written of it.
-/

namespace NfsStorage

open Json

namespace Json

theorem decode_of_distinct {j : Json} (distinct : j.Distinct) : (decode j : Option Json) = some j :=
  congrArg some (collapse_of_distinct distinct)

theorem valuesAt_filter (keep : String → Bool) (fields : List (String × Json)) (key : String) :
    valuesAt (fields.filter fun field => keep field.1) key =
      if keep key then valuesAt fields key else [] := by
  induction fields with
  | nil => simp
  | cons first rest inductionHypothesis =>
      obtain ⟨name, value⟩ := first
      by_cases kept : keep name = true
      · rw [List.filter_cons_of_pos (by exact kept), valuesAt_cons, valuesAt_cons,
          inductionHypothesis]
        by_cases here : name = key
        · simp [← here, kept]
        · simp [here]
      · rw [List.filter_cons_of_neg (by exact kept), valuesAt_cons, inductionHypothesis]
        by_cases here : name = key
        · simp [← here, kept]
        · simp [here]

end Json

theorem Dict.valuesAt_entries (d : Dict Json) (key : String) :
    valuesAt d.entries key = (d.get? key).toList := by
  have written := Dict.valuesAt_encode d key
  rw [show (encode : Json → Json) = id from rfl, Option.map_id_fun] at written
  simpa [encode, Json.fields] using written

namespace ModuleSettings

/-- The settings that are not interpreted have none of the names that are, and no object in them has
a field twice. -/
structure Tidy (s : ModuleSettings) : Prop where
  distinct : ∀ {key value}, s.other.get? key = some value → value.Distinct
  apart : ∀ {key value}, s.other.get? key = some value → interpreted.contains key = false

theorem tidy_default : ({} : ModuleSettings).Tidy := ⟨nofun, nofun⟩

theorem exists_of_decode {fields : List (String × Json)} {s : ModuleSettings}
    (read : decode (.object fields) = some s) :
    (Record.mk fields false).optional "v3support" = some s.v3support ∧
      (Record.mk fields false).optional "tlsParameters" = some s.tlsParameters ∧
      ∀ key, s.other.get? key =
        if interpreted.contains key then none else (valuesAt fields key).getLast?.map collapse := by
  simp only [decode, Option.bind_eq_bind, Option.bind_eq_some_iff] at read
  obtain ⟨entries, entriesRead, _, versionRead, _, parametersRead, made⟩ := read
  obtain rfl := Option.some.inj made
  refine ⟨versionRead, parametersRead, fun key => ?_⟩
  have other : decode (.object (fields.filter fun field => !interpreted.contains field.1)) =
      some (Dict.ofList entries) := congrArg (Option.map Dict.ofList) entriesRead
  rw [Dict.get?_of_decode other, valuesAt_filter fun name => !interpreted.contains name]
  cases interpreted.contains key with
  | true => rfl
  | false =>
      rw [if_neg Bool.false_ne_true, Bool.not_false, if_pos rfl]
      cases (valuesAt fields key).getLast? <;> rfl

theorem tidy_of_decode {j : Json} {s : ModuleSettings} (read : decode j = some s) : s.Tidy := by
  cases j with
  | object fields =>
      obtain ⟨-, -, other⟩ := exists_of_decode read
      constructor
      · intro key value found
        rw [other] at found
        split at found
        next => cases found
        next =>
          obtain ⟨given, -, rfl⟩ := Option.map_eq_some_iff.mp found
          exact distinct_collapse given
      · intro key value found
        rw [other] at found
        split at found
        next => cases found
        next unknown => exact Bool.eq_false_iff.mpr unknown
  | _ => exact nomatch read

variable {s : ModuleSettings}

theorem Tidy.get?_eq_none (tidy : s.Tidy) {key : String} (known : interpreted.contains key = true) :
    s.other.get? key = none := by
  cases found : s.other.get? key with
  | none => rfl
  | some value => exact nomatch known.symm.trans (tidy.apart found)

theorem Tidy.filter_fields (tidy : s.Tidy) :
    (encode s).fields.filter (fun field => !interpreted.contains field.1) = s.other.entries := by
  have flag : (fieldOf? "v3support" s.v3support).filter
      (fun field => !interpreted.contains field.1) = [] := by
    cases s.v3support <;> rfl
  have parameters : (fieldOf? "tlsParameters" s.tlsParameters).filter
      (fun field => !interpreted.contains field.1) = [] := by
    cases s.tlsParameters <;> rfl
  have others : s.other.entries.filter (fun field => !interpreted.contains field.1) =
      s.other.entries := by
    refine List.filter_eq_self.mpr fun entry there => ?_
    rw [tidy.apart (s.other.get?_eq_some_iff.mpr there)]
    rfl
  simp only [encode, Json.fields, List.filter_append, flag, parameters, others, List.nil_append]

theorem Tidy.decodeEntries_other (tidy : s.Tidy) :
    (decodeEntries s.other.entries : Option (List (String × Json))) = some s.other.entries := by
  have general : ∀ entries : List (String × Json), (∀ entry ∈ entries, entry.2.Distinct) →
      (decodeEntries entries : Option (List (String × Json))) = some entries := by
    intro entries each
    induction entries with
    | nil => rfl
    | cons entry rest inductionHypothesis =>
        have later := inductionHypothesis fun other there => each other (List.mem_cons_of_mem _ there)
        rw [decodeEntries] at later ⊢
        rw [List.mapM_cons, later, decode_of_distinct (each entry (List.mem_cons_self ..))]
        rfl
  exact general _ fun entry there => tidy.distinct (s.other.get?_eq_some_iff.mpr there)

theorem Tidy.decode_encode (tidy : s.Tidy) :
    (decode (encode s) : Option ModuleSettings) = some s := by
  have unnamed (key : String) (known : interpreted.contains key = true) :
      valuesAt s.other.entries key = [] := by
    rw [Dict.valuesAt_entries, tidy.get?_eq_none known]
    rfl
  have others := tidy.filter_fields
  simp only [decode, encode, Json.fields, Option.bind_eq_bind] at others ⊢
  rw [others, tidy.decodeEntries_other,
    Record.optional_of_values "v3support" s.v3support (by simp [unnamed, interpreted]),
    Record.optional_of_values "tlsParameters" s.tlsParameters (by simp [unnamed, interpreted])]
  simp only [Option.bind_some, Dict.ofList_entries]
  rfl

end ModuleSettings

theorem ModuleConfigSpec.decode_encode {s : ModuleConfigSpec} (tidy : s.settings.Tidy) :
    (decode (encode s) : Option ModuleConfigSpec) = some s := by
  simp only [decode, encode, Record.ofJson?, Option.bind_eq_bind, Option.bind_some]
  rw [Record.optional_of_values "enabled" s.enabled (by simp),
    Record.optional_of_values "version" s.version (by simp),
    Record.orDefault_of_values_single (j := encode s.settings) _ (by simp), tidy.decode_encode]
  rfl

theorem ModuleConfigSpec.tidy_of_decode {j : Json} {s : ModuleConfigSpec}
    (read : decode j = some s) : s.settings.Tidy := by
  simp only [decode, Option.bind_eq_bind, Option.bind_eq_some_iff] at read
  obtain ⟨_, -, _, -, _, -, settings, settingsRead, made⟩ := read
  obtain rfl := Option.some.inj made
  rcases Record.decode_of_orDefault settingsRead with rfl | ⟨_, decoded⟩
  · exact ModuleSettings.tidy_default
  · exact ModuleSettings.tidy_of_decode decoded

end NfsStorage

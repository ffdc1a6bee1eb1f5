import NfsStorage.Proofs.Codec.Fields

/-!
# Merge patches

RFC 7386 says what a merge patch makes of a target: a patch that is no object takes the place of the
target, and an object patches field by field. Merging does this with all values in which no object
has two fields of one name, and such are the values that are read. What a patch has done once it
does not do again, down to the order of the fields.
-/

namespace NfsStorage.Json

/-- No object in the value has two fields of one name. -/
inductive Distinct : Json → Prop where
  | null : Distinct .null
  | bool (value : Bool) : Distinct (.bool value)
  | number (value : Number) : Distinct (.number value)
  | string (value : String) : Distinct (.string value)
  | array {items : List Json} (each : ∀ item ∈ items, Distinct item) : Distinct (.array items)
  | object {fields : List (String × Json)} (names : (fields.map Prod.fst).Nodup)
      (each : ∀ field ∈ fields, Distinct field.2) : Distinct (.object fields)

/-- The value of a field, if there is an object that has it. -/
def field? (j : Json) (key : String) : Option Json := j.fields.lookup key

/-- What a merge patch makes of a target by RFC 7386, where there may be no target. A patch that is
no object is the result. An object leads to an object: the fields that it does not name are those of
the target, the fields that it names with null are absent, and each of the others is what the patch
for it makes of the field of the target. -/
inductive Patched : Option Json → Json → Json → Prop where
  | whole {target : Option Json} {patch : Json} (plain : patch.isObject = false) :
      Patched target patch patch
  | fields {target : Option Json} {patch result : List (String × Json)} (value : String → Json)
      (kept : ∀ key, patch.lookup key = none → result.lookup key = target.bind (·.field? key))
      (removed : ∀ key, patch.lookup key = some .null → result.lookup key = none)
      (set : ∀ key given, patch.lookup key = some given → given ≠ .null →
        result.lookup key = some (value key))
      (patched : ∀ key given, patch.lookup key = some given → given ≠ .null →
        Patched (target.bind (·.field? key)) given (value key)) :
      Patched target (.object patch) (.object result)

section Collapse

theorem any_of_mem_collapseFields {fields : List (String × Json)} {key : String}
    (named : key ∈ (collapseFields fields).map Prod.fst) :
    (fields.any fun field => field.1 = key) = true := by
  induction fields with
  | nil => exact nomatch named
  | cons first rest inductionHypothesis =>
      rw [List.any_cons, Bool.or_eq_true]
      rw [collapseFields] at named
      split at named
      next => exact Or.inr (inductionHypothesis named)
      next =>
        rcases List.mem_cons.mp named with rfl | later
        · exact Or.inl (decide_eq_true rfl)
        · exact Or.inr (inductionHypothesis later)

theorem nodup_collapseFields (fields : List (String × Json)) :
    ((collapseFields fields).map Prod.fst).Nodup := by
  induction fields with
  | nil => exact List.nodup_nil
  | cons first rest inductionHypothesis =>
      rw [collapseFields]
      split
      next => exact inductionHypothesis
      next unrepeated =>
        exact List.nodup_cons.mpr ⟨mt any_of_mem_collapseFields unrepeated, inductionHypothesis⟩

mutual

theorem distinct_collapse : (j : Json) → j.collapse.Distinct
  | .null => .null
  | .bool value => .bool value
  | .number value => .number value
  | .string value => .string value
  | .array items => .array (distinct_of_mem_collapseItems items)
  | .object fields => .object (nodup_collapseFields fields) (distinct_of_mem_collapseFields fields)

theorem distinct_of_mem_collapseItems :
    (items : List Json) → ∀ item ∈ collapseItems items, item.Distinct
  | [] => nofun
  | first :: rest =>
    List.forall_mem_cons.mpr ⟨distinct_collapse first, distinct_of_mem_collapseItems rest⟩

theorem distinct_of_mem_collapseFields :
    (fields : List (String × Json)) → ∀ field ∈ collapseFields fields, field.2.Distinct
  | [] => nofun
  | (key, value) :: rest => by
    rw [collapseFields]
    split
    next => exact distinct_of_mem_collapseFields rest
    next =>
      exact List.forall_mem_cons.mpr ⟨distinct_collapse value, distinct_of_mem_collapseFields rest⟩

end

theorem collapse_of_distinct {j : Json} (distinct : j.Distinct) : j.collapse = j := by
  induction distinct with
  | null | bool | number | string => simp [collapse]
  | @array items each inductionHypothesis =>
      have items_eq : collapseItems items = items := by
        clear each
        induction items with
        | nil => rw [collapseItems]
        | cons item rest restEq =>
            rw [collapseItems, inductionHypothesis item (List.mem_cons_self ..),
              restEq fun other later => inductionHypothesis other (List.mem_cons_of_mem _ later)]
      rw [collapse, items_eq]
  | @object fields names each inductionHypothesis =>
      have fields_eq : collapseFields fields = fields := by
        clear each
        induction fields with
        | nil => rw [collapseFields]
        | cons field rest restEq =>
            obtain ⟨key, value⟩ := field
            obtain ⟨fresh, names⟩ := List.nodup_cons.mp names
            have unrepeated : rest.any (fun field => field.1 = key) = false := by
              refine List.any_eq_false.mpr fun field there same => fresh ?_
              exact List.mem_map.mpr ⟨field, there, of_decide_eq_true same⟩
            rw [collapseFields, unrepeated, if_neg Bool.false_ne_true,
              inductionHypothesis (key, value) (List.mem_cons_self ..),
              restEq names fun other later => inductionHypothesis other (List.mem_cons_of_mem _ later)]
      rw [collapse, fields_eq]

end Collapse

section Fields

variable {target patch : List (String × Json)} {key : String} {value : Json}

def patchedField (old : Option Json) : Json → Option Json
  | .null => none
  | value => some (merge (old.getD .null) value)

theorem patchedField_of_ne (old : Option Json) (given : value ≠ .null) :
    patchedField old value = some (merge (old.getD .null) value) := by
  cases value <;> first | rfl | exact absurd rfl given

theorem mergeFields_induction {motive : List (String × Json) → Prop}
    (step : ∀ fields, ∀ change ∈ patch, motive fields → motive (mergeFields fields [change]))
    (start : motive target) : motive (mergeFields target patch) := by
  induction patch generalizing target with
  | nil => exact start
  | cons change rest inductionHypothesis =>
      obtain ⟨key, value⟩ := change
      rw [mergeFields_cons]
      exact inductionHypothesis
        (fun fields other later => step fields other (List.mem_cons_of_mem _ later))
        (step target (key, value) (List.mem_cons_self ..) start)

theorem lookup_mergeFields_single (target : List (String × Json)) (key : String) (value : Json)
    (other : String) : (mergeFields target [(key, value)]).lookup other =
      if other = key then patchedField (target.lookup key) value else target.lookup other := by
  simp only [lookup_eq_head?_valuesAt]
  by_cases removed : value = .null
  · subst removed
    rw [mergeFields_null, valuesAt_dropField]
    by_cases here : other = key
    · simp [here, patchedField]
    · simp [here, Ne.symm here]
  · rw [mergeFields_value _ _ removed, valuesAt_setField, patchedField_of_ne _ removed,
      lookup_eq_head?_valuesAt]
    by_cases here : other = key
    · simp [here]
    · simp [here, Ne.symm here]

theorem lookup_mergeFields (target : List (String × Json)) (names : (patch.map Prod.fst).Nodup)
    (key : String) : (mergeFields target patch).lookup key =
      match patch.lookup key with
      | none => target.lookup key
      | some value => patchedField (target.lookup key) value := by
  induction patch generalizing target with
  | nil => rfl
  | cons change rest inductionHypothesis =>
      obtain ⟨name, value⟩ := change
      obtain ⟨fresh, names⟩ := List.nodup_cons.mp names
      rw [mergeFields_cons, inductionHypothesis _ names, Dict.lookup_cons,
        lookup_mergeFields_single]
      by_cases here : key = name
      · have later : rest.lookup name = none :=
          Dict.lookup_eq_none_of_forall_ne fun field there named =>
            fresh (List.mem_map.mpr ⟨field, there, named⟩)
        simp [here, later]
      · simp [here]

theorem lookup_of_mem {fields : List (String × Json)} (names : (fields.map Prod.fst).Nodup)
    (there : (key, value) ∈ fields) : fields.lookup key = some value := by
  induction fields with
  | nil => exact nomatch there
  | cons first rest inductionHypothesis =>
      obtain ⟨name, given⟩ := first
      obtain ⟨fresh, names⟩ := List.nodup_cons.mp names
      rw [Dict.lookup_cons]
      rcases List.mem_cons.mp there with same | later
      · obtain ⟨rfl, rfl⟩ := Prod.mk.inj same
        exact if_pos rfl
      · have elsewhere : key ≠ name := fun same =>
          fresh (List.mem_map.mpr ⟨_, later, same⟩)
        rw [if_neg elsewhere]
        exact inductionHypothesis names later

theorem mem_of_lookup {fields : List (String × Json)} (found : fields.lookup key = some value) :
    (key, value) ∈ fields := by
  obtain ⟨before, after, rfl, -⟩ := List.lookup_eq_some_iff.mp found
  exact List.mem_append_right _ (List.mem_cons_self ..)

theorem setField_of_lookup {fields : List (String × Json)}
    (found : fields.lookup key = some value) : setField key value fields = fields := by
  induction fields with
  | nil => exact nomatch found
  | cons first rest inductionHypothesis =>
      obtain ⟨name, given⟩ := first
      rw [Dict.lookup_cons] at found
      rw [setField]
      split at found
      next here =>
        obtain rfl := Option.some.inj found
        rw [if_pos here.symm, here]
      next elsewhere => rw [if_neg (Ne.symm elsewhere), inductionHypothesis found]

theorem dropField_of_lookup {fields : List (String × Json)} (absent : fields.lookup key = none) :
    dropField key fields = fields := by
  refine List.filter_eq_self.mpr fun field there => decide_eq_true fun named => ?_
  simpa [named] using List.lookup_eq_none_iff.mp absent field there

theorem nodup_setField {fields : List (String × Json)} (names : (fields.map Prod.fst).Nodup) :
    ((setField key value fields).map Prod.fst).Nodup := by
  induction fields with
  | nil => exact List.nodup_cons.mpr ⟨nofun, List.nodup_nil⟩
  | cons first rest inductionHypothesis =>
      rw [setField]
      split
      next here => exact here ▸ names
      next elsewhere =>
        obtain ⟨fresh, names⟩ := List.nodup_cons.mp names
        refine List.nodup_cons.mpr ⟨fun repeated => ?_, inductionHypothesis names⟩
        obtain ⟨field, there, same⟩ := List.mem_map.mp repeated
        rcases mem_setField there with rfl | old
        · exact elsewhere same.symm
        · exact fresh (same ▸ List.mem_map_of_mem old)

theorem mergeFields_eq_self (target : List (String × Json))
    (same : ∀ key value, (key, value) ∈ patch → patchedField (target.lookup key) value =
      target.lookup key) : mergeFields target patch = target := by
  refine mergeFields_induction (motive := (· = target)) ?_ rfl
  rintro _ ⟨key, value⟩ there rfl
  by_cases removed : value = .null
  · subst removed
    rw [mergeFields_null, dropField_of_lookup (same key _ there).symm]
  · have kept := same key value there
    rw [patchedField_of_ne _ removed] at kept
    rw [mergeFields_value _ _ removed, setField_of_lookup kept.symm]

end Fields

section Merge

variable {target patch : Json}

theorem merge_of_plain (target : Json) (plain : patch.isObject = false) :
    merge target patch = patch := by
  cases patch with
  | object => exact nomatch plain
  | _ => simp [merge]

theorem Distinct.lookup {fields : List (String × Json)} {key : String} {value : Json}
    (distinct : Distinct (.object fields)) (found : fields.lookup key = some value) :
    value.Distinct := by
  cases distinct with
  | object _ each => exact each _ (mem_of_lookup found)

/-- What each field of a target becomes under an object. -/
theorem field?_merge (target : Json) {patch : List (String × Json)}
    (names : (patch.map Prod.fst).Nodup) (key : String) :
    (merge target (.object patch)).field? key =
      match patch.lookup key with
      | none => target.field? key
      | some value => patchedField (target.field? key) value := by
  rw [merge]
  exact lookup_mergeFields target.fields names key

/-- Merging is what the RFC defines; to have no target is to have null for one. -/
theorem patched_merge (distinct : patch.Distinct) (target : Option Json) :
    Patched target patch (merge (target.getD .null) patch) := by
  -- By induction on the patch: the fields of an object are patched by smaller ones.
  induction distinct generalizing target with
  | null | bool | number | string | array =>
      rw [merge_of_plain _ rfl]
      exact .whole rfl
  | @object patch names each inductionHypothesis =>
      have old (key : String) : (target.getD .null).field? key = target.bind (·.field? key) := by
        cases target <;> rfl
      have becomes (key : String) : (merge (target.getD .null) (.object patch)).field? key =
          match patch.lookup key with
          | none => target.bind (·.field? key)
          | some value => patchedField (target.bind (·.field? key)) value := by
        rw [field?_merge _ names, old]
      rw [merge] at becomes ⊢
      refine .fields (fun key => merge ((target.bind (·.field? key)).getD .null)
        ((patch.lookup key).getD .null)) ?_ ?_ ?_ ?_
      · intro key unnamed
        exact (becomes key).trans (by rw [unnamed])
      · intro key removed
        exact (becomes key).trans (by rw [removed]; rfl)
      · intro key given named present
        exact (becomes key).trans (by rw [named]; exact patchedField_of_ne _ present)
      · intro key given named present
        rw [named]
        exact inductionHypothesis _ (mem_of_lookup named) _

theorem merge_merge (distinct : patch.Distinct) (target : Json) :
    merge (merge target patch) patch = merge target patch := by
  induction distinct generalizing target with
  | null | bool | number | string | array => rw [merge_of_plain _ rfl, merge_of_plain _ rfl]
  | @object patch names each inductionHypothesis =>
      rw [merge, merge]
      refine congrArg Json.object (mergeFields_eq_self (mergeFields target.fields patch)
        fun key value there => ?_)
      have after : (mergeFields target.fields patch).lookup key =
          patchedField (target.fields.lookup key) value := by
        rw [lookup_mergeFields _ names, lookup_of_mem names there]
      rw [after]
      by_cases removed : value = .null
      · rw [removed]
        rfl
      · rw [patchedField_of_ne _ removed, patchedField_of_ne _ removed, Option.getD_some,
          inductionHypothesis _ there]

theorem distinct_setField {fields : List (String × Json)} {value : Json}
    (distinct : Distinct (.object fields)) (key : String) (given : value.Distinct) :
    Distinct (.object (setField key value fields)) := by
  cases distinct with
  | object names each =>
      refine .object (nodup_setField names) fun field there => ?_
      rcases mem_setField there with rfl | old
      · exact given
      · exact each _ old

theorem distinct_dropField {fields : List (String × Json)}
    (distinct : Distinct (.object fields)) (key : String) :
    Distinct (.object (dropField key fields)) := by
  cases distinct with
  | object names each =>
      exact .object (names.sublist (List.filter_sublist.map _))
        fun field there => each field (List.mem_filter.mp there).1

theorem Distinct.fields (distinct : target.Distinct) : Distinct (.object target.fields) := by
  cases distinct with
  | object names each => exact .object names each
  | _ => exact .object List.nodup_nil nofun

theorem distinct_merge (distinct : patch.Distinct) (tidy : target.Distinct) :
    (merge target patch).Distinct := by
  induction distinct generalizing target with
  | null | bool | number | string =>
      rw [merge_of_plain _ rfl]
      constructor
  | array each =>
      rw [merge_of_plain _ rfl]
      exact .array each
  | @object patch names each inductionHypothesis =>
      rw [merge]
      refine mergeFields_induction (motive := fun fields => Distinct (.object fields)) ?_
        tidy.fields
      rintro fields ⟨key, value⟩ there distinct
      by_cases removed : value = .null
      · rw [removed, mergeFields_null]
        exact distinct_dropField distinct key
      · rw [mergeFields_value _ _ removed]
        refine distinct_setField distinct key (inductionHypothesis _ there ?_)
        cases found : fields.lookup key with
        | none => exact .null
        | some old => exact distinct.lookup found

end Merge

/-- Merging makes of a target what the RFC says, whether it is an object or not, and leads to a
value that again has no field twice. To merge the same patch again changes nothing, and a patch
without fields changes no object. -/
theorem merge_lawful (target : Json) {patch : Json} (distinct : patch.Distinct) :
    Patched (some target) patch (merge target patch) ∧
      (target.Distinct → (merge target patch).Distinct) ∧
      merge (merge target patch) patch = merge target patch ∧
      ∀ fields, merge (.object fields) (.object []) = .object fields := by
  refine ⟨patched_merge distinct (some target), distinct_merge distinct,
    merge_merge distinct target, fun fields => ?_⟩
  rw [merge, mergeFields, Json.fields]

/-- A target that is no object is laid aside: under the fields that are set nulls remove what is not
there, and nulls in arrays stay. -/
theorem merge_lawful_of_string :
    let patch : Json := .object [("spec", .object [("a", .null), ("b", .array [.null])]),
      ("status", .null)]
    let result : Json := .object [("spec", .object [("b", .array [.null])])]
    merge (.string "old") patch = result ∧ Patched (some (.string "old")) patch result ∧
      result.Distinct ∧ merge result patch = result := by
  intro patch result
  have merged : merge (.string "old") patch = result := by
    simp [patch, result, merge, mergeFields, Json.fields, dropField, setField]
  have distinct : patch.Distinct := distinct_collapse patch
  have lawful := merge_lawful (.string "old") distinct
  rw [merged] at lawful
  exact ⟨merged, lawful.1, lawful.2.1 (.string "old"), lawful.2.2.1⟩

end NfsStorage.Json

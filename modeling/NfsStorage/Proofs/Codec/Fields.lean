import NfsStorage.Json.Codec
import NfsStorage.Json.MergePatch

/-!
# Reading and patching the fields of an object

A reader of an object sees nothing but the values of each field. `valuesAt` is that view of a list
of fields, and the statements below say what writing and patching do to it, and what a reader makes
of it.
-/

namespace NfsStorage

open Json

namespace Json

/-- The values given to a field, in their order. -/
def valuesAt (fields : List (String × Json)) (key : String) : List Json :=
  (fields.filter (fun field => field.1 = key)).map (·.2)

@[simp]
theorem valuesAt_nil (key : String) : valuesAt [] key = [] := rfl

theorem valuesAt_cons (name key : String) (value : Json) (rest : List (String × Json)) :
    valuesAt ((name, value) :: rest) key =
      if name = key then value :: valuesAt rest key else valuesAt rest key := by
  by_cases same : name = key <;> simp [valuesAt, same]

@[simp]
theorem valuesAt_append (first second : List (String × Json)) (key : String) :
    valuesAt (first ++ second) key = valuesAt first key ++ valuesAt second key := by
  simp [valuesAt]

@[simp]
theorem valuesAt_fieldOf {α : Type} [JsonCodec α] (name key : String) (value : α) :
    valuesAt (fieldOf name value) key = if name = key then [encode value] else [] :=
  valuesAt_cons name key _ []

@[simp]
theorem valuesAt_fieldOf? {α : Type} [JsonCodec α] (name key : String) (value : Option α) :
    valuesAt (fieldOf? name value) key =
      if name = key then (value.map encode).toList else [] := by
  cases value with
  | none => simp [fieldOf?]
  | some value => exact valuesAt_cons name key _ []

theorem valuesAt_setField (name key : String) (value : Json) (fields : List (String × Json)) :
    valuesAt (setField name value fields) key =
      if name = key then value :: (valuesAt fields key).tail else valuesAt fields key := by
  induction fields with
  | nil => exact valuesAt_cons name key value []
  | cons first rest inductionHypothesis =>
      obtain ⟨k, v⟩ := first
      rw [setField]
      split
      next here =>
        subst here
        simp only [valuesAt_cons]
        split <;> rfl
      next elsewhere =>
        rw [valuesAt_cons, inductionHypothesis, valuesAt_cons]
        by_cases target : name = key
        · subst target
          simp [elsewhere]
        · simp [target]

theorem mem_setField {key : String} {value : Json} {fields : List (String × Json)}
    {field : String × Json} (member : field ∈ setField key value fields) :
    field = (key, value) ∨ field ∈ fields := by
  induction fields with
  | nil => exact Or.inl (List.mem_singleton.mp member)
  | cons first rest inductionHypothesis =>
      rw [setField] at member
      split at member
      next =>
        exact (List.mem_cons.mp member).imp_right (List.mem_cons_of_mem _)
      next =>
        rcases List.mem_cons.mp member with rfl | later
        · exact Or.inr (List.mem_cons_self ..)
        · exact (inductionHypothesis later).imp_right (List.mem_cons_of_mem _)

theorem valuesAt_dropField (name key : String) (fields : List (String × Json)) :
    valuesAt (dropField name fields) key = if name = key then [] else valuesAt fields key := by
  rw [valuesAt, dropField, List.filter_filter]
  split
  next same =>
    subst same
    simp
  next different =>
    congr 1
    apply List.filter_congr
    intro field _
    by_cases here : field.1 = key
    · have apart : ¬ key = name := fun same => different same.symm
      simp [here, apart]
    · simp [here]

theorem lookup_eq_head?_valuesAt (fields : List (String × Json)) (key : String) :
    fields.lookup key = (valuesAt fields key).head? := by
  induction fields with
  | nil => rfl
  | cons first rest inductionHypothesis =>
      obtain ⟨k, v⟩ := first
      rw [Dict.lookup_cons, valuesAt_cons, inductionHypothesis]
      by_cases same : k = key
      · simp [same]
      · have apart : ¬ key = k := fun equal => same equal.symm
        simp [same, apart]

theorem mergeFields_cons (target : List (String × Json)) (key : String) (value : Json)
    (rest : List (String × Json)) :
    mergeFields target ((key, value) :: rest) =
      mergeFields (mergeFields target [(key, value)]) rest := by
  cases value <;> simp [mergeFields]

theorem mergeFields_null (target : List (String × Json)) (key : String) :
    mergeFields target [(key, .null)] = dropField key target := by
  simp [mergeFields]

theorem mergeFields_value (target : List (String × Json)) (key : String) {value : Json}
    (given : value ≠ .null) :
    mergeFields target [(key, value)] =
      setField key (merge ((target.lookup key).getD .null) value) target := by
  cases value <;> simp_all [mergeFields]

end Json

/-- What is written is read back, and no value is written as null. -/
class LawfulCodec (α : Type) [JsonCodec α] : Prop where
  decode_encode : ∀ value : α, decode (encode value) = some value
  encode_ne_null : ∀ value : α, encode value ≠ .null

export LawfulCodec (decode_encode encode_ne_null)

attribute [simp] decode_encode encode_ne_null

theorem decodeNullable_of_ne_null {α : Type} [JsonCodec α] {j : Json} (given : j ≠ .null) :
    decodeNullable j = (decode j : Option α).map some := by
  cases j <;> first | rfl | exact absurd rfl given

instance : LawfulCodec String := ⟨fun _ => rfl, fun _ => Json.noConfusion⟩

instance : LawfulCodec Bool := ⟨fun _ => rfl, fun _ => Json.noConfusion⟩

theorem decodeInteger_int {least greatest value : Int} (above : least ≤ value)
    (below : value ≤ greatest) : decodeInteger least greatest (.int value) = some value :=
  if_pos ⟨above, below⟩

instance : LawfulCodec Int32 where
  decode_encode value := by
    have above := value.le_toInt
    have below := value.toInt_lt
    change (decodeInteger _ _ (.int value.toInt)).map Int32.ofInt = some value
    rw [decodeInteger_int (by omega) (by omega), Option.map_some, Int32.ofInt_toInt]
  encode_ne_null _ := Json.noConfusion

instance : LawfulCodec Int64 where
  decode_encode value := by
    have above := value.le_toInt
    have below := value.toInt_lt
    change (decodeInteger _ _ (.int value.toInt)).map Int64.ofInt = some value
    rw [decodeInteger_int (by omega) (by omega), Option.map_some, Int64.ofInt_toInt]
  encode_ne_null _ := Json.noConfusion

section Containers

variable {α : Type} [JsonCodec α] [LawfulCodec α]

theorem mapM_decode_map_encode (items : List α) : (items.map encode).mapM decode = some items := by
  induction items with
  | nil => rfl
  | cons item rest inductionHypothesis =>
      rw [List.map_cons, List.mapM_cons, decode_encode, inductionHypothesis]
      rfl

instance : LawfulCodec (List α) where
  decode_encode := mapM_decode_map_encode
  encode_ne_null _ := Json.noConfusion

theorem decodeEntries_map_encode (entries : List (String × α)) :
    decodeEntries (entries.map fun entry => (entry.1, encode entry.2)) = some entries := by
  rw [decodeEntries]
  induction entries with
  | nil => rfl
  | cons entry rest inductionHypothesis =>
      rw [List.map_cons, List.mapM_cons, decode_encode, inductionHypothesis]
      rfl

instance : LawfulCodec (Dict α) where
  decode_encode d := by
    change (decodeEntries (d.entries.map fun entry => (entry.1, encode entry.2))).map Dict.ofList =
      some d
    rw [decodeEntries_map_encode, Option.map_some, Dict.ofList_entries]
  encode_ne_null _ := Json.noConfusion

end Containers

namespace Json.Members

variable {α : Type} [JsonCodec α]

theorem valuesOf_mk (fields : List (String × Json)) (key : String) :
    (Members.mk fields).valuesOf key = valuesAt fields key := rfl

theorem optional_of_values_nil {fields : List (String × Json)} {key : String}
    (values : valuesAt fields key = []) :
    ((Members.mk fields).optional key : Option (Option α)) = some none := by
  simp [optional, valuesOf_mk, values]

theorem optional_of_values_single {fields : List (String × Json)} {key : String} {j : Json}
    (values : valuesAt fields key = [j]) (given : j ≠ .null) :
    ((Members.mk fields).optional key : Option (Option α)) = (decode j).map some := by
  rw [optional, valuesOf_mk, values]
  cases read : (decode j : Option α) <;> simp [decodeNullable_of_ne_null given, read]

/-- A value that is written and read again as another. -/
theorem optional_of_reread {fields : List (String × Json)} (key : String) (value : Option α)
    {reread : α → α} (values : valuesAt fields key = (value.map encode).toList)
    (given : ∀ v, value = some v → encode v ≠ .null)
    (read : ∀ v, value = some v → decode (encode v) = some (reread v)) :
    (Members.mk fields).optional key = some (value.map reread) := by
  cases value with
  | none => exact optional_of_values_nil values
  | some value =>
      rw [optional_of_values_single values (given value rfl), read value rfl]
      rfl

theorem optional_of_values [LawfulCodec α] {fields : List (String × Json)} (key : String)
    (value : Option α) (values : valuesAt fields key = (value.map encode).toList) :
    (Members.mk fields).optional key = some value := by
  have reread : ∀ v, value = some v → decode (encode v) = some (id v) := fun v _ => decode_encode v
  rw [optional_of_reread key value values (fun v _ => encode_ne_null v) reread, Option.map_id_fun,
    id]

theorem orDefault_of_values [LawfulCodec α] {fields : List (String × Json)} (key : String)
    (value default : α) (values : valuesAt fields key = [encode value]) :
    (Members.mk fields).orDefault key default = some value := by
  rw [orDefault, optional_of_values key (some value) values]
  rfl

theorem optional_congr {fields fields' : List (String × Json)} {key : String}
    (same : valuesAt fields' key = valuesAt fields key) :
    ((Members.mk fields').optional key : Option (Option α)) = (Members.mk fields).optional key := by
  rw [optional, optional, valuesOf_mk, valuesOf_mk, same]

theorem orDefault_congr {fields fields' : List (String × Json)} {key : String}
    (same : valuesAt fields' key = valuesAt fields key) (default : α) :
    (Members.mk fields').orDefault key default = (Members.mk fields).orDefault key default := by
  rw [orDefault, orDefault, optional_congr same]

theorem constant_congr {fields fields' : List (String × Json)} {key : String}
    (same : valuesAt fields' key = valuesAt fields key) (text : String) :
    (Members.mk fields').constant key text = (Members.mk fields).constant key text := by
  rw [constant, constant, valuesOf_mk, valuesOf_mk, same]

theorem orDefault_of_values_single {fields : List (String × Json)} {key : String} {j : Json}
    (default : α) (values : valuesAt fields key = [j]) (given : j ≠ .null) :
    (Members.mk fields).orDefault key default = decode j := by
  rw [orDefault, optional_of_values_single values given, Option.map_map]
  cases (decode j : Option α) <;> rfl

theorem constant_of_values {fields : List (String × Json)} {key text : String}
    (values : valuesAt fields key = [.string text]) :
    (Members.mk fields).constant key text = some () := by
  rw [constant, valuesOf_mk, values]
  exact if_pos (by simp [decode])

theorem exists_of_mem_mapM {α β : Type} {f : α → Option β} {items : List α} {values : List β}
    (read : items.mapM f = some values) {value : β} (membership : value ∈ values) :
    ∃ item, f item = some value := by
  induction items generalizing values with
  | nil =>
      obtain rfl : [] = values := Option.some.inj read
      simp at membership
  | cons item rest inductionHypothesis =>
      simp only [List.mapM_cons, Option.bind_eq_bind, Option.bind_eq_some_iff] at read
      obtain ⟨first, firstRead, others, othersRead, made⟩ := read
      obtain rfl := Option.some.inj made
      rcases List.mem_cons.mp membership with rfl | later
      · exact ⟨item, firstRead⟩
      · exact inductionHypothesis othersRead later

theorem exists_decode_of_optional {fields : List (String × Json)} {key : String} {value : α}
    (read : (Members.mk fields).optional key = some (some value)) :
    ∃ j : Json, decode j = some value := by
  obtain ⟨values, valuesRead, last⟩ := Option.map_eq_some_iff.mp read
  have membership : some value ∈ values := by
    rw [Option.join_eq_some_iff] at last
    exact List.mem_of_getLast? last
  obtain ⟨j, nullable⟩ := exists_of_mem_mapM valuesRead membership
  refine ⟨j, ?_⟩
  by_cases absent : j = .null
  · subst absent
    simp [decodeNullable] at nullable
  · rw [decodeNullable_of_ne_null absent] at nullable
    simpa using nullable

theorem decode_of_orDefault {fields : List (String × Json)} {key : String} {value default : α}
    (read : (Members.mk fields).orDefault key default = some value) :
    value = default ∨ ∃ j : Json, decode j = some value := by
  obtain ⟨found, optionalRead, made⟩ := Option.map_eq_some_iff.mp read
  cases found with
  | none => exact Or.inl made.symm
  | some found =>
      obtain rfl : found = value := made
      exact Or.inr (exists_decode_of_optional optionalRead)

end Json.Members

namespace Json.Record

variable {α : Type} [JsonCodec α]

theorem single_mk (fields : List (String × Json)) (positional : Bool) (key : String) :
    (Record.mk fields positional).single [key] =
      match valuesAt fields key with
      | [] => some none
      | [value] => some (some value)
      | _ => none := by
  have filtered : fields.filter (fun field => [key].contains field.1) =
      fields.filter (fun field => field.1 = key) := by
    apply List.filter_congr
    intro field _
    rw [List.contains_cons, List.contains_nil, Bool.or_false]
    rfl
  rw [single, filtered, valuesAt]
  generalize fields.filter (fun field => field.1 = key) = found
  rcases found with _ | ⟨first, _ | ⟨second, rest⟩⟩ <;> rfl

theorem single_congr {fields fields' : List (String × Json)} {key : String}
    (same : valuesAt fields' key = valuesAt fields key) :
    (Record.mk fields' false).single [key] = (Record.mk fields false).single [key] := by
  rw [single_mk, single_mk, same]

theorem required_congr {fields fields' : List (String × Json)} {key : String}
    (same : valuesAt fields' key = valuesAt fields key) :
    ((Record.mk fields' false).required key : Option α) =
      (Record.mk fields false).required key := by
  rw [required, required, given, given, single_congr same]

theorem optional_congr {fields fields' : List (String × Json)} {key : String}
    (same : valuesAt fields' key = valuesAt fields key) :
    ((Record.mk fields' false).optional key : Option (Option α)) =
      (Record.mk fields false).optional key := by
  rw [optional, optional, single_congr same]

theorem orDefault_congr {fields fields' : List (String × Json)} {key : String}
    (same : valuesAt fields' key = valuesAt fields key) (default : α) :
    (Record.mk fields' false).orDefault key default =
      (Record.mk fields false).orDefault key default := by
  rw [orDefault, orDefault, single_congr same]

theorem nullable_congr {fields fields' : List (String × Json)} {key : String}
    (same : valuesAt fields' key = valuesAt fields key) :
    ((Record.mk fields' false).nullable [key] : Option (Option α)) =
      (Record.mk fields false).nullable [key] := by
  rw [nullable, nullable, single_congr same]

theorem required_of_values_single {fields : List (String × Json)} {positional : Bool}
    {key : String} {j : Json} (values : valuesAt fields key = [j]) :
    ((Record.mk fields positional).required key : Option α) = decode j := by
  rw [required, given, single_mk, values]
  rfl

theorem required_of_values [LawfulCodec α] {fields : List (String × Json)} {positional : Bool}
    (key : String) (value : α) (values : valuesAt fields key = [encode value]) :
    (Record.mk fields positional).required key = some value := by
  rw [required_of_values_single values, decode_encode]

theorem orDefault_of_values_single {fields : List (String × Json)} {positional : Bool}
    {key : String} {j : Json} (default : α) (values : valuesAt fields key = [j]) :
    (Record.mk fields positional).orDefault key default = decode j := by
  rw [orDefault, single_mk, values]
  rfl

theorem orDefault_of_values [LawfulCodec α] {fields : List (String × Json)} {positional : Bool}
    (key : String) (value default : α) (values : valuesAt fields key = [encode value]) :
    (Record.mk fields positional).orDefault key default = some value := by
  rw [orDefault_of_values_single default values, decode_encode]

theorem optional_of_values [LawfulCodec α] {fields : List (String × Json)} {positional : Bool}
    (key : String) (value : Option α) (values : valuesAt fields key = (value.map encode).toList) :
    (Record.mk fields positional).optional key = some value := by
  rw [optional, single_mk, values]
  cases value with
  | none => rfl
  | some value =>
      simp [decodeNullable_of_ne_null (encode_ne_null value)]

theorem nullable_of_values [LawfulCodec α] {fields : List (String × Json)} (key : String)
    (value : Option α) (values : valuesAt fields key = (value.map encode).toList) :
    (Record.mk fields false).nullable [key] = some value := by
  rw [nullable, single_mk, values]
  cases value with
  | none => rfl
  | some value =>
      simp [decodeNullable_of_ne_null (encode_ne_null value)]

theorem exists_decode_of_required {r : Record} {key : String} {value : α}
    (read : r.required key = some value) : ∃ j : Json, decode j = some value := by
  obtain ⟨j, -, decoded⟩ := Option.bind_eq_some_iff.mp read
  exact ⟨j, decoded⟩

theorem decode_of_orDefault {r : Record} {key : String} {value default : α}
    (read : r.orDefault key default = some value) :
    value = default ∨ ∃ j : Json, decode j = some value := by
  obtain ⟨found, -, decoded⟩ := Option.bind_eq_some_iff.mp read
  cases found with
  | none => exact Or.inl (Option.some.inj decoded).symm
  | some j => exact Or.inr ⟨j, decoded⟩

end Json.Record

end NfsStorage

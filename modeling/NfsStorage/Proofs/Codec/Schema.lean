import NfsStorage.Json.Schema
import NfsStorage.Proofs.Codec.Time
import NfsStorage.Proofs.Json.MergePatch

/-!
# Values that are written again

What is written of a value of a schema is a value of it again, and the same is written of that one.
So a record of which only the written form is kept loses nothing when it is read and written.
-/

namespace NfsStorage.Json.Schema

theorem decode_rewritten {α : Type} [JsonCodec α] [LawfulCodec α] {j v : Json}
    (read : (decode j : Option α).map encode = some v) :
    (decode v : Option α).map encode = some v := by
  obtain ⟨value, -, rfl⟩ := Option.map_eq_some_iff.mp read
  rw [decode_encode, Option.map_some]

theorem decoded_ne_null {α : Type} [JsonCodec α] [LawfulCodec α] {j v : Json}
    (read : (decode j : Option α).map encode = some v) : v ≠ .null := by
  obtain ⟨value, -, rfl⟩ := Option.map_eq_some_iff.mp read
  exact encode_ne_null value

theorem rewriteInt32OrText_rewriteInt32OrText {j v : Json} (read : rewriteInt32OrText j = some v) :
    rewriteInt32OrText v = some v := by
  cases j with
  | string written =>
      obtain rfl := Option.some.inj read
      rfl
  | number value =>
      obtain ⟨n, -, rfl⟩ := Option.map_eq_some_iff.mp read
      exact decode_rewritten read
  | _ => exact nomatch read

theorem rewriteTime_rewriteTime {j v : Json} (read : rewriteTime j = some v) :
    rewriteTime v = some v := by
  cases j with
  | string written =>
      obtain ⟨t, parsed, rfl⟩ := Option.map_eq_some_iff.mp read
      rw [rewriteTime, Time.parse?_secondsText (Time.valid_of_parse? parsed), Option.map_some]
      rfl
  | _ => exact nomatch read

theorem rewriteFree_eq_some {j v : Json} (read : rewriteFree j = some v) :
    v = j.collapse ∧ v ≠ .null := by
  cases j with
  | null => exact nomatch read
  | _ =>
      obtain rfl := Option.some.inj read
      exact ⟨rfl, by simp [collapse]⟩

theorem rewriteFree_rewriteFree {j v : Json} (read : rewriteFree j = some v) :
    rewriteFree v = some v := by
  obtain ⟨rfl, given⟩ := rewriteFree_eq_some read
  have again := collapse_of_distinct (distinct_collapse j)
  generalize j.collapse = v at given again
  cases v <;> first | exact absurd rfl given | exact congrArg some again

theorem rewriteNullable_of_ne_null {rewrite : Json → Option Json} {j : Json} (given : j ≠ .null) :
    rewriteNullable rewrite j = (rewrite j).map some := by
  cases j <;> first | rfl | exact absurd rfl given

theorem rewrite_of_rewriteNullable {rewrite : Json → Option Json} {j v : Json}
    (read : rewriteNullable rewrite j = some (some v)) : rewrite j = some v := by
  cases j with
  | null => exact nomatch read
  | _ => simpa [rewriteNullable] using read

theorem ne_null_of_rewrite {s : Schema} {j v : Json} (read : s.rewrite j = some v) : v ≠ .null := by
  cases s with
  | text | flag | int32 | int64 =>
      rw [rewrite] at read
      exact decoded_ne_null read
  | int32OrText =>
      rw [rewrite] at read
      cases j with
      | string written =>
          obtain rfl := Option.some.inj read
          exact Json.noConfusion
      | number value => exact decoded_ne_null read
      | _ => exact nomatch read
  | time =>
      rw [rewrite] at read
      cases j with
      | string written =>
          obtain ⟨t, -, rfl⟩ := Option.map_eq_some_iff.mp read
          exact Json.noConfusion
      | _ => exact nomatch read
  | free =>
      rw [rewrite] at read
      exact (rewriteFree_eq_some read).2
  | list | dict | object =>
      cases j <;> simp only [rewrite, reduceCtorEq] at read
      obtain ⟨_, -, rfl⟩ := Option.map_eq_some_iff.mp read
      exact Json.noConfusion

/-- The fields of a record as they are written, each with a value of which the same is written, and
all that are needed among them. -/
inductive Written : List Field → List (String × Json) → Prop where
  | nil : Written [] []
  | given {key : String} {isNeeded : Bool} {s : Schema} {v : Json} {known : List Field}
      {fields : List (String × Json)} (again : s.rewrite v = some v) (rest : Written known fields) :
      Written ((key, isNeeded, s) :: known) ((key, v) :: fields)
  | absent {key : String} {s : Schema} {known : List Field} {fields : List (String × Json)}
      (rest : Written known fields) : Written ((key, false, s) :: known) fields

variable {known : List Field} {fields : List (String × Json)}

theorem Written.valuesAt_eq_nil (written : Written known fields) {key : String}
    (unknown : key ∉ known.map (·.1)) : valuesAt fields key = [] := by
  induction written with
  | nil => rfl
  | given _ _ inductionHypothesis =>
      rw [List.map_cons, List.mem_cons, not_or] at unknown
      rw [valuesAt_cons, if_neg (Ne.symm unknown.1), inductionHypothesis unknown.2]
  | absent _ inductionHypothesis =>
      rw [List.map_cons, List.mem_cons, not_or] at unknown
      exact inductionHypothesis unknown.2

/-- Whatever stands beside them, the fields are written again as they were. -/
theorem Written.rewriteFields_eq (written : Written known fields)
    (distinct : (known.map (·.1)).Nodup) {given : List (String × Json)}
    (same : ∀ key ∈ known.map (·.1), valuesAt given key = valuesAt fields key) :
    rewriteFields known ⟨given⟩ = some fields := by
  induction written with
  | nil => rfl
  | @given key isNeeded s v known fields again rest inductionHypothesis =>
      obtain ⟨fresh, distinct⟩ := List.nodup_cons.mp distinct
      have here : (Members.mk given).valuesOf key = [v] := by
        rw [Members.valuesOf_mk, same key (List.mem_cons_self ..), valuesAt_cons, if_pos rfl,
          rest.valuesAt_eq_nil fresh]
      have others := inductionHypothesis distinct fun other there => by
        have apart : ¬ key = other := by
          rintro rfl
          exact fresh there
        rw [same other (List.mem_cons_of_mem _ there), valuesAt_cons, if_neg apart]
      rw [rewriteFields, here, others]
      simp [rewriteNullable_of_ne_null (ne_null_of_rewrite again), again]
  | @absent key s known fields rest inductionHypothesis =>
      obtain ⟨fresh, distinct⟩ := List.nodup_cons.mp distinct
      have here : (Members.mk given).valuesOf key = [] := by
        rw [Members.valuesOf_mk, same key (List.mem_cons_self ..), rest.valuesAt_eq_nil fresh]
      have others := inductionHypothesis distinct fun other there =>
        same other (List.mem_cons_of_mem _ there)
      rw [rewriteFields, here, others]
      rfl

theorem mapM_eq_self {α : Type} {f : α → Option α} {items : List α}
    (each : ∀ item ∈ items, f item = some item) : items.mapM f = some items := by
  induction items with
  | nil => rfl
  | cons item rest inductionHypothesis =>
      rw [List.mapM_cons, each item (List.mem_cons_self ..),
        inductionHypothesis fun other later => each other (List.mem_cons_of_mem _ later)]
      rfl

mutual

theorem rewrite_empty : (s : Schema) → s.isProper = true → s.rewrite s.empty = some s.empty
  | .text, _ | .flag, _ | .int32, _ | .int64, _ | .int32OrText, _ | .free, _ | .list _, _
  | .dict _, _ => rfl
  | .time, _ => by
      rw [rewrite, empty]
      decide +kernel
  | .object known, proper => by
      rw [isProper, Bool.and_eq_true, decide_eq_true_eq] at proper
      rw [empty, rewrite, (written_emptyFields known proper.2).rewriteFields_eq proper.1 fun _ _ => rfl,
        Option.map_some]

theorem written_emptyFields :
    (known : List Field) → areProper known = true → Written known (emptyFields known)
  | [], _ => .nil
  | (key, isNeeded, s) :: known, proper => by
      rw [areProper, Bool.and_eq_true] at proper
      have rest := written_emptyFields known proper.2
      cases isNeeded with
      | true => exact .given (rewrite_empty s proper.1) rest
      | false => exact .absent rest

end

mutual

theorem rewrite_rewrite : (s : Schema) → s.isProper = true → {j v : Json} →
    s.rewrite j = some v → s.rewrite v = some v
  | .text, _, _, _, read => by
      rw [rewrite] at read ⊢
      exact decode_rewritten read
  | .flag, _, _, _, read => by
      rw [rewrite] at read ⊢
      exact decode_rewritten read
  | .int32, _, _, _, read => by
      rw [rewrite] at read ⊢
      exact decode_rewritten read
  | .int64, _, _, _, read => by
      rw [rewrite] at read ⊢
      exact decode_rewritten read
  | .int32OrText, _, _, _, read => by
      rw [rewrite] at read ⊢
      exact rewriteInt32OrText_rewriteInt32OrText read
  | .time, _, _, _, read => by
      rw [rewrite] at read ⊢
      exact rewriteTime_rewriteTime read
  | .free, _, _, _, read => by
      rw [rewrite] at read ⊢
      exact rewriteFree_rewriteFree read
  | .list item, proper, j, _, read => by
      cases j <;> simp only [rewrite, reduceCtorEq] at read
      obtain ⟨values, each, rfl⟩ := Option.map_eq_some_iff.mp read
      rw [rewrite, mapM_eq_self, Option.map_some]
      intro value there
      obtain ⟨given, valueRead⟩ := Members.exists_of_mem_mapM each there
      exact rewrite_rewrite item proper valueRead
  | .dict value, proper, j, _, read => by
      cases j <;> simp only [rewrite, reduceCtorEq] at read
      obtain ⟨entries, each, rfl⟩ := Option.map_eq_some_iff.mp read
      rw [rewrite, mapM_eq_self, Option.map_some, Dict.ofList_entries]
      intro entry there
      obtain ⟨given, entryRead⟩ := Members.exists_of_mem_mapM each (Dict.mem_of_mem_ofList there)
      obtain ⟨v, valueRead, rfl⟩ := Option.map_eq_some_iff.mp entryRead
      rw [rewrite_rewrite value proper valueRead]
      rfl
  | .object known, proper, j, _, read => by
      cases j <;> simp only [rewrite, reduceCtorEq] at read
      obtain ⟨fields, fieldsRead, rfl⟩ := Option.map_eq_some_iff.mp read
      rw [isProper, Bool.and_eq_true, decide_eq_true_eq] at proper
      have written := written_of_rewriteFields known proper.2 fieldsRead
      rw [rewrite, written.rewriteFields_eq proper.1 fun _ _ => rfl, Option.map_some]

theorem written_of_rewriteFields : (known : List Field) → areProper known = true →
    {m : Members} → {fields : List (String × Json)} → rewriteFields known m = some fields →
    Written known fields
  | [], _, _, _, read => by
      obtain rfl := Option.some.inj read
      exact .nil
  | (key, isNeeded, s) :: known, proper, m, fields, read => by
      rw [areProper, Bool.and_eq_true] at proper
      simp only [rewriteFields, Option.bind_eq_bind, Option.bind_eq_some_iff] at read
      obtain ⟨values, each, others, othersRead, made⟩ := read
      obtain rfl := Option.some.inj made
      have rest := written_of_rewriteFields known proper.2 othersRead
      cases last : values.getLast?.join with
      | some v =>
          have there : some v ∈ values := List.mem_of_getLast? (Option.join_eq_some_iff.mp last)
          obtain ⟨j, valueRead⟩ := Members.exists_of_mem_mapM each there
          exact .given (rewrite_rewrite s proper.1 (rewrite_of_rewriteNullable valueRead)) rest
      | none =>
          cases isNeeded with
          | true => exact .given (rewrite_empty s proper.1) rest
          | false => exact .absent rest

end

end NfsStorage.Json.Schema

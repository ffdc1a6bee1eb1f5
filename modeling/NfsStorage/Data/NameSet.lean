import NfsStorage.Data.Dict

/-!
Names in increasing order without repetition.
-/

namespace NfsStorage

def sortedNames (names : List String) : List String :=
  (Dict.ofList (names.map fun name => (name, ()))).keys

theorem get?_foldl_insert_same {α : Type} (names : List String) (value : α) (base : Dict α)
    (target : String) : ((names.map fun name => (name, value)).foldl
      (fun d entry => d.insert entry.1 entry.2) base).get? target =
        if target ∈ names then some value else base.get? target := by
  induction names generalizing base with
  | nil => simp
  | cons name rest inductionHypothesis =>
      rw [List.map_cons, List.foldl_cons, inductionHypothesis, Dict.get?_insert]
      by_cases here : target = name <;> by_cases later : target ∈ rest <;> simp [here, later]

theorem Dict.get?_ofList_same {α : Type} (names : List String) (value : α) (target : String) :
    (Dict.ofList (names.map fun name => (name, value))).get? target =
      if target ∈ names then some value else none :=
  get?_foldl_insert_same names value empty target

theorem Dict.mem_keys_iff {α : Type} (d : Dict α) (key : String) :
    key ∈ d.keys ↔ (d.get? key).isSome := by
  rw [Dict.keys, List.mem_map, Option.isSome_iff_exists]
  constructor
  · rintro ⟨⟨k, value⟩, membership, rfl⟩
    exact ⟨value, (d.get?_eq_some_iff).mpr membership⟩
  · rintro ⟨value, found⟩
    exact ⟨(key, value), (d.get?_eq_some_iff).mp found, rfl⟩

@[simp]
theorem mem_sortedNames {name : String} {names : List String} :
    name ∈ sortedNames names ↔ name ∈ names := by
  rw [sortedNames, Dict.mem_keys_iff, Dict.get?_ofList_same]
  by_cases membership : name ∈ names <;> simp [membership]

end NfsStorage

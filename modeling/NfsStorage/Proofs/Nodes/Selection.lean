import NfsStorage.Selector

/-!
# What a selector looks at

A selector is a list of conditions, each on one label. Labels that do not occur in it make no
difference to what it selects.
-/

namespace NfsStorage

def Condition.key : Condition → String
  | equals key _ | isIn key _ | notIn key _ | present key | absent key => key

/-- A label occurs in the selector. -/
def LabelSelector.Mentions (s : LabelSelector) (key : String) : Prop :=
  (∃ value, (s.matchLabels.getD ∅).get? key = some value) ∨
    ∃ r ∈ s.matchExpressions.getD [], r.key = key

theorem Condition.holds_congr {labels other : Dict String} {c : Condition}
    (same : other.get? c.key = labels.get? c.key) : c.holds other = c.holds labels := by
  cases c with
  | equals key value | isIn key values | notIn key values =>
      have same : other.get? key = labels.get? key := same
      simp only [holds, same]
  | present key | absent key =>
      have same : other.get? key = labels.get? key := same
      simp only [holds, Dict.contains, same]

theorem Requirement.key_of_condition {r : Requirement} {c : Condition}
    (parsed : r.condition = .ok c) : c.key = r.key := by
  unfold condition at parsed
  split at parsed <;> cases parsed <;> rfl

theorem bind_eq_ok_iff {α β ε : Type} {result : Except ε α} {f : α → Except ε β} {value : β} :
    result >>= f = .ok value ↔ ∃ a, result = .ok a ∧ f a = .ok value := by
  cases result <;> simp [bind, Except.bind]

theorem exists_of_mapM_ok {α β ε : Type} {f : α → Except ε β} {items : List α} {values : List β}
    (parsed : items.mapM f = .ok values) :
    (∀ item ∈ items, ∃ value ∈ values, f item = .ok value) ∧
      ∀ value ∈ values, ∃ item ∈ items, f item = .ok value := by
  induction items generalizing values with
  | nil =>
      obtain rfl : [] = values := Except.ok.inj parsed
      exact ⟨nofun, nofun⟩
  | cons item rest inductionHypothesis =>
      rw [List.mapM_cons, bind_eq_ok_iff] at parsed
      obtain ⟨head, first, parsed⟩ := parsed
      obtain ⟨tail, others, parsed⟩ := bind_eq_ok_iff.mp parsed
      obtain rfl : head :: tail = values := Except.ok.inj parsed
      obtain ⟨values, items⟩ := inductionHypothesis others
      constructor
      · intro other membership
        rcases List.mem_cons.mp membership with rfl | later
        · exact ⟨head, List.mem_cons_self .., first⟩
        · obtain ⟨value, there, same⟩ := values other later
          exact ⟨value, List.mem_cons_of_mem _ there, same⟩
      · intro value membership
        rcases List.mem_cons.mp membership with rfl | later
        · exact ⟨item, List.mem_cons_self .., first⟩
        · obtain ⟨other, there, same⟩ := items value later
          exact ⟨other, List.mem_cons_of_mem _ there, same⟩

namespace LabelSelector

variable {s : LabelSelector} {conditions : List Condition}

theorem mentions_of_mem (parsed : s.conditions = .ok conditions) {c : Condition}
    (membership : c ∈ conditions) : s.Mentions c.key := by
  unfold LabelSelector.conditions at parsed
  generalize expressions : (s.matchExpressions.getD []).mapM Requirement.condition = result at parsed
  cases result with
  | error e => exact nomatch parsed
  | ok parsedExpressions =>
      obtain rfl := Except.ok.inj parsed
      rcases List.mem_append.mp membership with single | expression
      · obtain ⟨⟨key, value⟩, entry, rfl⟩ := List.mem_map.mp single
        exact Or.inl ⟨value, (Dict.get?_eq_some_iff _).mpr entry⟩
      · obtain ⟨r, there, same⟩ := (exists_of_mapM_ok expressions).2 _ expression
        exact Or.inr ⟨r, there, (Requirement.key_of_condition same).symm⟩

/-- A selector looks only at the labels that occur in it. -/
theorem selects_congr (parsed : s.conditions = .ok conditions) {key : String}
    (silent : ¬ s.Mentions key) {labels other : Option (Dict String)}
    (same : ∀ target, target ≠ key → (other.getD ∅).get? target = (labels.getD ∅).get? target) :
    s.selects other = s.selects labels := by
  have each : ∀ c ∈ conditions, c.holds (other.getD ∅) = c.holds (labels.getD ∅) := by
    intro c membership
    refine Condition.holds_congr (same c.key fun here => silent ?_)
    rw [← here]
    exact mentions_of_mem parsed membership
  rw [selects, selects, parsed]
  refine congrArg Except.ok (Bool.eq_iff_iff.mpr ?_)
  rw [List.all_eq_true, List.all_eq_true]
  exact forall₂_congr fun c membership => by rw [each c membership]

end LabelSelector

end NfsStorage

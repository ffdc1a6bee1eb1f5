/-!
Maps from text keys to values. The entries are kept with strictly increasing keys, so two maps
with the same look-ups are equal (`Dict.ext_get?`).
-/

namespace NfsStorage

/-- A finite map whose keys are text, in increasing order of their code points. -/
structure Dict (α : Type) where
  entries : List (String × α)
  increasing : entries.Pairwise (fun a b => a.1 < b.1)
deriving DecidableEq

namespace Dict

variable {α β : Type}

/-- Place an entry among entries with increasing keys, taking the place of one with its key. -/
def insertEntry (key : String) (value : α) : List (String × α) → List (String × α)
  | [] => [(key, value)]
  | (k, v) :: rest =>
    if key < k then (key, value) :: (k, v) :: rest
    else if k < key then (k, v) :: insertEntry key value rest
    else (key, value) :: rest

theorem eq_of_not_lt {a b : String} (notLess : ¬ a < b) (notGreater : ¬ b < a) : a = b :=
  String.le_antisymm (String.not_lt.mp notGreater) (String.not_lt.mp notLess)

theorem ne_of_lt {a b : String} (less : a < b) : a ≠ b := by
  rintro rfl
  exact String.lt_irrefl _ less

theorem mem_insertEntry {key : String} {value : α} {entry : String × α}
    {entries : List (String × α)} (membership : entry ∈ insertEntry key value entries) :
    entry = (key, value) ∨ entry ∈ entries := by
  induction entries with
  | nil => simpa [insertEntry] using membership
  | cons first rest inductionHypothesis =>
      obtain ⟨k, v⟩ := first
      rw [insertEntry] at membership
      split at membership
      · simpa using membership
      · split at membership
        · rcases List.mem_cons.mp membership with here | later
          · exact Or.inr (List.mem_cons.mpr (Or.inl here))
          · exact (inductionHypothesis later).imp_right (List.mem_cons_of_mem _)
        · rcases List.mem_cons.mp membership with here | later
          · exact Or.inl here
          · exact Or.inr (List.mem_cons_of_mem _ later)

theorem insertEntry_increasing (key : String) (value : α) {entries : List (String × α)}
    (increasing : entries.Pairwise (fun a b => a.1 < b.1)) :
    (insertEntry key value entries).Pairwise (fun a b => a.1 < b.1) := by
  induction entries with
  | nil => simp [insertEntry]
  | cons first rest inductionHypothesis =>
      obtain ⟨k, v⟩ := first
      have firstLess := (List.pairwise_cons.mp increasing).1
      have restIncreasing := (List.pairwise_cons.mp increasing).2
      rw [insertEntry]
      split
      · rename_i less
        refine List.pairwise_cons.mpr ⟨fun entry membership => ?_, increasing⟩
        rcases List.mem_cons.mp membership with rfl | later
        · exact less
        · exact String.lt_trans less (firstLess entry later)
      · split
        · rename_i greater
          refine List.pairwise_cons.mpr
            ⟨fun entry membership => ?_, inductionHypothesis restIncreasing⟩
          rcases mem_insertEntry membership with rfl | later
          · exact greater
          · exact firstLess entry later
        · rename_i notLess notGreater
          obtain rfl := eq_of_not_lt notLess notGreater
          exact List.pairwise_cons.mpr ⟨firstLess, restIncreasing⟩

def empty : Dict α := ⟨[], List.Pairwise.nil⟩

instance : EmptyCollection (Dict α) := ⟨empty⟩

instance : Inhabited (Dict α) := ⟨empty⟩

def get? (d : Dict α) (key : String) : Option α := d.entries.lookup key

def contains (d : Dict α) (key : String) : Bool := (d.get? key).isSome

def insert (d : Dict α) (key : String) (value : α) : Dict α :=
  ⟨insertEntry key value d.entries, insertEntry_increasing key value d.increasing⟩

def erase (d : Dict α) (key : String) : Dict α :=
  ⟨d.entries.filter (fun entry => entry.1 ≠ key), d.increasing.filter _⟩

def keys (d : Dict α) : List String := d.entries.map (·.1)

def values (d : Dict α) : List α := d.entries.map (·.2)

def size (d : Dict α) : Nat := d.entries.length

def isEmpty (d : Dict α) : Bool := d.entries.isEmpty

/-- Of several entries with one key the last counts. -/
def ofList (entries : List (String × α)) : Dict α :=
  entries.foldl (fun d entry => d.insert entry.1 entry.2) empty

/-- The entries of `upper` where it has them, and those of `base` elsewhere. -/
def overlay (base upper : Dict α) : Dict α :=
  upper.entries.foldl (fun d entry => d.insert entry.1 entry.2) base

def map (f : α → β) (d : Dict α) : Dict β :=
  ⟨d.entries.map (fun entry => (entry.1, f entry.2)), by
    simpa [List.pairwise_map] using d.increasing⟩

def extends? [DecidableEq α] (d part : Dict α) : Bool :=
  part.entries.all (fun entry => d.get? entry.1 = some entry.2)

@[simp]
theorem get?_empty (key : String) : (empty : Dict α).get? key = none := rfl

theorem lookup_cons (key target : String) (value : α) (rest : List (String × α)) :
    List.lookup target ((key, value) :: rest) =
      if target = key then some value else rest.lookup target := by
  by_cases same : target = key
  · simp [same]
  · rw [List.lookup_cons, beq_eq_false_iff_ne.mpr same, if_neg same]

theorem lookup_insertEntry (key target : String) (value : α) (entries : List (String × α)) :
    (insertEntry key value entries).lookup target =
      if target = key then some value else entries.lookup target := by
  induction entries with
  | nil => exact lookup_cons key target value []
  | cons first rest inductionHypothesis =>
      obtain ⟨k, v⟩ := first
      rw [insertEntry]
      split
      · exact lookup_cons key target value _
      · split
        · rename_i greater
          simp only [lookup_cons, inductionHypothesis]
          by_cases here : target = k
          · subst here
            simp [ne_of_lt greater]
          · simp [here]
        · rename_i notLess notGreater
          obtain rfl := eq_of_not_lt notLess notGreater
          by_cases same : target = key <;> simp [lookup_cons, same]

theorem get?_insert (d : Dict α) (key target : String) (value : α) :
    (d.insert key value).get? target = if target = key then some value else d.get? target :=
  lookup_insertEntry key target value d.entries

theorem lookup_eq_none_of_forall_ne {target : String} {entries : List (String × α)}
    (absent : ∀ entry ∈ entries, entry.1 ≠ target) : entries.lookup target = none := by
  induction entries with
  | nil => rfl
  | cons first rest inductionHypothesis =>
      obtain ⟨k, v⟩ := first
      have different : target ≠ k := (absent (k, v) (List.mem_cons_self ..)).symm
      rw [lookup_cons, if_neg different]
      exact inductionHypothesis fun entry membership =>
        absent entry (List.mem_cons_of_mem _ membership)

theorem lookup_filter_ne (key target : String) (entries : List (String × α)) :
    (entries.filter (fun entry => entry.1 ≠ key)).lookup target =
      if target = key then none else entries.lookup target := by
  induction entries with
  | nil => simp
  | cons first rest inductionHypothesis =>
      obtain ⟨k, v⟩ := first
      by_cases dropped : k = key
      · subst dropped
        rw [List.filter_cons_of_neg (by simp), inductionHypothesis, lookup_cons]
        split <;> simp_all
      · rw [List.filter_cons_of_pos (by simpa using dropped), lookup_cons, lookup_cons,
          inductionHypothesis]
        by_cases here : target = k
        · simp [here, dropped]
        · simp [here]

theorem get?_erase (d : Dict α) (key target : String) :
    (d.erase key).get? target = if target = key then none else d.get? target :=
  lookup_filter_ne key target d.entries

theorem lookup_eq_some_iff_mem {entries : List (String × α)}
    (increasing : entries.Pairwise (fun a b => a.1 < b.1)) {key : String} {value : α} :
    entries.lookup key = some value ↔ (key, value) ∈ entries := by
  induction entries with
  | nil => simp
  | cons first rest inductionHypothesis =>
      obtain ⟨k, v⟩ := first
      have firstLess := (List.pairwise_cons.mp increasing).1
      have restIff := inductionHypothesis (List.pairwise_cons.mp increasing).2
      rw [lookup_cons, List.mem_cons, Prod.mk.injEq]
      by_cases here : key = k
      · subst here
        have notLater : (key, value) ∉ rest := fun later =>
          String.lt_irrefl _ (firstLess (key, value) later)
        simp [notLater, eq_comm]
      · simp [here, restIff]

theorem get?_eq_some_iff (d : Dict α) {key : String} {value : α} :
    d.get? key = some value ↔ (key, value) ∈ d.entries :=
  lookup_eq_some_iff_mem d.increasing

theorem mem_values_iff {α : Type} {d : Dict α} {value : α} :
    value ∈ d.values ↔ ∃ key, d.get? key = some value := by
  rw [values, List.mem_map]
  constructor
  · rintro ⟨⟨key, found⟩, membership, rfl⟩
    exact ⟨key, d.get?_eq_some_iff.mpr membership⟩
  · rintro ⟨key, found⟩
    exact ⟨(key, value), d.get?_eq_some_iff.mp found, rfl⟩

theorem entries_eq_of_mem_iff {left right : List (String × α)}
    (leftIncreasing : left.Pairwise (fun a b => a.1 < b.1))
    (rightIncreasing : right.Pairwise (fun a b => a.1 < b.1))
    (sameMembers : ∀ entry, entry ∈ left ↔ entry ∈ right) : left = right := by
  induction left generalizing right with
  | nil =>
      cases right with
      | nil => rfl
      | cons first rest => simpa using (sameMembers first).mpr (List.mem_cons_self ..)
  | cons a left inductionHypothesis =>
      cases right with
      | nil => simpa using (sameMembers a).mp (List.mem_cons_self ..)
      | cons b right =>
          have aLess := (List.pairwise_cons.mp leftIncreasing).1
          have bLess := (List.pairwise_cons.mp rightIncreasing).1
          have firstSame : a = b := by
            rcases List.mem_cons.mp ((sameMembers a).mp (List.mem_cons_self ..)) with same | aLater
            · exact same
            · rcases List.mem_cons.mp ((sameMembers b).mpr (List.mem_cons_self ..)) with
                same | bLater
              · exact same.symm
              · exact absurd (aLess b bLater) (String.lt_asymm (bLess a aLater))
          subst firstSame
          refine congrArg (a :: ·) (inductionHypothesis (List.pairwise_cons.mp leftIncreasing).2
            (List.pairwise_cons.mp rightIncreasing).2 fun entry => ?_)
          constructor
          · intro membership
            rcases List.mem_cons.mp ((sameMembers entry).mp (List.mem_cons_of_mem _ membership))
              with rfl | later
            · exact absurd (aLess _ membership) (String.lt_irrefl _)
            · exact later
          · intro membership
            rcases List.mem_cons.mp ((sameMembers entry).mpr (List.mem_cons_of_mem _ membership))
              with rfl | later
            · exact absurd (bLess _ membership) (String.lt_irrefl _)
            · exact later

theorem ext_get? {left right : Dict α} (same : ∀ key, left.get? key = right.get? key) :
    left = right := by
  have entriesSame : left.entries = right.entries :=
    entries_eq_of_mem_iff left.increasing right.increasing fun entry => by
      obtain ⟨key, value⟩ := entry
      rw [← get?_eq_some_iff, ← get?_eq_some_iff, same]
  cases left
  cases right
  cases entriesSame
  rfl

theorem extends?_iff [DecidableEq α] (d part : Dict α) :
    d.extends? part = true ↔ ∀ key value, part.get? key = some value → d.get? key = some value := by
  simp only [extends?, List.all_eq_true, decide_eq_true_eq, Prod.forall, get?_eq_some_iff part]

theorem lookup_foldl_insert (upper : List (String × α)) (base : Dict α) (target : String)
    (increasing : upper.Pairwise (fun a b => a.1 < b.1)) :
    (upper.foldl (fun d entry => d.insert entry.1 entry.2) base).get? target =
      (upper.lookup target).or (base.get? target) := by
  induction upper generalizing base with
  | nil => rfl
  | cons first rest inductionHypothesis =>
      obtain ⟨k, v⟩ := first
      have firstLess := (List.pairwise_cons.mp increasing).1
      rw [List.foldl_cons, inductionHypothesis _ (List.pairwise_cons.mp increasing).2, get?_insert]
      by_cases here : target = k
      · subst here
        have notLater : rest.lookup target = none :=
          lookup_eq_none_of_forall_ne fun entry membership =>
            (ne_of_lt (firstLess entry membership)).symm
        simp [notLater]
      · simp [lookup_cons, here]

theorem get?_overlay (base upper : Dict α) (target : String) :
    (base.overlay upper).get? target = (upper.get? target).or (base.get? target) :=
  lookup_foldl_insert upper.entries base target upper.increasing

theorem ofList_entries (d : Dict α) : ofList d.entries = d := by
  apply ext_get?
  intro key
  rw [ofList, lookup_foldl_insert _ _ _ d.increasing, get?_empty, Option.or_none]
  rfl

theorem mem_of_mem_ofList {entries : List (String × α)} {entry : String × α}
    (there : entry ∈ (ofList entries).entries) : entry ∈ entries := by
  have general (base : Dict α) : entry ∈
      (entries.foldl (fun d e => d.insert e.1 e.2) base).entries →
        entry ∈ entries ∨ entry ∈ base.entries := by
    clear there
    induction entries generalizing base with
    | nil => exact Or.inr
    | cons first rest inductionHypothesis =>
        intro there
        rcases inductionHypothesis (base.insert first.1 first.2) there with later | inserted
        · exact Or.inl (List.mem_cons_of_mem _ later)
        · rcases mem_insertEntry inserted with rfl | before
          · exact Or.inl (List.mem_cons_self ..)
          · exact Or.inr before
  exact (general empty there).resolve_right List.not_mem_nil

theorem lookup_map_value (f : α → β) (entries : List (String × α)) (target : String) :
    (entries.map fun entry => (entry.1, f entry.2)).lookup target =
      (entries.lookup target).map f := by
  induction entries with
  | nil => rfl
  | cons first rest inductionHypothesis =>
      obtain ⟨k, v⟩ := first
      rw [List.map_cons, lookup_cons, lookup_cons, inductionHypothesis]
      split <;> rfl

theorem get?_map (f : α → β) (d : Dict α) (target : String) :
    (d.map f).get? target = (d.get? target).map f :=
  lookup_map_value f d.entries target

theorem map_insert (f : α → β) (d : Dict α) (key : String) (value : α) :
    (d.insert key value).map f = (d.map f).insert key (f value) := by
  apply ext_get?
  intro target
  rw [get?_map, get?_insert, get?_insert, get?_map]
  split <;> rfl

theorem map_ofList (f : α → β) (entries : List (String × α)) :
    (ofList entries).map f = ofList (entries.map fun entry => (entry.1, f entry.2)) := by
  rw [ofList, ofList, List.foldl_map]
  exact (List.foldl_hom (map f) fun d entry => (map_insert f d entry.1 entry.2).symm).symm

end Dict

end NfsStorage

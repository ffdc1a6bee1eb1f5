import NfsStorage.Proofs.Store.Reachable

/-!
# Versions

In a reachable cluster every object, of whatever kind, is kept under its name and has a version that
its store gave out. A write takes the next version, so that whoever has an object in hand can tell
by its version whether it is still the one in the store.
-/

namespace NfsStorage

@[simp]
theorem Collection.metadata_withMetadata (c : Collection) (object : c.Object) (m : Metadata) :
    Resource.metadata (Resource.withMetadata object m) = m := by
  cases c <;> rfl

theorem eq_of_toString_eq {version other : Nat} (same : toString version = toString other) :
    version = other := by
  rw [Nat.toString_eq_ofList_toDigits, Nat.toString_eq_ofList_toDigits, String.ofList_inj] at same
  rw [← Nat.ofDigitChars_ten_toDigits (n := version), same, Nat.ofDigitChars_ten_toDigits]

namespace Store

/-- Every object is kept under its name, with a version that was given out. -/
structure Versioned {K : Type} [Resource K] (s : Store K) : Prop where
  named : ∀ {name : String} {object : K}, s.get? name = some object → Resource.name object = name
  versioned : ∀ {name : String} {object : K}, s.get? name = some object →
    ∃ version ≤ s.version, (Resource.metadata object).resourceVersion = some (toString version)

variable {c : Collection}

theorem Versioned.insert {s : Store c.Object} (versioned : s.Versioned) {name : String}
    {object : c.Object} (named : Resource.name object = name)
    (stamped : (Resource.metadata object).resourceVersion = some (toString (s.version + 1))) :
    Versioned { s with
      version := s.version + 1
      objects := s.objects.insert name object } := by
  constructor
  · intro target found present
    rw [get?, Dict.get?_insert] at present
    split at present
    next here =>
      obtain rfl := Option.some.inj present
      rw [named, here]
    next => exact versioned.named present
  · intro target found present
    rw [get?, Dict.get?_insert] at present
    split at present
    next =>
      obtain rfl := Option.some.inj present
      exact ⟨_, Nat.le_refl _, stamped⟩
    next =>
      obtain ⟨version, earlier, same⟩ := versioned.versioned present
      exact ⟨version, Nat.le_succ_of_le earlier, same⟩

theorem Versioned.of_objects {s s' : Store c.Object} (versioned : s.Versioned)
    (fewer : ∀ {name object}, s'.get? name = some object → s.get? name = some object)
    (later : s.version ≤ s'.version) : s'.Versioned where
  named present := versioned.named (fewer present)
  versioned present := by
    obtain ⟨version, earlier, same⟩ := versioned.versioned (fewer present)
    exact ⟨version, Nat.le_trans earlier later, same⟩

theorem versioned_empty : ({} : Store c.Object).Versioned := ⟨nofun, nofun⟩

theorem versioned_ofList (objects : List c.Object) : (Store.ofList objects).Versioned := by
  have general : ∀ s : Store c.Object, s.Versioned → (objects.foldl (fun s object =>
      { s with
        version := s.version + 1
        objects := s.objects.insert (Resource.name object)
          (withVersion object (s.version + 1)) }) s).Versioned := by
    induction objects with
    | nil => exact fun s versioned => versioned
    | cons first rest inductionHypothesis =>
        refine fun s versioned => inductionHypothesis _ (versioned.insert ?_ ?_)
        · rw [Resource.name, withVersion, Collection.metadata_withMetadata]
          rfl
        · rw [withVersion, Collection.metadata_withMetadata]
  exact general {} versioned_empty

theorem Versioned.put {s : Store c.Object} (versioned : s.Versioned) (verb : Verb) (name : String)
    (object : c.Object) : (s.put verb name object).2.Versioned := by
  by_cases released : isReleased (s.stamped name object) = true
  · refine versioned.of_objects (fun {target found} present => ?_) (Nat.le_succ s.version)
    rw [get?, objects_put, if_pos released, Dict.get?_erase] at present
    split at present
    next => cases present
    next => exact present
  · have stamped : Resource.metadata (s.stamped name object) =
        { Resource.metadata object with
          resourceVersion := some (toString (s.version + 1))
          name := some name } := Collection.metadata_withMetadata c _ _
    have inserted : Versioned { s with
        version := s.version + 1
        objects := s.objects.insert name (s.stamped name object) } := by
      refine versioned.insert ?_ ?_
      · rw [Resource.name, stamped]
        rfl
      · rw [stamped]
    refine inserted.of_objects (fun {target found} present => ?_) (Nat.le_refl _)
    rw [get?, objects_put, if_neg released] at present
    exact present

end Store

namespace Cluster

theorem version_write (k : Cluster) (c : Collection) (verb : Verb) (name : String)
    (object : c.Object) :
    ((k.write c verb name object).store c).version = (k.store c).version + 1 := by
  rw [write, store_setStore]
  rfl

theorem store_write_of_ne (k : Cluster) {c d : Collection} (verb : Verb) (name : String)
    (object : c.Object) (different : d ≠ c) : (k.write c verb name object).store d = k.store d :=
  store_setStore_of_ne k _ different

theorem Reachable.versioned {k : Cluster} (reachable : k.Reachable) (c : Collection) :
    (k.store c).Versioned := by
  induction reachable with
  | empty => cases c <;> exact ⟨nofun, nofun⟩
  | @filled k d objects _ _ versioned =>
      by_cases same : c = d
      · subst same
        rw [store_setStore]
        exact Store.versioned_ofList objects
      · rwa [store_setStore_of_ne _ _ same]
  | @served k r _ versioned =>
      have written : ∀ (d : Collection) verb name object,
          ((k.write d verb name object).store c).Versioned := by
        intro d verb name object
        by_cases same : c = d
        · subst same
          rw [write, store_setStore]
          exact versioned.put verb name object
        · rwa [store_write_of_ne _ _ _ _ same]
      have served := k.served r
      generalize (k.serve r).1 = answer at served
      generalize (k.serve r).2 = l at served
      cases served with
      | failed | got | gotIn | listed | alreadyGone => exact versioned
      | created | replaced | deleted | patched | patchedStatus => exact written _ _ _ _
  | @refusing k d refused _ versioned =>
      rw [withRefusals]
      by_cases same : c = d
      · subst same
        rw [store_setStore]
        exact versioned.of_objects id (Nat.le_refl _)
      · rwa [store_setStore_of_ne _ _ same]
  | ticked _ _ versioned => cases c <;> exact versioned

theorem Served.version_le {k l : Cluster} {r : Request} {answer : Except StoreError r.Answer}
    (served : k.Served r answer l) (c : Collection) :
    (k.store c).version ≤ (l.store c).version := by
  have written : ∀ (d : Collection) verb name object,
      (k.store c).version ≤ ((k.write d verb name object).store c).version := by
    intro d verb name object
    by_cases same : c = d
    · subst same
      rw [version_write]
      exact Nat.le_succ _
    · exact Nat.le_of_eq (congrArg Store.version (store_write_of_ne _ _ _ _ same).symm)
  cases served with
  | failed | got | gotIn | listed | alreadyGone => exact Nat.le_refl _
  | created | replaced | deleted | patched | patchedStatus => exact written _ _ _ _

theorem Served.eq_of_error {k l : Cluster} {r : Request} {e : StoreError}
    (served : k.Served r (.error e) l) : l = k := by
  cases served
  rfl

/-- A replacement made from an object that is not the one in the store comes to nothing. -/
theorem serve_replace_of_stale (k : Cluster) {c : Collection} {name : String} {object : c.Object}
    (given : (Resource.metadata object).resourceVersion ≠ none)
    (stale : ∀ old, k.object? c name = some old →
      (Resource.metadata old).resourceVersion ≠ (Resource.metadata object).resourceVersion) :
    ∃ e, k.serve (.replace c name object) = (.error e, k) := by
  simp only [serve, Store.replace, Store.existing]
  rcases (k.store c).check_cases .replace name with ok | ⟨-, e, error⟩
  · rw [ok]
    cases found : (k.store c).get? name with
    | none => exact ⟨_, rfl⟩
    | some old =>
        have outdated : (Resource.metadata object).resourceVersion.isSome ∧
            (Resource.metadata object).resourceVersion ≠ (Resource.metadata old).resourceVersion :=
          ⟨Option.isSome_iff_ne_none.mpr given, (stale old found).symm⟩
        simp only [bind, Except.bind, if_pos outdated]
        exact ⟨_, rfl⟩
  · rw [error]
    exact ⟨_, rfl⟩

end Cluster

end NfsStorage

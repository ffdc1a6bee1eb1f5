import NfsStorage.Proofs.Derived.Sync

/-!
# Derived objects under a finalizer

A cluster is guarded if every object of a derived kind is the module's own, and one that has the
name for a declaration is there only while the declaration is held by the finalizer of the module.
The writes that a pass makes keep a cluster guarded, and spare what the passes over other
declarations rely on.
-/

namespace NfsStorage

open DeclarationPass (DerivedKind)

namespace DeclarationPass.DerivedKind

theorem isOurs_desired (kind : DerivedKind) (d : Declaration) (tls : Bool)
    («namespace» : String) : kind.IsOurs (kind.desired (d.derive tls «namespace»)) := by
  cases kind with
  | storageClass => rfl
  | secret =>
      change (Declaration.managedMetadata _ _).isManaged = true
      rfl
  | snapshotClass => rfl

theorem isOurs_updated {kind : DerivedKind} {desired : kind.collection.Object}
    (ours : kind.IsOurs desired) (live : kind.collection.Object) :
    kind.IsOurs (updated live desired) := by
  cases kind with
  | storageClass => exact ours
  | snapshotClass => exact ours
  | secret =>
      exact isManaged_carryOver _ ours

theorem isOurs_settled {kind : DerivedKind} {object : kind.collection.Object}
    (ours : kind.IsOurs object) : kind.IsOurs (Resource.settled object) := by
  cases kind with
  | storageClass => exact ours
  | snapshotClass => exact ours
  | secret =>
      change (Resource.metadata (Resource.settled object)).isManaged = true
      rw [Resource.metadata_settled]
      exact ours

end DeclarationPass.DerivedKind

namespace Cluster

/-- The declaration of a name is there, and the finalizer of the module holds it. -/
def Holds (k : Cluster) (n : String) : Prop :=
  ∃ d : Declaration, k.object? .declarations n = some d ∧
    Names.finalizer ∈ d.metadata.finalizerList

structure Guarded (k : Cluster) : Prop where
  sound : k.Sound
  ours : ∀ (kind : DerivedKind) {name : String} {object : kind.collection.Object},
    k.object? kind.collection name = some object → kind.IsOurs object
  held : ∀ (kind : DerivedKind) {n : String}, k.derived kind n ≠ none → k.Holds n

/-- What a pass over a declaration relies on stays true from one cluster to another. -/
structure Spares (n : String) (k l : Cluster) : Prop where
  holds : k.Holds n → l.Holds n
  bare : ∀ kind, k.Bare kind n → l.Bare kind n
  gone : ∀ kind, k.derived kind n = none → l.derived kind n = none

namespace Spares

theorem refl (n : String) (k : Cluster) : Spares n k k := ⟨id, fun _ => id, fun _ => id⟩

theorem trans {n : String} {k l m : Cluster} (first : Spares n k l) (second : Spares n l m) :
    Spares n k m :=
  ⟨second.holds ∘ first.holds, fun kind => second.bare kind ∘ first.bare kind,
    fun kind => second.gone kind ∘ first.gone kind⟩

theorem of_same {n : String} {k l : Cluster}
    (declaration : l.object? .declarations n = k.object? .declarations n)
    (derived : ∀ kind, l.derived kind n = k.derived kind n) : Spares n k l := by
  refine ⟨?_, fun kind bare => ?_, fun kind gone => ?_⟩
  · rintro ⟨d, present, held⟩
    exact ⟨d, declaration.trans present, held⟩
  · intro object present
    exact bare object ((derived kind).symm.trans present)
  · exact (derived kind).trans gone

end Spares

theorem Guarded.of_same {k l : Cluster} (guarded : k.Guarded) (clock : l.clock.Valid)
    (same : ∀ c : Collection, c.isManaged = true →
      ∀ name, l.object? c name = k.object? c name) : l.Guarded where
  sound := guarded.sound.of_same clock same
  ours kind name object present :=
    guarded.ours kind ((same _ kind.isManaged_collection name).symm.trans present)
  held kind n present := by
    obtain ⟨d, found, held⟩ := guarded.held kind (n := n) (by
      rwa [derived, ← same _ kind.isManaged_collection])
    exact ⟨d, (same .declarations rfl n).trans found, held⟩

section WriteDeclaration

variable {k : Cluster} {n : String} {verb : Verb} {new : Declaration}

theorem holds_write (held : Names.finalizer ∈ new.metadata.finalizerList) :
    (k.write .declarations verb n new).Holds n := by
  have kept : Store.isReleased ((k.store .declarations).stamped n new) = false := by
    rw [Store.isReleased_stamped]
    exact Store.isReleased_of_mem held
  refine ⟨(k.store .declarations).stamped n new, ?_, ?_⟩
  · rw [object?_write_self, kept]
    rfl
  · change Names.finalizer ∈ (Resource.metadata (Store.stamped _ n new)).finalizerList
    rw [Store.metadata_stamped]
    exact held

theorem holds_write_of_ne {m : String} (different : m ≠ n) :
    (k.write .declarations verb n new).Holds m ↔ k.Holds m := by
  unfold Holds
  rw [object?_write_of_ne _ _ _ _ _ fun _ => different]

/-- A declaration may be written as long as the finalizer stays while there is something to hold
it for. -/
theorem Guarded.write_declaration (guarded : k.Guarded) (timed : new.metadata.Timed)
    (kept : (∃ kind, k.derived kind n ≠ none) → Names.finalizer ∈ new.metadata.finalizerList) :
    (k.write .declarations verb n new).Guarded where
  sound := guarded.sound.write fun _ => timed
  ours kind name object present := by
    apply guarded.ours kind
    rwa [object?_write_of_ne _ _ _ _ _ fun same => absurd same kind.collection_ne_declarations]
      at present
  held kind m present := by
    rw [derived_write_declaration] at present
    by_cases same : m = n
    · subst same
      exact holds_write (kept ⟨kind, present⟩)
    · exact (holds_write_of_ne same).mpr (guarded.held kind present)

theorem spares_write_declaration (kept : k.Holds n → Names.finalizer ∈ new.metadata.finalizerList)
    (m : String) : Spares m k (k.write .declarations verb n new) where
  holds held := by
    by_cases same : m = n
    · subst same
      exact holds_write (kept held)
    · exact (holds_write_of_ne same).mpr held
  bare kind bare := by
    unfold Bare
    rwa [derived_write_declaration]
  gone kind gone := by rwa [derived_write_declaration]

theorem spares_write_declaration_of_ne {m : String} (different : m ≠ n) :
    Spares m k (k.write .declarations verb n new) :=
  .of_same (object?_write_of_ne _ _ _ _ _ fun _ => different)
    fun kind => k.derived_write_declaration kind m

end WriteDeclaration

section WriteDerived

variable {k : Cluster} {kind : DerivedKind} {n : String} {verb : Verb}
  {object : kind.collection.Object}

/-- An object of the module may be written while its declaration is held. -/
theorem Guarded.write_derived (guarded : k.Guarded) (timed : (Resource.metadata object).Timed)
    (ours : kind.IsOurs object) (holds : k.Holds n) :
    (k.write kind.collection verb (kind.nameOf n) object).Guarded where
  sound := guarded.sound.write fun _ => timed
  ours other name found present := by
    by_cases same : other = kind
    · subst same
      rcases eq_stamped_of_object?_write _ _ _ _ _ present with ⟨-, rfl, -⟩ | ⟨-, before⟩
      · exact DerivedKind.isOurs_withMetadata ours rfl
      · exact guarded.ours other before
    · rw [object?_write_of_ne _ _ _ _ _ fun equal =>
        absurd (DerivedKind.collection_injective equal) same] at present
      exact guarded.ours other present
  held other m present := by
    unfold Holds
    rw [declaration_write_derived]
    by_cases same : other = kind ∧ m = n
    · obtain ⟨-, rfl⟩ := same
      exact holds
    · rw [derived_write_other _ fun equal other => same ⟨equal, other⟩] at present
      exact guarded.held other present

theorem spares_write_derived_of_ne {m : String} (different : m ≠ n) :
    Spares m k (k.write kind.collection verb (kind.nameOf n) object) :=
  .of_same k.declaration_write_derived fun _ => k.derived_write_other fun _ => different

theorem spares_write_derived {old : kind.collection.Object} (found : k.derived kind n = some old)
    (same : (Resource.metadata object).finalizerList = (Resource.metadata old).finalizerList)
    (m : String) : Spares m k (k.write kind.collection verb (kind.nameOf n) object) := by
  by_cases here : m = n
  · subst here
    refine ⟨?_, fun other bare => ?_, fun other gone => ?_⟩
    · rintro ⟨d, present, held⟩
      exact ⟨d, k.declaration_write_derived.trans present, held⟩
    · by_cases equal : other = kind
      · subst equal
        intro written present
        rcases eq_stamped_of_object?_write _ _ _ _ _ present with ⟨-, rfl, -⟩ | ⟨elsewhere, -⟩
        · rw [Store.metadata_stamped]
          exact same.trans (bare old found)
        · exact absurd rfl elsewhere
      · unfold Bare
        rwa [derived_write_other _ fun same => absurd same equal]
    · by_cases equal : other = kind
      · subst equal
        rw [found] at gone
        exact nomatch gone
      · rwa [derived_write_other _ fun same => absurd same equal]
  · exact spares_write_derived_of_ne here

end WriteDerived

end Cluster

end NfsStorage

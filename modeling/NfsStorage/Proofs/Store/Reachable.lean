import NfsStorage.Proofs.Store.Served

/-!
# Reachable clusters

A cluster is reachable if its stores were filled with objects and requests of anybody were served
since, whatever the server refused and whenever they came. In a reachable cluster every object is
kept under its name, and every deletion was asked for at a time that a clock shows; unless a store
was filled with such an object, none waits for its deletion with nothing left to hold it.
-/

namespace NfsStorage

namespace Store

variable {K : Type} [Resource K]

theorem exists_mem_of_get?_ofList {objects : List K} {name : String} {found : K}
    (present : (ofList objects).get? name = some found) :
    ∃ object ∈ objects, ∃ version, found = withVersion object version ∧
      name = Resource.name object := by
  have general : ∀ s : Store K,
      (objects.foldl (fun s object =>
        { s with
          version := s.version + 1
          objects := s.objects.insert (Resource.name object)
            (withVersion object (s.version + 1)) }) s).get? name = some found →
      (∃ object ∈ objects, ∃ version, found = withVersion object version ∧
        name = Resource.name object) ∨ s.get? name = some found := by
    clear present
    induction objects with
    | nil => exact fun s held => Or.inr held
    | cons first rest inductionHypothesis =>
        intro s held
        rcases inductionHypothesis _ held with ⟨object, membership, rest⟩ | earlier
        · exact Or.inl ⟨object, List.mem_cons_of_mem _ membership, rest⟩
        · rw [get?, Dict.get?_insert] at earlier
          split at earlier
          next here =>
            exact Or.inl ⟨first, List.mem_cons_self .., _, (Option.some.inj earlier).symm, here⟩
          next => exact Or.inr earlier
  rcases general {} present with filled | empty
  · exact filled
  · cases empty

end Store

/-- The collections whose objects the controllers write. -/
def Collection.isManaged : Collection → Bool
  | declarations | storageClasses | secrets | snapshotClasses => true
  | _ => false

theorem Collection.lawful_of_isManaged {c : Collection} (managed : c.isManaged = true) :
    LawfulResource c.Object := by
  cases c <;> first | infer_instance | cases managed

namespace Cluster

/-- The objects of a store are kept under their names, and their deletions were asked for at times
that a clock shows. -/
structure Tidy (k : Cluster) (c : Collection) : Prop where
  named : ∀ {name : String} {object : c.Object},
    k.object? c name = some object → Resource.name object = name
  timed : ∀ {name : String} {object : c.Object},
    k.object? c name = some object → (Resource.metadata object).Timed

/-- The stores that the controllers write are tidy, and the clock shows a time. -/
structure Sound (k : Cluster) : Prop where
  clock : k.clock.Valid
  tidy : ∀ {c : Collection}, c.isManaged = true → k.Tidy c

/-- No object waits for its deletion with nothing left to hold it. -/
def NoneReleased (k : Cluster) : Prop :=
  ∀ (c : Collection) (name : String) (object : c.Object),
    k.object? c name = some object → Store.isReleased object = false

def withRefusals (k : Cluster) (c : Collection) (refused : Verb → Option Nat) : Cluster :=
  k.setStore c { k.store c with refused }

inductive Reachable : Cluster → Prop where
  | empty : Reachable {}
  | filled {k : Cluster} (c : Collection) (objects : List c.Object)
      (timed : ∀ object ∈ objects, (Resource.metadata object).Timed) :
      Reachable k → Reachable (k.setStore c (Store.ofList objects))
  | served {k : Cluster} (r : Request) : Reachable k → Reachable (k.serve r).2
  | refusing {k : Cluster} (c : Collection) (refused : Verb → Option Nat) :
      Reachable k → Reachable (k.withRefusals c refused)
  | ticked {k : Cluster} {clock : Time} (valid : clock.Valid) :
      Reachable k → Reachable { k with clock }

theorem object?_setStore_of_ne (k : Cluster) {c d : Collection} (s : Store c.Object)
    (different : d ≠ c) (name : String) : (k.setStore c s).object? d name = k.object? d name := by
  rw [object?, store_setStore_of_ne _ _ different]
  rfl

theorem object?_withRefusals (k : Cluster) (c d : Collection) (refused : Verb → Option Nat)
    (name : String) : (k.withRefusals c refused).object? d name = k.object? d name := by
  rw [withRefusals]
  by_cases same : d = c
  · subst same
    rw [object?, store_setStore]
    rfl
  · rw [object?_setStore_of_ne _ _ same]

theorem object?_withClock (k : Cluster) (clock : Time) (d : Collection) (name : String) :
    ({ k with clock } : Cluster).object? d name = k.object? d name := by
  cases d <;> rfl

@[simp]
theorem clock_setStore (k : Cluster) (c : Collection) (s : Store c.Object) :
    (k.setStore c s).clock = k.clock := by
  cases c <;> rfl

theorem Tidy.of_same {k l : Cluster} {c : Collection} (tidy : k.Tidy c)
    (same : ∀ name, l.object? c name = k.object? c name) : l.Tidy c where
  named present := tidy.named (by rwa [← same])
  timed present := tidy.timed (by rwa [← same])

theorem Tidy.write {k : Cluster} {c d : Collection} [LawfulResource d.Object] (tidy : k.Tidy d)
    {verb : Verb} {name : String} {object : c.Object}
    (timed : d = c → (Resource.metadata object).Timed) :
    (k.write c verb name object).Tidy d := by
  by_cases same : d = c
  · subst same
    constructor
    · intro target found present
      rcases eq_stamped_of_object?_write _ _ _ _ _ present with ⟨here, rfl, -⟩ | ⟨-, before⟩
      · rw [Resource.name, Store.metadata_stamped, here]
        rfl
      · exact tidy.named before
    · intro target found present
      rcases eq_stamped_of_object?_write _ _ _ _ _ present with ⟨-, rfl, -⟩ | ⟨-, before⟩
      · rw [Store.metadata_stamped]
        exact timed rfl
      · exact tidy.timed before
  · exact tidy.of_same fun target =>
      object?_write_of_ne k c verb name object fun equal => absurd equal same

theorem tidy_ofList (k : Cluster) (c : Collection) [LawfulResource c.Object]
    {objects : List c.Object} (timed : ∀ object ∈ objects, (Resource.metadata object).Timed) :
    (k.setStore c (Store.ofList objects)).Tidy c := by
  constructor
  · intro name found present
    rw [object?, store_setStore] at present
    obtain ⟨object, -, version, rfl, rfl⟩ := Store.exists_mem_of_get?_ofList present
    rw [Resource.name, Store.withVersion, Resource.metadata_withMetadata]
    rfl
  · intro name found present
    rw [object?, store_setStore] at present
    obtain ⟨object, membership, version, rfl, -⟩ := Store.exists_mem_of_get?_ofList present
    rw [Store.withVersion, Resource.metadata_withMetadata]
    exact timed object membership

theorem Sound.write {k : Cluster} (sound : k.Sound) {c : Collection} {verb : Verb} {name : String}
    {object : c.Object} (timed : c.isManaged = true → (Resource.metadata object).Timed) :
    (k.write c verb name object).Sound where
  clock := by
    rw [clock_write]
    exact sound.clock
  tidy {d} managed := by
    have := Collection.lawful_of_isManaged managed
    exact (sound.tidy managed).write fun same => timed (same ▸ managed)

theorem Sound.of_same {k l : Cluster} (sound : k.Sound) (clock : l.clock.Valid)
    (same : ∀ c : Collection, c.isManaged = true →
      ∀ name, l.object? c name = k.object? c name) : l.Sound :=
  ⟨clock, fun managed => (sound.tidy managed).of_same (same _ managed)⟩

theorem Tidy.served {k l : Cluster} {c : Collection} [LawfulResource c.Object] (tidy : k.Tidy c)
    (clock : k.clock.Valid) {r : Request} {answer} (served : k.Served r answer l) : l.Tidy c := by
  cases served with
  | failed | got | gotIn | listed | alreadyGone => exact tidy
  | created d object =>
      refine tidy.write fun same => ?_
      subst same
      exact Store.timed_made _
  | replaced d name object old answer found =>
      refine tidy.write fun same => ?_
      subst same
      rw [Store.metadata_setDeletion]
      exact tidy.timed found
  | deleted d name old found =>
      refine tidy.write fun same => ?_
      subst same
      exact Store.timed_asked clock (tidy.timed found)
  | patched d name change old new answer found read
  | patchedStatus d name change old new answer found read =>
      refine tidy.write fun same => ?_
      subst same
      exact LawfulResource.timed_of_decode read

theorem Sound.served {k l : Cluster} (sound : k.Sound) {r : Request} {answer}
    (served : k.Served r answer l) : l.Sound where
  clock := served.clock ▸ sound.clock
  tidy managed := by
    have := Collection.lawful_of_isManaged managed
    exact (sound.tidy managed).served sound.clock served

/-- Finalizers that are set are all that is new of a tidy object, but for the fraction of a time. -/
theorem Served.of_finalizersPatch {k l : Cluster} {c : Collection} [LawfulResource c.Object]
    {name : String} {finalizers : List String} {answer : Except StoreError c.Object}
    (tidy : k.Tidy c) (served : k.Served (.patch c name (finalizersPatch finalizers)) answer l) :
    (∃ e, answer = .error e) ∧ l = k ∨
      ∃ old written, answer = .ok written ∧ k.object? c name = some old ∧
        (Resource.metadata old).Timed ∧
        l = k.write c .patch name (Resource.heldBy old finalizers) := by
  cases served with
  | failed error => exact Or.inl ⟨⟨error, rfl⟩, rfl⟩
  | patched _ _ _ old new written found read =>
      have timed := tidy.timed found
      obtain rfl := Option.some.inj
        ((Resource.decode_finalizersPatch timed finalizers).symm.trans read)
      exact Or.inr ⟨old, written, rfl, found, timed, rfl⟩

/-- A whole status that is set is all that is new of a declaration, but for the fraction of a
time. -/
theorem Served.of_statusPatch {k l : Cluster} {name : String} {phase : Phase} {reason : String}
    {answer : Except StoreError Declaration} (sound : k.Sound)
    (served : k.Served (.patchStatus .declarations name (.object [("status",
      encode (⟨some phase, some reason⟩ : DeclarationStatus))])) answer l) :
    (∃ e, answer = .error e) ∧ l = k ∨
      ∃ old written : Declaration, answer = .ok written ∧
        k.object? .declarations name = some old ∧ old.metadata.Timed ∧
        l = k.write .declarations .patchStatus name
          { old with
            metadata := old.metadata.toSeconds
            status := some ⟨some phase, some reason⟩ } := by
  cases served with
  | failed error => exact Or.inl ⟨⟨error, rfl⟩, rfl⟩
  | patchedStatus _ _ _ old new written found read =>
      have timed := (sound.tidy (c := .declarations) rfl).timed found
      obtain rfl := Option.some.inj
        ((Declaration.decode_merge_status timed phase reason).symm.trans read)
      exact Or.inr ⟨old, written, rfl, found, timed, rfl⟩

theorem Reachable.run {α : Type} (p : Program α) {k : Cluster} (reachable : k.Reachable) :
    (p.run .direct k).2.Reachable := by
  induction p generalizing k with
  | done a => exact reachable
  | request r next inductionHypothesis => exact inductionHypothesis _ (reachable.served r)
  | sleep milliseconds next inductionHypothesis => exact inductionHypothesis reachable

theorem Reachable.clock_valid {k : Cluster} (reachable : k.Reachable) : k.clock.Valid := by
  induction reachable with
  | empty => decide
  | filled c _ _ _ valid => exact (clock_setStore _ c _).symm ▸ valid
  | served r _ valid => exact (Cluster.served _ r).clock.symm ▸ valid
  | refusing c _ _ valid => exact (clock_setStore _ c _).symm ▸ valid
  | ticked valid => exact valid

/-- Whatever was filled in and asked for, the objects of every lawful kind are tidy. -/
theorem Reachable.tidy {k : Cluster} (reachable : k.Reachable) (c : Collection)
    [LawfulResource c.Object] : k.Tidy c := by
  induction reachable with
  | empty =>
      constructor
      · intro name object present
        cases c <;> cases present
      · intro name object present
        cases c <;> cases present
  | filled d objects timed _ tidy =>
      by_cases same : c = d
      · subst same
        exact tidy_ofList _ _ timed
      · exact tidy.of_same (object?_setStore_of_ne _ _ same)
  | served r reachable tidy => exact tidy.served reachable.clock_valid (Cluster.served _ r)
  | refusing d refused _ tidy => exact tidy.of_same (object?_withRefusals _ _ c _)
  | ticked valid _ tidy => exact tidy.of_same (object?_withClock _ _ c)

theorem Reachable.sound {k : Cluster} (reachable : k.Reachable) : k.Sound where
  clock := reachable.clock_valid
  tidy {c} managed :=
    have := Collection.lawful_of_isManaged managed
    reachable.tidy c

theorem Reachable.filledAlive {k : Cluster} (c : Collection) {objects : List c.Object}
    (alive : objects.all (fun object => (Resource.metadata object).deletionTimestamp.isNone) = true)
    (reachable : k.Reachable) : (k.setStore c (Store.ofList objects)).Reachable := by
  refine .filled c objects (fun object there time asked => ?_) reachable
  have none := List.all_eq_true.mp alive object there
  rw [asked] at none
  exact nomatch none

theorem NoneReleased.filled {k : Cluster} (none : k.NoneReleased) (c : Collection)
    [LawfulResource c.Object] {objects : List c.Object}
    (each : ∀ object ∈ objects, Store.isReleased object = false) :
    (k.setStore c (Store.ofList objects)).NoneReleased := by
  intro d name found present
  by_cases same : d = c
  · subst same
    rw [object?, store_setStore] at present
    obtain ⟨object, membership, version, rfl, -⟩ := Store.exists_mem_of_get?_ofList present
    rw [Store.isReleased, Store.withVersion, Resource.metadata_withMetadata]
    exact each object membership
  · rw [object?_setStore_of_ne _ _ same] at present
    exact none d name found present

theorem NoneReleased.write {k : Cluster} (none : k.NoneReleased) {c : Collection} {verb : Verb}
    {name : String} {object : c.Object} : (k.write c verb name object).NoneReleased := by
  intro d target found present
  by_cases same : d = c
  · subst same
    rcases eq_stamped_of_object?_write _ _ _ _ _ present with ⟨-, -, held⟩ | ⟨-, before⟩
    · exact held
    · exact none d target found before
  · rw [object?_write_of_ne _ _ _ _ _ fun equal => absurd equal same] at present
    exact none d target found present

theorem NoneReleased.served {k l : Cluster} (none : k.NoneReleased) {r : Request} {answer}
    (served : k.Served r answer l) : l.NoneReleased := by
  cases served with
  | failed | got | gotIn | listed | alreadyGone => exact none
  | created | replaced | deleted | patched | patchedStatus => exact none.write

end Cluster

end NfsStorage

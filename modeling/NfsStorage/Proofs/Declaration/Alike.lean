import NfsStorage.Proofs.Declaration.Footprint
import NfsStorage.Proofs.Derived.Settle
import NfsStorage.Proofs.Store.Verdict

/-!
# Clusters that look alike to a declaration

Versions and the times of deletions differ from one run to another, and a pass looks at neither: it
hands back the version of the object that it replaces, and that is all. Two clusters that are the
same in everything else that a pass over a declaration looks at answer its requests alike, and look
alike afterwards.
-/

namespace NfsStorage

open DeclarationPass (DerivedKind)

namespace Metadata

theorem timeless_toSeconds (m : Metadata) : m.toSeconds.timeless = m.timeless := by
  rw [timeless, timeless, toSeconds, Option.map_map]
  rfl

@[simp]
theorem isDeleting_timeless (m : Metadata) : m.timeless.isDeleting = m.isDeleting :=
  Option.isSome_map

end Metadata

section Objects

variable {K : Type} [Resource K] [LawfulResource K] {object other : K} {m m' : Metadata}

namespace Resource

theorem timeless_withMetadata (object : K) (m : Metadata) :
    timeless (withMetadata object m) = withMetadata object m.timeless := by
  rw [timeless, metadata_withMetadata, withMetadata_withMetadata]

@[simp]
theorem metadata_timeless (object : K) : metadata (timeless object) = (metadata object).timeless :=
  metadata_withMetadata _ _

theorem timeless_metadata (same : timeless object = timeless other) :
    (metadata object).timeless = (metadata other).timeless := by
  rw [← metadata_timeless, same, metadata_timeless]

/-- What is read off metadata without looking at versions and times is the same for objects that are
alike. -/
theorem read_congr {α : Type} (read : Metadata → α) (blind : ∀ m, read m.timeless = read m)
    (same : timeless object = timeless other) :
    read (metadata object) = read (metadata other) := by
  rw [← blind, timeless_metadata same, blind]

theorem finalizerList_congr (same : timeless object = timeless other) :
    (metadata object).finalizerList = (metadata other).finalizerList :=
  read_congr Metadata.finalizerList (fun _ => rfl) same

theorem withMetadata_congr (same : timeless object = timeless other) (m : Metadata) :
    withMetadata object m = withMetadata other m := by
  rw [← withMetadata_withMetadata object (metadata object).timeless m, ← timeless, same, timeless,
    withMetadata_withMetadata]

theorem timeless_congr (same : timeless object = timeless other)
    (metadata : m.timeless = m'.timeless) :
    timeless (withMetadata object m) = timeless (withMetadata other m') := by
  rw [timeless_withMetadata, timeless_withMetadata, withMetadata_congr same, metadata]

theorem timeless_heldBy (same : timeless object = timeless other) (finalizers : List String) :
    timeless (heldBy object finalizers) = timeless (heldBy other finalizers) := by
  apply timeless_congr same
  have parts := timeless_metadata same
  rw [← Metadata.timeless_toSeconds, ← Metadata.timeless_toSeconds (metadata other)] at parts
  exact congrArg (fun m : Metadata =>
    { m with finalizers := if finalizers.isEmpty then none else some finalizers }) parts

end Resource

namespace Store

open Resource (timeless)

theorem isReleased_congr (same : timeless object = timeless other) :
    isReleased object = isReleased other :=
  Resource.read_congr (fun m => m.isDeleting && m.finalizerList.isEmpty)
    (fun m => congrArg (· && m.finalizerList.isEmpty) m.isDeleting_timeless) same

theorem timeless_stamped (s s' : Store K) (name : String)
    (same : timeless object = timeless other) :
    timeless (s.stamped name object) = timeless (s'.stamped name other) :=
  Resource.timeless_congr same (congrArg (fun m : Metadata => { m with name := some name })
    (Resource.timeless_metadata same))

theorem timeless_asked (now now' : Time) (same : timeless object = timeless other) :
    timeless (asked now object) = timeless (asked now' other) :=
  Resource.timeless_congr same (congrArg (fun m : Metadata =>
    { m with deletionTimestamp := some ⟨⟨1970, 1, 1⟩, 0, 0, 0, 0⟩ })
    (Resource.timeless_metadata same))

end Store

theorem DeclarationPass.timeless_renewed {c : Collection} [LawfulResource c.Object]
    {live live' : c.Object} (same : Resource.timeless live = Resource.timeless live')
    (desired : c.Object) :
    Resource.timeless (renewed live desired) = Resource.timeless (renewed live' desired) := by
  have parts := Resource.timeless_metadata same
  rw [renewed, renewed, Store.setDeletion, Store.setDeletion, updated, updated,
    Resource.metadata_withMetadata, Resource.metadata_withMetadata,
    Resource.withMetadata_withMetadata, Resource.withMetadata_withMetadata]
  apply Resource.timeless_congr rfl
  exact congrArg (fun m : Metadata =>
    { carryOver m (Resource.metadata desired) with
      resourceVersion := none
      deletionTimestamp := m.deletionTimestamp }) parts

theorem DeclarationPass.replacement_updated {c : Collection} [LawfulResource c.Object]
    (name : String) (live desired : c.Object) :
    Store.replacement name (updated live desired) (some live) =
      .ok (renewed live (Resource.settled desired)) := by
  have version : (Resource.metadata (updated live desired)).resourceVersion =
      (Resource.metadata live).resourceVersion := by
    rw [updated, Resource.metadata_withMetadata]
    rfl
  have settled : Resource.settled (updated live desired) =
      updated live (Resource.settled desired) := by
    rw [updated, updated, Resource.settled_withMetadata, Resource.metadata_settled]
  rw [Store.replacement, version, settled, renewed]
  simp

theorem DeclarationPass.DerivedKind.action_congr {kind : DerivedKind}
    {live live' : Option kind.collection.Object}
    (same : live.map Resource.timeless = live'.map Resource.timeless)
    (desired : kind.collection.Object) (deleting : Bool) :
    kind.action live desired deleting = kind.action live' desired deleting := by
  have each : ∀ live, kind.action (Option.map Resource.timeless live) desired deleting =
      kind.action live desired deleting := by
    intro live
    cases live with
    | none => rfl
    | some object => exact kind.action_withMetadata rfl rfl rfl
  rw [← each, same, each]

end Objects

/-- To a pass over the declaration the clusters are the same up to versions and times. -/
structure Alike (n : String) (k k' : Cluster) : Prop where
  sound : k.Sound
  sound' : k'.Sound
  refused : k.refused = k'.refused
  config : k.object? .moduleConfigs ModuleConfig.singleton =
    k'.object? .moduleConfigs ModuleConfig.singleton
  own : ∀ {c name}, Belongs n c name →
    (k.object? c name).map Resource.timeless = (k'.object? c name).map Resource.timeless

theorem Spared.alike {n : String} {k l : Cluster} (spared : Spared n k l) (sound : k.Sound) :
    Alike n k l where
  sound := sound
  sound' := spared.sound sound
  refused := spared.refused.symm
  config := spared.config.symm
  own belongs := by rw [spared.own belongs]

namespace Alike

variable {n : String} {k k' l : Cluster} {c : Collection} {name : String}

theorem spared (alike : Alike n k k') (spared : Spared n k l) : Alike n l k' where
  sound := spared.sound alike.sound
  sound' := alike.sound'
  refused := spared.refused.trans alike.refused
  config := spared.config.trans alike.config
  own belongs := by rw [spared.own belongs, alike.own belongs]

theorem found (alike : Alike n k k') (own : Belongs n c name) :
    k.object? c name = none ∧ k'.object? c name = none ∨
      ∃ object other, k.object? c name = some object ∧ k'.object? c name = some other ∧
        Resource.timeless object = Resource.timeless other := by
  have same := alike.own own
  cases here : k.object? c name with
  | none =>
      rw [here] at same
      exact Or.inl ⟨rfl, Option.map_eq_none_iff.mp same.symm⟩
  | some object =>
      rw [here] at same
      obtain ⟨other, there, alike⟩ := Option.map_eq_some_iff.mp same.symm
      exact Or.inr ⟨object, other, rfl, there, alike.symm⟩

theorem check (alike : Alike n k k') (c : Collection) (verb : Verb) (name : String) :
    (k.store c).check verb name = (k'.store c).check verb name := by
  have same : (k.store c).refused = (k'.store c).refused := congrFun alike.refused c
  rw [Store.check, same, Store.check]

/-- A write of objects that are alike leaves the clusters alike. -/
theorem write (alike : Alike n k k') (own : Belongs n c name) {verb : Verb}
    {object other : c.Object} (same : Resource.timeless object = Resource.timeless other)
    (sound : (k.write c verb name object).Sound) (sound' : (k'.write c verb name other).Sound) :
    Alike n (k.write c verb name object) (k'.write c verb name other) := by
  have := Collection.lawful_of_isManaged own.isManaged
  have elsewhere : ∀ (k : Cluster) (object : c.Object) {d : Collection} {target : String},
      (d = c → target ≠ name) →
        (k.write c verb name object).object? d target = k.object? d target :=
    fun k object => k.object?_write_of_ne c verb name object
  refine ⟨sound, sound', ?_, ?_, ?_⟩
  · funext d
    rw [Cluster.refused_write, Cluster.refused_write, alike.refused]
  · have config : Collection.moduleConfigs = c → ModuleConfig.singleton ≠ name := by
      rintro rfl
      exact nomatch own.isManaged
    rw [elsewhere k object config, elsewhere k' other config, alike.config]
  · intro d target belongs
    by_cases here : d = c ∧ target = name
    · obtain ⟨rfl, rfl⟩ := here
      have stamped := Store.timeless_stamped (k.store d) (k'.store d) target same
      rw [Cluster.object?_write_self, Cluster.object?_write_self, Store.isReleased_congr stamped]
      split
      next => rfl
      next => exact congrArg some stamped
    · have apart : d = c → target ≠ name := fun sameStore sameName => here ⟨sameStore, sameName⟩
      rw [elsewhere k object apart, elsewhere k' other apart, alike.own belongs]

end Alike

inductive SameVerdict {K : Type} [Resource K] :
    Except StoreError (Option K) → Except StoreError (Option K) → Prop where
  | failure (e : StoreError) : SameVerdict (.error e) (.error e)
  | nothing : SameVerdict (.ok none) (.ok none)
  | writing {object other : K} (same : Resource.timeless object = Resource.timeless other) :
      SameVerdict (.ok (some object)) (.ok (some other))

/-- Requests to two clusters both succeed or fail alike, and leave the clusters alike. -/
def SameEffect (n : String) (k k' : Cluster) (r r' : Request) : Prop :=
  (k.effect r).1 = (k'.effect r').1 ∧ Alike n (k.effect r).2 (k'.effect r').2

theorem SameEffect.answers {n : String} {k k' : Cluster} {r r' : Request}
    (same : SameEffect n k k' r r') :
    (∃ e, (k.serve r).1 = .error e ∧ (k'.serve r').1 = .error e) ∨
      ∃ a a', (k.serve r).1 = .ok a ∧ (k'.serve r').1 = .ok a' := by
  have answers : (k.serve r).1.map (fun _ => ()) = (k'.serve r').1.map (fun _ => ()) := same.1
  cases answer : (k.serve r).1 with
  | error e =>
      cases answer' : (k'.serve r').1 with
      | error e' =>
          rw [answer, answer'] at answers
          obtain rfl : e = e' := Except.error.inj answers
          exact Or.inl ⟨e, rfl, rfl⟩
      | ok a' =>
          rw [answer, answer'] at answers
          exact nomatch answers
  | ok a =>
      cases answer' : (k'.serve r').1 with
      | error e' =>
          rw [answer, answer'] at answers
          exact nomatch answers
      | ok a' => exact Or.inr ⟨a, a', rfl, rfl⟩

namespace Alike

variable {n : String} {k k' : Cluster} {c : Collection} {name : String}

theorem sameEffect (alike : Alike n k k') {r r' : Request} {verb : Verb}
    {verdict verdict' : Except StoreError (Option c.Object)} (own : Belongs n c name)
    (effect : k.effect r = k.carryOut c verb name verdict)
    (effect' : k'.effect r' = k'.carryOut c verb name verdict')
    (same : SameVerdict verdict verdict') : SameEffect n k k' r r' := by
  have sound : (k.effect r).2.Sound := alike.sound.served (k.served r)
  have sound' : (k'.effect r').2.Sound := alike.sound'.served (k'.served r')
  unfold SameEffect
  rw [effect] at sound ⊢
  rw [effect'] at sound' ⊢
  unfold Cluster.carryOut at sound sound' ⊢
  rw [← alike.check] at sound' ⊢
  generalize (k.store c).check verb name = checked at sound sound' ⊢
  cases checked with
  | error e => exact ⟨rfl, alike⟩
  | ok _ =>
      cases same with
      | failure e => exact ⟨rfl, alike⟩
      | nothing => exact ⟨rfl, alike⟩
      | writing same => exact ⟨rfl, alike.write own same sound sound'⟩

theorem effect_get (alike : Alike n k k') (c : Collection) (name : String) :
    SameEffect n k k' (.get c name) (.get c name) := by
  have reads : ∀ k : Cluster, k.effect (.get c name) = ((k.store c).check .get name, k) :=
    fun k => (k.effect_eq (.get c name)).trans (k.carryOut_none c .get name)
  rw [SameEffect, reads, reads]
  exact ⟨alike.check c .get name, alike⟩

theorem effect_create (alike : Alike n k k') {object : c.Object}
    (own : Belongs n c (Resource.name object)) :
    SameEffect n k k' (.create c object) (.create c object) := by
  refine alike.sameEffect own (k.effect_eq (.create c object)) (k'.effect_eq (.create c object)) ?_
  change SameVerdict ((Store.creation object (k.object? c (Resource.name object))).map some)
    ((Store.creation object (k'.object? c (Resource.name object))).map some)
  rcases alike.found own with ⟨absent, absent'⟩ | ⟨old, old', found, found', -⟩
  · rw [absent, absent']
    exact .writing rfl
  · rw [found, found']
    exact .failure _

theorem effect_delete (alike : Alike n k k') (own : Belongs n c name) :
    SameEffect n k k' (.delete c name) (.delete c name) := by
  have := Collection.lawful_of_isManaged own.isManaged
  refine alike.sameEffect own (k.effect_eq (.delete c name)) (k'.effect_eq (.delete c name)) ?_
  change SameVerdict (.ok ((k.object? c name).map (Store.asked k.clock)))
    (.ok ((k'.object? c name).map (Store.asked k'.clock)))
  rcases alike.found own with ⟨absent, absent'⟩ | ⟨old, old', found, found', same⟩
  · rw [absent, absent']
    exact .nothing
  · rw [found, found']
    exact .writing (Store.timeless_asked _ _ same)

theorem effect_replace (alike : Alike n k k') {live live' desired : c.Object}
    (own : Belongs n c name) (found : k.object? c name = some live)
    (found' : k'.object? c name = some live') :
    SameEffect n k k' (.replace c name (DeclarationPass.updated live desired))
      (.replace c name (DeclarationPass.updated live' desired)) := by
  have := Collection.lawful_of_isManaged own.isManaged
  have same : Resource.timeless live = Resource.timeless live' := by
    have same := alike.own own
    rw [found, found'] at same
    exact Option.some.inj same
  refine alike.sameEffect own (k.effect_eq (.replace c name _))
    (k'.effect_eq (.replace c name _)) ?_
  change SameVerdict ((Store.replacement name _ (k.object? c name)).map some)
    ((Store.replacement name _ (k'.object? c name)).map some)
  rw [found, found', DeclarationPass.replacement_updated, DeclarationPass.replacement_updated]
  exact .writing (DeclarationPass.timeless_renewed same _)

theorem verdict_patching (alike : Alike n k k') (own : Belongs n c name) {change : Json}
    (same : ∀ {object other : c.Object}, (Resource.metadata object).Timed →
      (Resource.metadata other).Timed → Resource.timeless object = Resource.timeless other →
        ∃ new new' : c.Object, decode (Json.merge (encode object) change) = some new ∧
          decode (Json.merge (encode other) change) = some new' ∧
            Resource.timeless new = Resource.timeless new') :
    SameVerdict ((Store.patching name change (k.object? c name)).map some)
      ((Store.patching name change (k'.object? c name)).map some) := by
  rcases alike.found own with ⟨absent, absent'⟩ | ⟨old, old', found, found', before⟩
  · rw [absent, absent']
    exact .failure _
  · obtain ⟨new, new', read, read', after⟩ :=
      same ((alike.sound.tidy own.isManaged).timed found)
        ((alike.sound'.tidy own.isManaged).timed found') before
    simp only [found, found', Store.patching, read, read']
    exact .writing after

theorem effect_finalizers (alike : Alike n k k') (own : Belongs n c name)
    (finalizers : List String) :
    SameEffect n k k' (.patch c name (finalizersPatch finalizers))
      (.patch c name (finalizersPatch finalizers)) := by
  have := Collection.lawful_of_isManaged own.isManaged
  refine alike.sameEffect own (k.effect_eq (.patch c name _)) (k'.effect_eq (.patch c name _)) ?_
  refine alike.verdict_patching own fun timed timed' same => ?_
  exact ⟨_, _, Resource.decode_finalizersPatch timed finalizers,
    Resource.decode_finalizersPatch timed' finalizers, Resource.timeless_heldBy same finalizers⟩

theorem effect_status (alike : Alike n k k') (phase : Phase) (reason : String) :
    let change := Json.object [("status", encode (⟨some phase, some reason⟩ : DeclarationStatus))]
    SameEffect n k k' (.patchStatus .declarations n change)
      (.patchStatus .declarations n change) := by
  intro change
  have own := belongs_declaration n
  refine alike.sameEffect own (k.effect_eq (.patchStatus .declarations n _))
    (k'.effect_eq (.patchStatus .declarations n _)) ?_
  refine alike.verdict_patching own fun {d d'} timed timed' same => ?_
  refine ⟨_, _, Declaration.decode_merge_status timed phase reason,
    Declaration.decode_merge_status timed' phase reason, ?_⟩
  have spec : (Resource.timeless d).spec = (Resource.timeless d').spec :=
    congrArg Declaration.spec same
  have metadata : d.metadata.toSeconds.timeless = d'.metadata.toSeconds.timeless := by
    rw [Metadata.timeless_toSeconds, Metadata.timeless_toSeconds]
    exact Resource.timeless_metadata same
  change Declaration.mk d.metadata.toSeconds.timeless d.spec _ =
    Declaration.mk d'.metadata.toSeconds.timeless d'.spec _
  rw [metadata, show d.spec = d'.spec from spec]

end Alike

end NfsStorage

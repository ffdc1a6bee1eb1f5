import NfsStorage.Proofs.Codec.Labels
import NfsStorage.Proofs.Declaration.Alike
import NfsStorage.Proofs.Declaration.Status

/-!
# How a pass brings a derived object about

A pass that ends in creation has brought each derived object about in one of four ways: it has made
the object, kept the one that was there, renewed it, or made it anew. The way alone decides what the
object has of the one before: its labels and annotations, its finalizers, and its deletion.
-/

namespace NfsStorage

open DeclarationPass (DerivedKind)

/-- How a desired object came about, and from which. But for versions and times it is the desired
object, the one before, or that one renewed. -/
inductive Brought (kind : DerivedKind) (desired object : kind.collection.Object) :
    Option kind.collection.Object → Prop where
  | made (same : Resource.timeless object = Resource.timeless desired) :
      Brought kind desired object none
  | kept {live : kind.collection.Object}
      (judged : kind.action (some live) desired false = .ok .keep)
      (same : Resource.timeless object = Resource.timeless live) :
      Brought kind desired object (some live)
  | renewed {live : kind.collection.Object}
      (judged : kind.action (some live) desired false = .ok .updateInPlace)
      (same : Resource.timeless object =
        Resource.timeless (DeclarationPass.renewed live desired)) :
      Brought kind desired object (some live)
  | remade {live : kind.collection.Object}
      (judged : kind.action (some live) desired false = .ok .recreate)
      (same : Resource.timeless object = Resource.timeless desired) :
      Brought kind desired object (some live)

/-- The live object, unless it is made anew: what others have added to it stays with it. -/
def DeclarationPass.DerivedKind.carried (kind : DerivedKind)
    (live : Option kind.collection.Object) (desired : kind.collection.Object) :
    Option kind.collection.Object :=
  match kind.action live desired false with
  | .ok .recreate => none
  | _ => live

theorem DeclarationPass.DerivedKind.carried_none (kind : DerivedKind)
    (desired : kind.collection.Object) : kind.carried none desired = none := by
  unfold carried
  split <;> rfl

/-- Labels and annotations that cover the desired ones are those, with others beside them. -/
theorem Metadata.eq_or_of_covers {live desired : Metadata} (covers : live.covers desired = true)
    (key : String) :
    live.label? key = (desired.label? key).or (live.label? key) ∧
      live.annotation? key = (desired.annotation? key).or (live.annotation? key) := by
  obtain ⟨labels, annotations⟩ := Bool.and_eq_true_iff.mp covers
  rw [Dict.extends?_iff] at labels annotations
  simp only [Metadata.label?_eq, Metadata.annotation?_eq]
  constructor
  · cases wanted : (desired.labels.getD ∅).get? key with
    | none => rfl
    | some value => exact labels key value wanted
  · cases wanted : (desired.annotations.getD ∅).get? key with
    | none => rfl
    | some value => exact annotations key value wanted

section Wanted

variable {kind : DerivedKind} {op : Operator} {d : Declaration}
  {live : Option kind.collection.Object} {object : kind.collection.Object}

theorem DeclarationPass.DerivedKind.covers_of_keep {live : kind.collection.Object}
    (keep : kind.action (some live) (kind.wanted op d) false = .ok .keep) :
    (Resource.metadata live).covers (Resource.metadata (kind.wanted op d)) = true := by
  cases kind with
  | storageClass =>
      obtain ⟨c, same, fulfils⟩ := DerivedKind.storageClass_fulfils keep
      obtain rfl := Option.some.inj same
      exact fulfils.metadata
  | secret =>
      obtain ⟨s, same, fulfils⟩ := DerivedKind.secret_fulfils keep
      obtain rfl := Option.some.inj same
      exact fulfils.metadata
  | snapshotClass =>
      obtain ⟨c, same, fulfils⟩ := DerivedKind.snapshotClass_fulfils keep
      obtain rfl := Option.some.inj same
      exact fulfils.metadata

theorem DeclarationPass.DerivedKind.isDeleting_wanted (kind : DerivedKind) (op : Operator)
    (d : Declaration) : (Resource.metadata (kind.wanted op d)).isDeleting = false := by
  cases kind <;> rfl

theorem DeclarationPass.metadata_renewed {c : Collection} [LawfulResource c.Object]
    (live desired : c.Object) : Resource.metadata (renewed live desired) =
      { carryOver (Resource.metadata live) (Resource.metadata desired) with
        deletionTimestamp := (Resource.metadata live).deletionTimestamp } := by
  rw [renewed, Store.metadata_setDeletion, updated, Resource.metadata_withMetadata]

namespace Brought

/-- However it came about, the next pass keeps the object. -/
theorem keep (brought : Brought kind (kind.wanted op d) object live) :
    kind.action (some object) (kind.wanted op d) false = .ok .keep := by
  have made : ∀ {other}, Resource.timeless object = Resource.timeless other →
      kind.action (some object) (kind.wanted op d) false =
        kind.action (some other) (kind.wanted op d) false := by
    intro other same
    have alike : (some object).map Resource.timeless = (some other).map Resource.timeless :=
      congrArg some same
    exact DerivedKind.action_congr alike _ _
  have wanted : kind.action (some (kind.wanted op d)) (kind.wanted op d) false = .ok .keep := by
    have covers : (Resource.metadata (kind.wanted op d)).covers
        (Resource.metadata (kind.wanted op d)) = true := by
      simp [Metadata.covers, Dict.extends?_self]
    have kept := DerivedKind.action_wanted op d covers (DerivedKind.isManaged_wanted op d kind)
    rwa [Resource.withMetadata_metadata] at kept
  cases brought with
  | made same => exact (made same).trans wanted
  | kept judged same => exact (made same).trans judged
  | renewed judged same => exact (made same).trans (DerivedKind.action_renewed op d _)
  | remade judged same => exact (made same).trans wanted

/-- The labels and annotations are the desired ones, with those of the live object beside them,
unless that one was made anew. -/
theorem label?_annotation? (brought : Brought kind (kind.wanted op d) object live) (key : String) :
    (Resource.metadata object).label? key = ((Resource.metadata (kind.wanted op d)).label? key).or
        ((kind.carried live (kind.wanted op d)).bind fun before =>
          (Resource.metadata before).label? key) ∧
      (Resource.metadata object).annotation? key =
        ((Resource.metadata (kind.wanted op d)).annotation? key).or
          ((kind.carried live (kind.wanted op d)).bind fun before =>
            (Resource.metadata before).annotation? key) := by
  have read : ∀ {other}, Resource.timeless object = Resource.timeless other →
      (Resource.metadata object).label? key = (Resource.metadata other).label? key ∧
        (Resource.metadata object).annotation? key = (Resource.metadata other).annotation? key :=
    fun same => ⟨Resource.read_congr (·.label? key) (fun _ => rfl) same,
      Resource.read_congr (·.annotation? key) (fun _ => rfl) same⟩
  cases brought with
  | made same =>
      rw [(read same).1, (read same).2, DerivedKind.carried_none]
      simp
  | @kept live judged same =>
      rw [(read same).1, (read same).2, DerivedKind.carried, judged]
      exact Metadata.eq_or_of_covers (DerivedKind.covers_of_keep judged) key
  | @renewed live judged same =>
      rw [(read same).1, (read same).2, DerivedKind.carried, judged,
        DeclarationPass.metadata_renewed]
      simp only [Metadata.label?_eq, Metadata.annotation?_eq]
      exact ⟨Dict.get?_overlay _ _ _, Dict.get?_overlay _ _ _⟩
  | remade judged same =>
      rw [(read same).1, (read same).2, DerivedKind.carried, judged]
      simp

theorem isDeleting (brought : Brought kind (kind.wanted op d) object live) :
    (Resource.metadata object).isDeleting =
      (kind.carried live (kind.wanted op d)).any fun before =>
        (Resource.metadata before).isDeleting := by
  have read : ∀ {other}, Resource.timeless object = Resource.timeless other →
      (Resource.metadata object).isDeleting = (Resource.metadata other).isDeleting :=
    Resource.read_congr _ Metadata.isDeleting_timeless
  cases brought with
  | made same =>
      rw [read same, DerivedKind.isDeleting_wanted, DerivedKind.carried_none]
      rfl
  | kept judged same =>
      rw [read same, DerivedKind.carried, judged]
      rfl
  | renewed judged same =>
      rw [read same, DerivedKind.carried, judged, DeclarationPass.metadata_renewed]
      rfl
  | remade judged same =>
      rw [read same, DerivedKind.isDeleting_wanted, DerivedKind.carried, judged]
      rfl

/-- The module holds every object but one that it has kept without holding it. -/
theorem held_iff (brought : Brought kind (kind.wanted op d) object live) :
    Names.finalizer ∈ (Resource.metadata object).finalizerList ↔
      ¬ ∃ unheld, live = some unheld ∧
        kind.action (some unheld) (kind.wanted op d) false = .ok .keep ∧
        Names.finalizer ∉ (Resource.metadata unheld).finalizerList := by
  have read : ∀ {other}, Resource.timeless object = Resource.timeless other →
      (Resource.metadata object).finalizerList = (Resource.metadata other).finalizerList :=
    Resource.finalizerList_congr
  have desired : Names.finalizer ∈ (Resource.metadata (kind.wanted op d)).finalizerList := by
    rw [DerivedKind.finalizerList_wanted]
    exact List.mem_singleton_self _
  cases brought with
  | made same =>
      rw [read same]
      simp [desired]
  | kept judged same =>
      rw [read same]
      simp [judged]
  | renewed judged same =>
      rw [read same]
      simp [judged, DerivedKind.finalizer_mem_renewed]
  | remade judged same =>
      rw [read same]
      simp [judged, desired]

end Brought

theorem DeclarationPass.DerivedKind.timeless_wanted (kind : DerivedKind) (op : Operator)
    (d : Declaration) : Resource.timeless (kind.wanted op d) = kind.wanted op d := by
  cases kind <;> rfl

/-- What settles a live object that is not left alone is one of the four ways. -/
theorem exists_brought_of_settle {after : Option kind.collection.Object}
    (settled : after.map Resource.timeless = kind.settle live (kind.wanted op d) false)
    (quiet : kind.reason live (kind.wanted op d) false = none) :
    ∃ object, after = some object ∧ Brought kind (kind.wanted op d) object live := by
  have judged := kind.judged live (kind.wanted op d) false
  unfold DerivedKind.settle at settled
  unfold DerivedKind.reason at quiet
  generalize verdict : kind.action live (kind.wanted op d) false = action
    at judged settled quiet
  cases judged with
  | missing =>
      obtain ⟨object, there, same⟩ := Option.map_eq_some_iff.mp settled
      exact ⟨object, there, .made (same.trans (kind.timeless_wanted op d).symm)⟩
  | inForm live =>
      obtain ⟨object, there, same⟩ := Option.map_eq_some_iff.mp settled
      exact ⟨object, there, .kept verdict same⟩
  | outOfForm live =>
      obtain ⟨object, there, same⟩ := Option.map_eq_some_iff.mp settled
      exact ⟨object, there, .renewed verdict same⟩
  | fixed live =>
      obtain ⟨object, there, same⟩ := Option.map_eq_some_iff.mp settled
      exact ⟨object, there, .remade verdict (same.trans (kind.timeless_wanted op d).symm)⟩
  | foreign live owner => exact nomatch quiet
  | foreignSecret live error => exact nomatch quiet

end Wanted

section Passes

variable {op : Operator} {n : String} {d d' : Declaration} {k l : Cluster}

theorem Settled.exists_brought (settled : Settled op n d' l)
    (kept : l.outlook op n = k.outlook op n) (found : k.object? .declarations n = some d)
    (staying : d.isDeleting = false)
    (concluded : (d.conclusion op k.config fun kind => k.derived kind n) = .created)
    (kind : DerivedKind) : ∃ object, l.derived kind n = some object ∧
      Brought kind (kind.wanted op d) object (k.derived kind n) := by
  obtain ⟨accepted, quiet⟩ := Declaration.conclusion_eq_created_iff.mp concluded
  refine exists_brought_of_settle ?_ (quiet kind)
  have seen : (l.observed n).derived kind = (k.outlook op n).derived kind := by
    rw [settled.observed, kept]
  rw [Cluster.outlook, found] at seen
  simpa only [Cluster.observed, Declaration.outlook, staying, accepted, Bool.false_eq_true,
    if_false] using seen

end Passes

end NfsStorage

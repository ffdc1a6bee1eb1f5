import NfsStorage.Proofs.Derived.Sync

/-!
# What becomes of a derived object

`settle` says what a pass without failures leaves of a live object, and `reason` why it leaves the
object alone, if it does. Neither looks at finalizers, versions or times. An object that was made or
renewed is at rest: the next pass keeps it.
-/

namespace NfsStorage

/-- The metadata without the version, and with one time for all deletions. -/
def Metadata.timeless (m : Metadata) : Metadata :=
  { m with
    resourceVersion := none
    deletionTimestamp := m.deletionTimestamp.map fun _ => ⟨⟨1970, 1, 1⟩, 0, 0, 0, 0⟩ }

/-- An object up to its version and the time of its deletion. -/
def Resource.timeless {K : Type} [Resource K] (object : K) : K :=
  Resource.withMetadata object (Resource.metadata object).timeless

theorem Dict.extends?_self {α : Type} [DecidableEq α] (d : Dict α) : d.extends? d = true :=
  (Dict.extends?_iff d d).mpr fun _ _ found => found

theorem Dict.extends?_overlay {α : Type} [DecidableEq α] (base upper : Dict α) :
    (base.overlay upper).extends? upper = true := by
  rw [Dict.extends?_iff]
  intro key value found
  rw [Dict.get?_overlay, found]
  rfl

namespace DeclarationPass

def renewed {c : Collection} (live desired : c.Object) : c.Object :=
  Store.setDeletion (updated live desired) (Resource.metadata live).deletionTimestamp

theorem covers_carryOver (live desired : Metadata) : (carryOver live desired).covers desired = true := by
  simp [Metadata.covers, carryOver, overlaid, Dict.extends?_overlay]

namespace DerivedKind

variable {kind : DerivedKind} {live desired : kind.collection.Object} {deleting : Bool}

def wanted (kind : DerivedKind) (op : Operator) (d : Declaration) : kind.collection.Object :=
  kind.desired (d.derive op.tls op.namespace)

def reason (kind : DerivedKind) (live : Option kind.collection.Object)
    (desired : kind.collection.Object) (deleting : Bool) : Option String :=
  match kind.action live desired deleting with
  | .ok (.skipForeign owner) =>
    some ("foreign-object: " ++ kind.text ++ " " ++ Resource.name desired ++ " is owned by " ++ owner)
  | .error foreign => some (Fault.own foreign)
  | .ok _ => none

/-- What a pass without failures leaves, up to versions and times. -/
def settle (kind : DerivedKind) (live : Option kind.collection.Object)
    (desired : kind.collection.Object) (deleting : Bool) : Option kind.collection.Object :=
  match kind.action live desired deleting with
  | .ok .create | .ok .recreate => some desired
  | .ok .updateInPlace =>
    some (match live with
      | some object => Resource.timeless (renewed object desired)
      | none => desired)
  | .ok .delete => none
  | .ok .keep | .ok (.skipForeign _) | .error _ => live.map Resource.timeless

/-- A pass keeps the object or leaves it alone. -/
def AtRest (kind : DerivedKind) (live : Option kind.collection.Object)
    (desired : kind.collection.Object) (deleting : Bool) : Prop :=
  kind.action live desired deleting = .ok .keep ∨ kind.reason live desired deleting ≠ none

theorem settle_of_atRest {live : Option kind.collection.Object}
    (atRest : kind.AtRest live desired deleting) :
    kind.settle live desired deleting = live.map Resource.timeless := by
  unfold settle
  rcases atRest with keep | left
  · rw [keep]
  · unfold reason at left
    split at left
    next owner judged => rw [judged]
    next foreign judged => rw [judged]
    next => exact absurd rfl left

theorem reason_of_keep {live : Option kind.collection.Object}
    (keep : kind.action live desired deleting = .ok .keep) :
    kind.reason live desired deleting = none := by
  unfold reason
  rw [keep]

theorem action_withMetadata {m : Metadata} (labels : m.labels = (Resource.metadata live).labels)
    (annotations : m.annotations = (Resource.metadata live).annotations)
    (named : m.nameAny = Resource.name live) :
    kind.action (some (Resource.withMetadata live m)) desired deleting =
      kind.action (some live) desired deleting := by
  cases kind with
  | storageClass =>
      have covers : m.covers (StorageClass.metadata desired) =
          (StorageClass.metadata live).covers (StorageClass.metadata desired) := by
        rw [Metadata.covers, labels, annotations]
        rfl
      change Except.ok (StorageClass.action (some { live with metadata := m }) _ _) = _
      simp only [action, StorageClass.action, StorageClass.sameFixedFields, covers]
      rfl
  | secret =>
      have managed : m.isManaged = (Secret.metadata live).isManaged := by
        rw [Metadata.isManaged, Metadata.label?, labels]
        rfl
      have sameName : Secret.name { live with metadata := m } = Secret.name live := named
      change Secret.action (some { live with metadata := m }) _ _ = _
      simp only [action, Secret.action, managed, sameName]
  | snapshotClass =>
      have covers : m.covers (SnapshotClass.metadata desired) =
          (SnapshotClass.metadata live).covers (SnapshotClass.metadata desired) := by
        rw [Metadata.covers, labels, annotations]
        rfl
      change Except.ok (SnapshotClass.action (some { live with metadata := m }) _ _) = _
      simp only [action, SnapshotClass.action, covers]

section Wanted

variable (op : Operator) (d : Declaration)

@[simp]
theorem name_wanted (kind : DerivedKind) :
    Resource.name (kind.wanted op d) = kind.nameOf d.name := kind.name_desired _ _ _

theorem settled_wanted (kind : DerivedKind) :
    Resource.settled (kind.wanted op d) = kind.wanted op d := by
  cases kind <;> rfl

theorem settled_updated {live : kind.collection.Object} :
    Resource.settled (updated live (kind.wanted op d)) = updated live (kind.wanted op d) := by
  rw [updated, Resource.settled_withMetadata, settled_wanted]

theorem metadata_name_wanted (kind : DerivedKind) :
    (Resource.metadata (kind.wanted op d)).name = some (kind.nameOf d.name) := by
  cases kind <;> rfl

theorem finalizerList_wanted (kind : DerivedKind) :
    (Resource.metadata (kind.wanted op d)).finalizerList = [Names.finalizer] := by
  cases kind <;> rfl

/-- Whatever its metadata, as long as they cover those wanted, an object with the wanted content is
kept. -/
theorem action_wanted {m : Metadata}
    (covers : m.covers (Resource.metadata (kind.wanted op d)) = true)
    (managed : m.isManaged = true) :
    kind.action (some (Resource.withMetadata (kind.wanted op d) m)) (kind.wanted op d) false =
      .ok .keep := by
  cases kind with
  | storageClass =>
      have covers : m.covers (d.derive op.tls op.namespace).storageClass.metadata = true := covers
      change Except.ok (StorageClass.action
        (some { (d.derive op.tls op.namespace).storageClass with metadata := m })
        (d.derive op.tls op.namespace).storageClass false) = _
      have ours : (d.derive op.tls op.namespace).storageClass.provisioner = Names.nfsDriver := rfl
      simp [StorageClass.action, StorageClass.sameFixedFields, covers, ours]
  | secret =>
      change Secret.action (some { (d.derive op.tls op.namespace).secret with metadata := m })
        (d.derive op.tls op.namespace).secret false = _
      simp [Secret.action, managed]
  | snapshotClass =>
      have covers : m.covers (d.derive op.tls op.namespace).snapshotClass.metadata = true := covers
      change Except.ok (SnapshotClass.action
        (some { (d.derive op.tls op.namespace).snapshotClass with metadata := m })
        (d.derive op.tls op.namespace).snapshotClass false) = _
      have ours : (d.derive op.tls op.namespace).snapshotClass.driver = Names.nfsDriver := rfl
      simp [SnapshotClass.action, covers, ours]

theorem isManaged_wanted (kind : DerivedKind) :
    (Resource.metadata (kind.wanted op d)).isManaged = true := by
  cases kind <;> rfl

theorem action_renewed (live : kind.collection.Object) :
    kind.action (some (renewed live (kind.wanted op d))) (kind.wanted op d) false = .ok .keep := by
  rw [renewed, Store.setDeletion, updated, Resource.metadata_withMetadata,
    Resource.withMetadata_withMetadata]
  apply action_wanted
  · exact covers_carryOver _ _
  · exact isManaged_carryOver _ (isManaged_wanted op d kind)

theorem timed_renewed {live desired : kind.collection.Object}
    (timed : (Resource.metadata live).Timed) : (Resource.metadata (renewed live desired)).Timed := by
  rw [renewed, Store.metadata_setDeletion]
  exact timed

theorem metadata_name_renewed (live : kind.collection.Object) :
    (Resource.metadata (renewed live (kind.wanted op d))).name = some (kind.nameOf d.name) := by
  rw [renewed, Store.metadata_setDeletion, updated, Resource.metadata_withMetadata]
  exact metadata_name_wanted op d kind

theorem finalizer_mem_renewed (live : kind.collection.Object) :
    Names.finalizer ∈ (Resource.metadata (renewed live (kind.wanted op d))).finalizerList := by
  have held : Names.finalizer ∈ mergedFinalizers (Resource.metadata live).finalizerList
      (Resource.metadata (kind.wanted op d)).finalizerList := by
    rw [finalizerList_wanted, mergedFinalizers, List.foldl_cons, List.foldl_nil]
    split
    next present => simpa using present
    next => exact List.mem_append_right _ (List.mem_singleton_self _)
  rw [renewed, Store.metadata_setDeletion, updated, Resource.metadata_withMetadata]
  exact held

theorem isReleased_renewed (live : kind.collection.Object) :
    Store.isReleased (renewed live (kind.wanted op d)) = false :=
  Store.isReleased_of_mem (finalizer_mem_renewed op d live)

theorem action_made :
    kind.action (some (Store.setDeletion (kind.wanted op d) none)) (kind.wanted op d) false =
      .ok .keep := by
  rw [Store.setDeletion]
  apply action_wanted
  · simp [Metadata.covers, Dict.extends?_self]
  · exact isManaged_wanted op d kind

theorem timeless_made :
    Resource.timeless (Store.setDeletion (kind.wanted op d) none) = kind.wanted op d := by
  rw [Resource.timeless, Store.metadata_setDeletion, Store.setDeletion,
    Resource.withMetadata_withMetadata]
  have same : Metadata.timeless
      { Resource.metadata (kind.wanted op d) with deletionTimestamp := none } =
      Resource.metadata (kind.wanted op d) := by
    cases kind <;> rfl
  rw [same, Resource.withMetadata_metadata]

end Wanted

theorem action_absent (kind : DerivedKind) (desired : kind.collection.Object) :
    kind.action none desired false = .ok .create := by
  cases kind <;> rfl

/-- The judgements that there are, and what each says of the live object. -/
inductive Judged (kind : DerivedKind) :
    Option kind.collection.Object → Bool → Except ForeignSecret Action → Prop where
  | missing : Judged kind none false (.ok .create)
  | gone : Judged kind none true (.ok .keep)
  | inForm (live : kind.collection.Object) : Judged kind (some live) false (.ok .keep)
  | outOfForm (live : kind.collection.Object) : Judged kind (some live) false (.ok .updateInPlace)
  | fixed (live : kind.collection.Object) : Judged kind (some live) false (.ok .recreate)
  | unwanted (live : kind.collection.Object) : Judged kind (some live) true (.ok .delete)
  | foreign (live : kind.collection.Object) (deleting : Bool) (owner : String) :
      Judged kind (some live) deleting (.ok (.skipForeign owner))
  | foreignSecret (live : kind.collection.Object) (error : ForeignSecret) :
      Judged kind (some live) false (.error error)

theorem judged (kind : DerivedKind) (live : Option kind.collection.Object)
    (desired : kind.collection.Object) (deleting : Bool) :
    kind.Judged live deleting (kind.action live desired deleting) := by
  cases live with
  | none =>
      cases deleting with
      | true =>
          rw [action_absent_deleting]
          exact .gone
      | false =>
          rw [action_absent]
          exact .missing
  | some live =>
      cases kind with
      | storageClass =>
          simp only [action, StorageClass.action]
          split
          next => exact .foreign live deleting _
          next =>
            cases deleting with
            | true => exact .unwanted live
            | false =>
                simp only [Bool.false_eq_true, if_false]
                split
                next => exact .fixed live
                next =>
                  split
                  next => exact .inForm live
                  next => exact .outOfForm live
      | secret =>
          simp only [action, Secret.action]
          split
          next => exact .unwanted live
          next => exact .foreign live true _
          next => exact .inForm live
          next => exact .outOfForm live
          next => exact .outOfForm live
          next => exact .foreignSecret live _
      | snapshotClass =>
          simp only [action, SnapshotClass.action]
          split
          next => exact .foreign live deleting _
          next =>
            cases deleting with
            | true => exact .unwanted live
            | false =>
                simp only [Bool.false_eq_true, if_false]
                split
                next => exact .inForm live
                next => exact .outOfForm live

end DerivedKind

theorem timeless_stamped {c : Collection} [LawfulResource c.Object] (s : Store c.Object)
    {name : String} {object : c.Object} (named : (Resource.metadata object).name = some name) :
    Resource.timeless (s.stamped name object) = Resource.timeless object := by
  rw [Resource.timeless, Store.metadata_stamped, Store.stamped, Resource.withMetadata_withMetadata,
    Resource.timeless, Metadata.timeless, Metadata.timeless, named]

theorem action_stamped {kind : DerivedKind} (s : Store kind.collection.Object) {name : String}
    {object desired : kind.collection.Object} {deleting : Bool}
    (named : Resource.name object = name) :
    kind.action (some (s.stamped name object)) desired deleting =
      kind.action (some object) desired deleting :=
  DerivedKind.action_withMetadata rfl rfl (by rw [named]; rfl)

end DeclarationPass

end NfsStorage

import NfsStorage.Proofs.Program.Upholds
import NfsStorage.Proofs.Store.Reachable
import NfsStorage.Controller.Declaration

/-!
# Derived objects, kind by kind

The three kinds of derived objects differ in how a live object is judged and in nothing else that a
pass does. `DerivedKind.action` gathers the three judgements, and `sync` is the way of every kind:
look at the object, judge it, and carry out the judgement.
-/

namespace NfsStorage

instance (kind : DeclarationPass.DerivedKind) : LawfulResource kind.collection.Object := by
  cases kind <;> infer_instance

theorem Declaration.derive_congr {d d' : Declaration} (sameName : d'.name = d.name)
    (sameSpec : d'.spec = d.spec) (tls : Bool) («namespace» : String) :
    d'.derive tls «namespace» = d.derive tls «namespace» := by
  simp only [Declaration.derive, sameName, sameSpec]

theorem Metadata.isManaged_iff (m : Metadata) :
    m.isManaged = true ↔ (m.labels.getD ∅).get? Names.managedByLabel = some Names.operator := by
  rw [Metadata.isManaged, decide_eq_true_iff]
  cases labels : m.labels with
  | none => simp [Metadata.label?, labels, Dict.get?, EmptyCollection.emptyCollection, Dict.empty]
  | some all => simp [Metadata.label?, labels]

namespace DeclarationPass

namespace DerivedKind

def nameOf (kind : DerivedKind) (declaration : String) : String :=
  match kind with
  | storageClass | snapshotClass => declaration
  | secret => Names.secretNameOf declaration

def desired (derived : Derived) : (kind : DerivedKind) → kind.collection.Object
  | storageClass => derived.storageClass
  | secret => derived.secret
  | snapshotClass => derived.snapshotClass

def action : (kind : DerivedKind) → Option kind.collection.Object → kind.collection.Object →
    Bool → Except ForeignSecret Action
  | storageClass, live, desired, deleting => .ok (StorageClass.action live desired deleting)
  | secret, live, desired, deleting => Secret.action live desired deleting
  | snapshotClass, live, desired, deleting => .ok (SnapshotClass.action live desired deleting)

/-- The object has the marks of the module. -/
def IsOurs : (kind : DerivedKind) → kind.collection.Object → Prop
  | storageClass, c => StorageClass.provisioner c = Names.nfsDriver
  | secret, s => (Secret.metadata s).isManaged = true
  | snapshotClass, c => SnapshotClass.driver c = Names.nfsDriver

theorem isOurs_withMetadata {kind : DerivedKind} {object : kind.collection.Object}
    (ours : kind.IsOurs object) {m : Metadata}
    (same : m.labels = (Resource.metadata object).labels) :
    kind.IsOurs (Resource.withMetadata object m) := by
  cases kind with
  | storageClass => exact ours
  | snapshotClass => exact ours
  | secret =>
      change m.isManaged = true
      rw [Metadata.isManaged, Metadata.label?, same]
      exact ours

theorem action_absent_deleting (kind : DerivedKind) (desired : kind.collection.Object) :
    kind.action none desired true = .ok .keep := by
  cases kind <;> rfl

theorem action_ours_deleting {kind : DerivedKind} {live desired : kind.collection.Object}
    (ours : kind.IsOurs live) : kind.action (some live) desired true = .ok .delete := by
  cases kind with
  | storageClass =>
      have ours : StorageClass.provisioner live = Names.nfsDriver := ours
      simp [action, StorageClass.action, ours]
  | secret =>
      have ours : (Secret.metadata live).isManaged = true := ours
      simp [action, Secret.action, ours]
  | snapshotClass =>
      have ours : SnapshotClass.driver live = Names.nfsDriver := ours
      simp [action, SnapshotClass.action, ours]

theorem collection_injective {kind other : DerivedKind}
    (same : kind.collection = other.collection) : kind = other := by
  cases kind <;> cases other <;> first | rfl | exact nomatch same

theorem collection_ne_declarations (kind : DerivedKind) : kind.collection ≠ .declarations := by
  cases kind <;> exact nofun

theorem isManaged_collection (kind : DerivedKind) : kind.collection.isManaged = true := by
  cases kind <;> rfl

theorem nameOf_injective (kind : DerivedKind) {n m : String}
    (same : kind.nameOf n = kind.nameOf m) : n = m := by
  cases kind with
  | storageClass => exact same
  | secret => exact (String.append_right_inj Names.secretNameBeginning).mp same
  | snapshotClass => exact same

@[simp]
theorem name_desired (kind : DerivedKind) (d : Declaration) (tls : Bool) («namespace» : String) :
    Resource.name (kind.desired (d.derive tls «namespace»)) = kind.nameOf d.name := by
  cases kind <;> rfl

end DerivedKind

/-- The desired object in the place of a live one. -/
def updated {c : Collection} (live desired : c.Object) : c.Object :=
  Resource.withMetadata desired (carryOver (Resource.metadata live) (Resource.metadata desired))

theorem isManaged_carryOver (live : Metadata) {desired : Metadata}
    (managed : desired.isManaged = true) : (carryOver live desired).isManaged = true := by
  have covered : (overlaid live.labels desired.labels).get? Names.managedByLabel =
      some Names.operator := by
    rw [overlaid, Dict.get?_overlay, desired.isManaged_iff.mp managed]
    rfl
  exact decide_eq_true covered

def sync (kind : DerivedKind) (desired : kind.collection.Object) (deleting : Bool) :
    Pass Error (Option String) := do
  let live ← Pass.request (.get kind.collection (Resource.name desired))
    (.getDerived kind (Resource.name desired))
  match kind.action live desired deleting with
  | .ok action => apply kind live desired action
  | .error foreign => return some (Fault.own foreign)

/-- The three ways are one. -/
theorem syncDerived_eq (op : Operator) (d : Declaration) (deleting : Bool) :
    syncDerived op d deleting = (do
      let desired := d.derive op.tls op.namespace
      let fromClass ← sync .storageClass desired.storageClass deleting
      let fromSecret ← sync .secret desired.secret deleting
      let fromSnapshotClass ← sync .snapshotClass desired.snapshotClass deleting
      return fromClass.toList ++ fromSecret.toList ++ fromSnapshotClass.toList) := rfl

/-- What is left of a pass over a declaration that has the finalizer. -/
def establish (op : Operator) (d : Declaration) : Pass Error Outcome := do
  let found ← Pass.request (.get .moduleConfigs ModuleConfig.singleton) .getModuleConfig
  let config := found.getD .unset
  match config.validate op.tls d with
  | .error violation =>
    return .invalid (violation.code ++ ": " ++ config.violationText d violation)
  | .ok () =>
    let foreign ← syncDerived op d false
    return if foreign.isEmpty then .created else .foreign foreign

/-- A declaration gets the finalizer before anything else is done for it. -/
theorem converge_eq (op : Operator) (d : Declaration) :
    converge op d =
      if !d.metadata.finalizerList.contains Names.finalizer then do
        patchFinalizers d.name (d.metadata.finalizerList ++ [Names.finalizer])
        establish op d
      else establish op d := rfl

theorem statusAfter_eq_some {result : Except Error Outcome} {status : DeclarationStatus}
    (called : statusAfter result = some status) :
    ∃ phase reason, status = ⟨some phase, some reason⟩ := by
  cases result with
  | error e => exact ⟨_, _, (Option.some.inj called).symm⟩
  | ok outcome =>
      cases outcome with
      | created => exact ⟨_, _, (Option.some.inj called).symm⟩
      | invalid reason => exact ⟨_, _, (Option.some.inj called).symm⟩
      | foreign reasons => exact ⟨_, _, (Option.some.inj called).symm⟩
      | released => exact nomatch called

/-- The pass over a declaration that was found: its work, and then its status. -/
theorem upholds_reconcileFound {rely guarantee : Cluster → Cluster → Prop}
    {middle : Except Error Outcome → Cluster → Prop} {post : Except Error Next → Cluster → Prop}
    {op : Operator} {d : Declaration} {k : Cluster}
    (work : Program.Upholds rely guarantee middle
      (ExceptT.run (if d.isDeleting then release op d else converge op d)) k)
    (unwritten : ∀ {result l}, middle result l → statusAfter result = none →
      post (joinResults op result (.ok ())) l)
    (written : ∀ {result status l}, middle result l → statusAfter result = some status →
      Program.Upholds rely guarantee (fun written => post (joinResults op result written))
        (ExceptT.run (updateStatus d status)) l) :
    Program.Upholds rely guarantee post (reconcileFound op d) k := by
  apply Program.Upholds.bind
  apply Program.Upholds.mono work
  intro result l reached
  cases called : statusAfter result with
  | none => exact unwritten reached called
  | some status => exact Program.Upholds.bind (written reached called)

end DeclarationPass

namespace Cluster

open DeclarationPass (DerivedKind)

def derived (k : Cluster) (kind : DerivedKind) (declaration : String) :
    Option kind.collection.Object :=
  k.object? kind.collection (kind.nameOf declaration)

/-- No finalizer keeps the derived object, if it is there. -/
def Bare (k : Cluster) (kind : DerivedKind) (n : String) : Prop :=
  ∀ object, k.derived kind n = some object → (Resource.metadata object).finalizerList = []

theorem derived_write_self (k : Cluster) {kind : DerivedKind} {n : String} {verb : Verb}
    {object : kind.collection.Object} :
    (k.write kind.collection verb (kind.nameOf n) object).derived kind n =
      if Store.isReleased object then none
      else some ((k.store kind.collection).stamped (kind.nameOf n) object) := by
  rw [derived, object?_write_self, Store.isReleased_stamped]

theorem derived_write_of_ne (k : Cluster) {c : Collection} {verb : Verb} {name : String}
    {object : c.Object} {kind : DerivedKind} {n : String}
    (different : kind.collection = c → kind.nameOf n ≠ name) :
    (k.write c verb name object).derived kind n = k.derived kind n :=
  object?_write_of_ne k c verb name object different

theorem derived_write_other (k : Cluster) {kind other : DerivedKind} {n m : String} {verb : Verb}
    {object : kind.collection.Object} (different : other = kind → m ≠ n) :
    (k.write kind.collection verb (kind.nameOf n) object).derived other m = k.derived other m :=
  k.derived_write_of_ne fun sameCollection sameName => by
    obtain rfl := DerivedKind.collection_injective sameCollection
    exact different rfl (other.nameOf_injective sameName)

theorem derived_write_declaration (k : Cluster) {verb : Verb} {name : String} {object : Declaration}
    (kind : DerivedKind) (n : String) :
    (k.write .declarations verb name object).derived kind n = k.derived kind n :=
  k.derived_write_of_ne fun same => absurd same kind.collection_ne_declarations

theorem declaration_write_derived (k : Cluster) {kind : DerivedKind} {verb : Verb}
    {name n : String} {object : kind.collection.Object} :
    (k.write kind.collection verb name object).object? .declarations n =
      k.object? .declarations n :=
  object?_write_of_ne _ _ _ _ _ fun same => absurd same.symm kind.collection_ne_declarations

end Cluster

end NfsStorage

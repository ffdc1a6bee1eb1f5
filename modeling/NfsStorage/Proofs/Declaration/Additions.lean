import NfsStorage.Proofs.Declaration.Brought
import NfsStorage.Proofs.Declaration.Quiescence

/-!
# What others add to a storage class

Others may put labels and annotations on the storage class of a declaration. A pass that renews the
class keeps them. One that makes the class anew, because a field has to change that cannot be
changed, looks at the class no more: what others have added to it goes with it.
-/

namespace NfsStorage

open DeclarationPass (DerivedKind)

theorem carried_storageClass {live : StorageClass} (ours : live.provisioner = Names.nfsDriver)
    (desired : StorageClass) : DerivedKind.storageClass.carried (some live) desired =
      if live.sameFixedFields desired then some live else none := by
  have judged : DerivedKind.storageClass.action (some live) desired false = .ok
      (if !live.sameFixedFields desired then .recreate
      else if live.mountOptions.getD [] = desired.mountOptions.getD [] &&
        live.metadata.covers desired.metadata then .keep
      else .updateInPlace) :=
    congrArg Except.ok (if_neg (not_not_intro ours))
  rw [DerivedKind.carried, judged]
  cases live.sameFixedFields desired with
  | false => rfl
  | true =>
      simp only [Bool.not_true, Bool.false_eq_true, if_false, if_true]
      by_cases same : (live.mountOptions.getD [] = desired.mountOptions.getD [] &&
          live.metadata.covers desired.metadata) = true
      · rw [if_pos same]
      · rw [if_neg same]

/-- After a pass that leaves a declaration created, its storage class has the labels and annotations
that are desired, and those of the class before it if and only if nothing that is fixed was to
change. -/
theorem additions_kept_unless_remade (op : Operator) {k : Cluster} (reachable : k.Reachable)
    {n : String} {d : Declaration} (found : k.object? .declarations n = some d)
    (staying : d.isDeleting = false) {live : StorageClass}
    (present : k.object? .storageClasses n = some live)
    (ours : live.provisioner = Names.nfsDriver) :
    let passed := (DeclarationPass.reconcile op n).run.run .direct k
    let desired := (d.derive op.tls op.namespace).storageClass
    let carried := if live.sameFixedFields desired then some live else none
    ∀ next (d' : Declaration), passed.1 = .ok next →
      passed.2.object? .declarations n = some d' → d'.phase? = some .created →
        ∃ c : StorageClass, passed.2.object? .storageClasses n = some c ∧
          ∀ key,
            c.metadata.label? key = (desired.metadata.label? key).or
              (carried.bind fun before => before.metadata.label? key) ∧
            c.metadata.annotation? key = (desired.metadata.annotation? key).or
              (carried.bind fun before => before.metadata.annotation? key) := by
  intro passed desired carried next d' succeeds stored created
  have settled := settled_of_ok reachable.sound found staying succeeds stored
  have kept : passed.2.outlook op n = k.outlook op n :=
    Alone.outlook_run (alone_reconcile_of_staying reachable.sound found staying)
  have concluded := settled.conclusion_of_created kept found staying created
  obtain ⟨c, there, brought⟩ := settled.exists_brought kept found staying concluded .storageClass
  refine ⟨c, there, fun key => ?_⟩
  have additions := brought.label?_annotation? key
  have before : k.derived .storageClass n = some live := present
  rw [before, carried_storageClass ours] at additions
  exact additions

/-- A declaration whose storage class others have labelled, and that has other mount options since,
and maybe another reclaim policy. -/
def labelled (before : ReclaimPolicy) : Cluster :=
  let wanted := (plainDeclaration.derive true Names.defaultNamespace).storageClass
  let labels := (wanted.metadata.labels.getD ∅).insert "team" "storage"
  let live : StorageClass :=
    { wanted with
      metadata := { wanted.metadata with labels := some labels }
      mountOptions := none
      reclaimPolicy := some before.text }
  (Cluster.setStore {} .declarations (Store.ofList [plainDeclaration])).setStore .storageClasses
    (Store.ofList [live])

def Cluster.classLabel? (k : Cluster) (key : String) : Option String :=
  (k.object? .storageClasses "a").bind fun c : StorageClass => c.metadata.label? key

theorem reachable_labelled (before : ReclaimPolicy) : (labelled before).Reachable :=
  .filledAlive .storageClasses rfl (.filledAlive .declarations rfl .empty)

/-- The class is renewed, and keeps the label of others. -/
theorem additions_kept_unless_remade_labelled :
    let passed := (DeclarationPass.reconcile {} "a").run.run .direct (labelled .delete)
    passed.2.classLabel? "team" = some "storage" := by
  intro passed
  obtain ⟨d, live, found, present, staying, ours, fixed, unwanted, label⟩ :
      ∃ (d : Declaration) (live : StorageClass),
        (labelled .delete).object? .declarations "a" = some d ∧
        (labelled .delete).object? .storageClasses "a" = some live ∧
        d.isDeleting = false ∧ live.provisioner = Names.nfsDriver ∧
        live.sameFixedFields (d.derive true Names.defaultNamespace).storageClass = true ∧
        (d.derive true Names.defaultNamespace).storageClass.metadata.label? "team" = none ∧
        live.metadata.label? "team" = some "storage" :=
    ⟨_, _, rfl, rfl, rfl, rfl, by decide +kernel, by decide +kernel, by decide +kernel⟩
  have succeeds : passed.1 = .ok .awaitChange := by decide +kernel
  obtain ⟨d', stored, created⟩ := Option.bind_eq_some_iff.mp
    (show (passed.2.object? .declarations "a").bind Declaration.phase? = some .created by
      decide +kernel)
  obtain ⟨c, there, additions⟩ := additions_kept_unless_remade {} (reachable_labelled .delete)
    found staying present ours _ d' succeeds stored created
  have kept := (additions "team").1
  rw [if_pos fixed, unwanted] at kept
  rw [Cluster.classLabel?, there]
  exact kept.trans label

/-- The class is made anew, and nothing is left of the label. -/
theorem additions_lost :
    let passed := (DeclarationPass.reconcile {} "a").run.run .direct (labelled .retain)
    (∃ live : StorageClass, (labelled .retain).object? .storageClasses "a" = some live ∧
      live.provisioner = Names.nfsDriver ∧ live.metadata.label? "team" = some "storage") ∧
      (plainDeclaration.derive true Names.defaultNamespace).storageClass.metadata.label? "team" =
        none ∧
      passed.1 = .ok .awaitChange ∧
      (passed.2.object? .declarations "a").bind Declaration.phase? = some .created ∧
      passed.2.classLabel? "team" = none := by
  refine ⟨⟨_, rfl, rfl, ?_⟩, ?_⟩
  · decide +kernel
  · decide +kernel

end NfsStorage

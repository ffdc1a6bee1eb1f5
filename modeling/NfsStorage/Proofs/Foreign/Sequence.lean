import NfsStorage.Proofs.Foreign.Components

/-!
# Sequences of passes

The components run one after the other, in any order and any number of times, and the server may
refuse anything at any moment. In between anybody may change declarations and configurations.
-/

namespace NfsStorage

open DeclarationPass (DerivedKind)

inductive Component where
  | declaration (name : String)
  | moduleConfig (name : String)
  | teardown

namespace Component

def program (op : Operator) : Component → Program Unit
  | declaration name => Functor.discard (DeclarationPass.reconcile op name).run
  | moduleConfig name => Functor.discard (ModuleConfigPass.reconcile op name).run
  | teardown => Functor.discard Teardown.run

def reconciles : Component → Prop
  | declaration _ | moduleConfig _ => True
  | teardown => False

end Component

/-- The cluster after some components have run one after the other. What others did to declarations
and configurations in between left the condition true. -/
inductive Sequence (op : Operator) (takesPart : Component → Prop) (condition : Cluster → Prop)
    (start : Cluster) : Cluster → Prop where
  | refl : Sequence op takesPart condition start start
  | run {k l : Cluster} (component : Component) (part : takesPart component)
      (runs : (component.program op).RunsAmong Weather k () l) :
      Sequence op takesPart condition start k → Sequence op takesPart condition start l
  | changed {k : Cluster} {r : Request}
      (elsewhere : r.collection = .declarations ∨ r.collection = .moduleConfigs)
      (stillTrue : condition (k.serve r).2) :
      Sequence op takesPart condition start k → Sequence op takesPart condition start (k.serve r).2

/-- The declaration of a name, if it is there, asks for a secret with another payload. -/
def PayloadDiffers (op : Operator) (n : String) (secret : Secret) (k : Cluster) : Prop :=
  ∀ d : Declaration, k.object? .declarations n = some d →
    secret.data.getD ∅ ≠ (d.derive op.tls op.namespace).secret.data.getD ∅

section Sequences

variable {op : Operator} {kind : DerivedKind} {name : String} {object : kind.collection.Object}
  {k l : Cluster}

theorem Stands.changed (stands : Stands kind name object k) {r : Request}
    (elsewhere : r.collection = .declarations ∨ r.collection = .moduleConfigs) :
    Stands kind name object (k.serve r).2 := by
  refine stands.served (k.served r) fun same => ?_
  rcases elsewhere with declarations | moduleConfigs
  · exact absurd (same.trans declarations) kind.collection_ne_declarations
  · rw [moduleConfigs] at same
    cases kind <;> exact nomatch same

/-- The two reconcilers leave an object alone that is not the module's and that a pass over its
declaration would leave alone. -/
theorem spurned_program (spurned : Spurned op kind name object k) (foreign : ¬ kind.IsOurs object)
    (component : Component) (reconciles : component.reconciles) :
    (component.program op).Upholds Weather (fun _ _ => True)
      (fun _ l => Spurned op kind name object l) k := by
  cases component with
  | declaration n =>
      exact Program.Upholds.discard (keeps_reconcile spurned n) fun result l promised =>
        (Pass.outcome_same _ result l).mp promised
  | moduleConfig config =>
      exact Program.Upholds.discard (keeps_moduleConfig spurned foreign config)
        fun result l promised => (Pass.outcome_same _ result l).mp promised
  | teardown => exact reconciles.elim

/-- A class of another driver stands whichever components run. -/
theorem Stands.sequence {takesPart : Component → Prop} {condition : Cluster → Prop}
    (stands : Stands kind name object k) (isClass : kind ≠ .secret)
    (foreign : ¬ kind.IsOurs object) (sequence : Sequence op takesPart condition k l) :
    Stands kind name object l := by
  induction sequence with
  | refl => exact stands
  | changed elsewhere _ _ inductionHypothesis => exact inductionHypothesis.changed elsewhere
  | @run k l component part runs _ inductionHypothesis =>
      have spurned : Spurned op kind name object k :=
        ⟨inductionHypothesis, fun _ _ _ _ => leavesAlone_of_not_isOurs isClass foreign _⟩
      cases component with
      | declaration n =>
          exact ((spurned_program spurned foreign (.declaration n) trivial).runsAmong
            runs).toStands
      | moduleConfig config =>
          exact ((spurned_program spurned foreign (.moduleConfig config) trivial).runsAmong
            runs).toStands
      | teardown =>
          exact (Program.Upholds.discard (stands_teardown inductionHypothesis isClass foreign)
            fun _ _ stands => stands).runsAmong runs

theorem spurned_of_payload {n : String} {secret : Secret}
    (stands : Stands .secret (Names.secretNameOf n) secret k)
    (unmanaged : secret.metadata.isManaged = false)
    (differs : PayloadDiffers op n secret k) :
    Spurned op .secret (Names.secretNameOf n) secret k := by
  refine ⟨stands, fun m d found named => leavesAlone_of_payload unmanaged ?_⟩
  obtain rfl := DerivedKind.secret.nameOf_injective named
  exact differs d found

/-- The reconcilers keep the specs, and with them what declarations ask for. -/
theorem Spurned.sequence {n : String} {secret : Secret}
    (spurned : Spurned op .secret (Names.secretNameOf n) secret k)
    (unmanaged : secret.metadata.isManaged = false)
    (sequence : Sequence op Component.reconciles (PayloadDiffers op n secret) k l) :
    Spurned op .secret (Names.secretNameOf n) secret l := by
  induction sequence with
  | refl => exact spurned
  | changed elsewhere stillTrue _ inductionHypothesis =>
      exact spurned_of_payload (inductionHypothesis.toStands.changed elsewhere) unmanaged stillTrue
  | run _ part runs _ inductionHypothesis =>
      refine (spurned_program inductionHypothesis (fun ours => ?_) _ part).runsAmong runs
      exact Bool.false_ne_true (unmanaged.symm.trans ours)

end Sequences

/-- Whatever runs, in whatever order and with whatever failures, a class of another driver is at
the end what it was at the start. The reconcilers leave a secret with the name of credentials as it
is, too, while it is not managed and its declaration asks for another payload. -/
theorem foreign_objects_untouched (op : Operator) {k l : Cluster} (reachable : k.Reachable) :
    (Sequence op (fun _ => True) (fun _ => True) k l →
      (∀ name (c : StorageClass), k.object? .storageClasses name = some c →
        c.provisioner ≠ Names.nfsDriver → l.object? .storageClasses name = some c) ∧
      ∀ name (c : SnapshotClass), k.object? .snapshotClasses name = some c →
        c.driver ≠ Names.nfsDriver → l.object? .snapshotClasses name = some c) ∧
    ∀ n (secret : Secret), k.object? .secrets (Names.secretNameOf n) = some secret →
      secret.metadata.isManaged = false → PayloadDiffers op n secret k →
      Sequence op Component.reconciles (PayloadDiffers op n secret) k l →
      l.object? .secrets (Names.secretNameOf n) = some secret := by
  have sound := reachable.sound
  refine ⟨fun sequence => ⟨fun name c found foreign => ?_, fun name c found foreign => ?_⟩, ?_⟩
  · have stands : Stands .storageClass name c k := ⟨sound, found⟩
    exact (stands.sequence nofun foreign sequence).present
  · have stands : Stands .snapshotClass name c k := ⟨sound, found⟩
    exact (stands.sequence nofun foreign sequence).present
  · intro n secret found unmanaged differs sequence
    have stands : Stands .secret (Names.secretNameOf n) secret k := ⟨sound, found⟩
    exact ((spurned_of_payload stands unmanaged differs).sequence unmanaged sequence).present

/-- A declaration whose three names are taken by objects of others. -/
def taken : Cluster :=
  let declared : Cluster := Cluster.setStore {} .declarations (Store.ofList [
    { metadata := { name := some "a" }
      spec :=
        { connection := { host := "host", share := "/share", nfsVersion := .v41 }
          reclaimPolicy := .delete
          volumeBindingMode := .immediate } }])
  let withClass := declared.setStore .storageClasses (Store.ofList [
    { metadata := { name := some "a" }, provisioner := "other" }])
  let withSnapshotClass := withClass.setStore .snapshotClasses (Store.ofList [
    { metadata := { name := some "a" }, driver := "other", deletionPolicy := .delete }])
  withSnapshotClass.setStore .secrets (Store.ofList [
    { metadata := { name := some "nfs-mount-options-for-a" } }])

/-- A pass over the declaration and one over the configuration leave them where they are. -/
theorem foreign_objects_untouched_taken :
    let passed := (Component.program {} (.declaration "a")).run .direct taken
    let l := ((Component.program {} (.moduleConfig "nfs")).run .direct passed.2).2
    l.object? .storageClasses "a" =
        some { metadata := { name := some "a", resourceVersion := some "1" }
               provisioner := "other" } ∧
      l.object? .snapshotClasses "a" =
        some { metadata := { name := some "a", resourceVersion := some "1" }
               driver := "other"
               deletionPolicy := .delete } ∧
      l.object? .secrets "nfs-mount-options-for-a" =
        some { metadata :=
                { name := some "nfs-mount-options-for-a", resourceVersion := some "1" } } := by
  intro passed l
  have reachable : taken.Reachable := by
    refine .filled .secrets _ ?_ (.filled .snapshotClasses _ ?_ (.filled .storageClasses _ ?_
      (.filled .declarations _ ?_ .empty)))
    all_goals
      intro object membership
      obtain rfl := List.mem_singleton.mp membership
      exact nofun
  have runs : ∀ (component : Component) k,
      (component.program {}).RunsAmong Weather k () ((component.program {}).run .direct k).2 :=
    fun component k => Program.runsAmong_run .refl _ k
  have anything : Sequence {} (fun _ => True) (fun _ => True) taken l :=
    .run _ trivial (runs _ _) (.run _ trivial (runs _ _) .refl)
  have reconciled : Sequence {} Component.reconciles
      (PayloadDiffers {} "a" { metadata :=
        { name := some "nfs-mount-options-for-a", resourceVersion := some "1" } }) taken l :=
    .run (.moduleConfig "nfs") trivial (runs _ _)
      (.run (.declaration "a") trivial (runs _ _) .refl)
  have differs : PayloadDiffers {} "a" { metadata :=
      { name := some "nfs-mount-options-for-a", resourceVersion := some "1" } } taken := by
    intro d found
    obtain rfl := Option.some.inj found
    decide +kernel
  obtain ⟨classes, secrets⟩ := foreign_objects_untouched {} (l := l) reachable
  obtain ⟨storageClasses, snapshotClasses⟩ := classes anything
  exact ⟨storageClasses _ _ rfl (by decide), snapshotClasses _ _ rfl (by decide),
    secrets "a" _ rfl rfl differs reconciled⟩

end NfsStorage

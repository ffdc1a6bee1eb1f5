import NfsStorage.Proofs.Declaration.Brought
import NfsStorage.Proofs.Declaration.Quiescence
import NfsStorage.Proofs.Foreign.Untouched

/-!
# Edits of derived classes

Others may edit the classes of a declaration that is created, or ask for their deletion. The next
pass gives them back all content that the declaration asks for, and makes those that are gone. But
it judges a class by its content alone: a class that is in form is kept as it is, whether the module
still holds it or not, and one that waits for its deletion goes on waiting unless it is made anew.
-/

namespace NfsStorage

open DeclarationPass (DerivedKind)

/-- What others do to the classes of a declaration: they patch and delete them at any time and
whatever is refused, but leave them to the driver of the module. -/
inductive Edited (n : String) (k : Cluster) : Cluster → Prop where
  | nothing : Edited n k k
  | patched {l : Cluster} (kind : DerivedKind) (isClass : kind ≠ .secret) (change : Json)
      (ours : ∀ object, (l.serve (.patch kind.collection (kind.nameOf n) change)).2.derived kind n =
        some object → kind.IsOurs object) :
      Edited n k l → Edited n k (l.serve (.patch kind.collection (kind.nameOf n) change)).2
  | deleted {l : Cluster} (kind : DerivedKind) (isClass : kind ≠ .secret) :
      Edited n k l → Edited n k (l.serve (.delete kind.collection (kind.nameOf n))).2
  | meanwhile {l : Cluster} (conditions : Conditions) :
      Edited n k l → Edited n k (l.under conditions)

def Cluster.ClassesOurs (k : Cluster) (n : String) : Prop :=
  ∀ kind : DerivedKind, kind ≠ .secret →
    ∀ object, k.derived kind n = some object → kind.IsOurs object

namespace DeclarationPass.DerivedKind

variable {kind : DerivedKind} {object desired : kind.collection.Object}

theorem not_foreign_of_isOurs (isClass : kind ≠ .secret) (ours : kind.IsOurs object) :
    ¬ kind.Foreign object desired := by
  cases kind with
  | storageClass => exact not_not_intro ours
  | secret => exact absurd rfl isClass
  | snapshotClass => exact not_not_intro ours

theorem isOurs_of_reason_eq_none (isClass : kind ≠ .secret)
    (quiet : kind.reason (some object) desired false = none) : kind.IsOurs object := by
  refine Classical.byContradiction fun other => ?_
  unfold reason at quiet
  rcases leavesAlone_of_not_isOurs isClass other desired false with ⟨owner, skips⟩ | ⟨e, fails⟩
  · rw [skips] at quiet
    exact nomatch quiet
  · rw [fails] at quiet
    exact nomatch quiet

end DeclarationPass.DerivedKind

namespace Edited

variable {n : String} {k l : Cluster}

theorem sound (edited : Edited n k l) (sound : k.Sound) : l.Sound := by
  induction edited with
  | nothing => exact sound
  | patched kind _ change _ _ inductionHypothesis =>
      exact inductionHypothesis.served (Cluster.served _ _)
  | deleted kind _ _ inductionHypothesis => exact inductionHypothesis.served (Cluster.served _ _)
  | meanwhile conditions _ inductionHypothesis => exact inductionHypothesis.under conditions

theorem object? (edited : Edited n k l) {c : Collection}
    (elsewhere : ∀ kind : DerivedKind, kind ≠ .secret → c ≠ kind.collection) (name : String) :
    l.object? c name = k.object? c name := by
  induction edited with
  | nothing => rfl
  | patched kind isClass change _ _ inductionHypothesis =>
      rw [← inductionHypothesis]
      exact (Cluster.served _ _).object? fun same => absurd same (elsewhere kind isClass)
  | deleted kind isClass _ inductionHypothesis =>
      rw [← inductionHypothesis]
      exact (Cluster.served _ _).object? fun same => absurd same (elsewhere kind isClass)
  | meanwhile conditions _ inductionHypothesis =>
      rw [Cluster.object?_under, inductionHypothesis]

theorem classesOurs_deleted (ours : k.ClassesOurs n) (kind : DerivedKind)
    (isClass : kind ≠ .secret) :
    (k.serve (.delete kind.collection (kind.nameOf n))).2.ClassesOurs n := by
  have served := k.served (.delete kind.collection (kind.nameOf n))
  generalize (k.serve (.delete kind.collection (kind.nameOf n))).2 = after at served ⊢
  generalize (k.serve (.delete kind.collection (kind.nameOf n))).1 = answer at served
  intro other isClass' object present
  cases served with
  | failed => exact ours other isClass' object present
  | alreadyGone => exact ours other isClass' object present
  | deleted _ _ old found =>
      by_cases same : other = kind
      · subst same
        rw [Cluster.derived_write_self] at present
        split at present
        next => exact nomatch present
        next =>
          obtain rfl := Option.some.inj present
          have asked : other.IsOurs (Store.asked k.clock old) :=
            DerivedKind.isOurs_withMetadata (ours other isClass old found) rfl
          exact DerivedKind.isOurs_withMetadata asked rfl
      · rw [Cluster.derived_write_other _ fun here => absurd here same] at present
        exact ours other isClass' object present

theorem classesOurs (edited : Edited n k l) (ours : k.ClassesOurs n) : l.ClassesOurs n := by
  induction edited with
  | nothing => exact ours
  | @patched l kind isClass change still _ inductionHypothesis =>
      intro other isClass' object present
      by_cases same : other = kind
      · subst same
        exact still object present
      · refine inductionHypothesis other isClass' object ?_
        rw [← present]
        exact ((Cluster.served _ _).object? fun here =>
          absurd (DerivedKind.collection_injective here) same).symm
  | deleted kind isClass _ inductionHypothesis =>
      exact classesOurs_deleted inductionHypothesis kind isClass
  | meanwhile conditions _ inductionHypothesis =>
      intro kind isClass object present
      rw [Cluster.derived, Cluster.object?_under] at present
      exact inductionHypothesis kind isClass object present

end Edited

section Passes

variable {op : Operator} {n : String} {d : Declaration} {k l : Cluster}

/-- Nothing that others have done to the classes of a declaration keeps it from being created. -/
theorem Edited.concluded (edited : Edited n k l) (settled : Settled op n d k)
    (created : d.phase? = some .created) :
    l.object? .declarations n = some d ∧
      (d.conclusion op l.config fun kind => l.derived kind n) = .created := by
  obtain ⟨accepted, quiet⟩ := Declaration.conclusion_eq_created_iff.mp
    (settled.conclusion_of_created rfl settled.found settled.staying created)
  have declaration : l.object? .declarations n = k.object? .declarations n :=
    edited.object? (fun kind _ => kind.collection_ne_declarations.symm) n
  have config : l.config = k.config := by
    have elsewhere := edited.object? (c := .moduleConfigs) fun kind _ => by
      cases kind <;> exact nofun
    rw [Cluster.config, elsewhere]
    rfl
  have secret : l.derived .secret n = k.derived .secret n := by
    refine edited.object? (fun kind isClass same => ?_) _
    have here : DerivedKind.secret = kind := DerivedKind.collection_injective same
    exact isClass here.symm
  have ours : l.ClassesOurs n := edited.classesOurs fun kind isClass object present =>
    DerivedKind.isOurs_of_reason_eq_none isClass (present ▸ quiet kind)
  refine ⟨declaration.trans settled.found, Declaration.conclusion_eq_created_iff.mpr
    ⟨config ▸ accepted, fun kind => ?_⟩⟩
  by_cases isClass : kind = .secret
  · subst isClass
    rw [secret]
    exact quiet .secret
  · exact DerivedKind.reason_eq_none fun object present =>
      DerivedKind.not_foreign_of_isOurs isClass (ours kind isClass object present)

end Passes

/-- A declaration was left created, and others have edited its classes since. The next pass without
failures leaves it created, with everything that it asks for in its place. Yet a class that was to
be deleted still is, unless it was made anew, and the module does not hold a class that it found in
form and did not hold. -/
theorem edits_judged_by_content (op : Operator) {k : Cluster} (reachable : k.Reachable)
    {n : String} {d d' : Declaration} (found : k.object? .declarations n = some d)
    (staying : d.isDeleting = false) {next : Next}
    (succeeds : ((DeclarationPass.reconcile op n).run.run .direct k).1 = .ok next)
    (stored : ((DeclarationPass.reconcile op n).run.run .direct k).2.object? .declarations n =
      some d')
    (created : d'.phase? = some .created) {edited : Cluster}
    (edits : Edited n ((DeclarationPass.reconcile op n).run.run .direct k).2 edited)
    (conditions : Conditions) :
    let again := (DeclarationPass.reconcile op n).run.run .direct (edited.under conditions.calm)
    (∃ next, again.1 = .ok next) ∧
      (∃ d'' : Declaration, again.2.object? .declarations n = some d'' ∧
        d''.status = some .created) ∧
      again.2.Provides op n d' ∧
      ∀ kind : DerivedKind, kind ≠ .secret → ∃ object, again.2.derived kind n = some object ∧
        ((Resource.metadata object).isDeleting = true ↔
          ∃ before, kind.carried (edited.derived kind n) (kind.wanted op d') = some before ∧
            (Resource.metadata before).isDeleting = true) ∧
        (Names.finalizer ∈ (Resource.metadata object).finalizerList ↔
          ¬ ∃ before, edited.derived kind n = some before ∧
            kind.action (some before) (kind.wanted op d') false = .ok .keep ∧
            Names.finalizer ∉ (Resource.metadata before).finalizerList) := by
  intro again
  have settled := settled_of_ok reachable.sound found staying succeeds stored
  have calm : Edited n _ (edited.under conditions.calm) := .meanwhile conditions.calm edits
  have sound : (edited.under conditions.calm).Sound := calm.sound (reachable.run _).sound
  obtain ⟨declared, concluded⟩ := calm.concluded settled created
  have serves : ∀ c verb, (edited.under conditions.calm).refused c verb = none := by
    intro c verb
    rw [Cluster.refused_under]
    rfl
  obtain ⟨next', d'', ok, settledAgain⟩ :=
    exists_ok_of_serves op sound declared settled.staying serves
  have kept : again.2.outlook op n = (edited.under conditions.calm).outlook op n :=
    Alone.outlook_run (alone_reconcile_of_staying sound declared settled.staying)
  have brought := settledAgain.exists_brought kept declared settled.staying concluded
  refine ⟨⟨next', ok⟩, ⟨d'', settledAgain.found, ?_⟩, Cluster.provides_of_keep fun kind => ?_,
    fun kind _ => ?_⟩
  · rw [settledAgain.status_of_outlook kept declared settled.staying, concluded]
    rfl
  · obtain ⟨object, there, brought⟩ := brought kind
    rw [there]
    exact brought.keep
  · obtain ⟨object, there, brought⟩ := brought kind
    have before : (edited.under conditions.calm).derived kind n = edited.derived kind n :=
      edited.object?_under conditions.calm _ _
    rw [before] at brought
    refine ⟨object, there, ?_, brought.held_iff⟩
    rw [brought.isDeleting]
    exact Option.any_eq_true _ _

def declared : Cluster := Cluster.setStore {} .declarations (Store.ofList [plainDeclaration])

theorem reachable_declared : declared.Reachable := .filledAlive .declarations rfl .empty

/-- After the first pass others take the hold of the module off the storage class, and have the
snapshot class deleted, which the module holds. -/
def editedByHand : Cluster :=
  let created := ((DeclarationPass.reconcile {} "a").run.run .direct declared).2
  let unheld := (created.serve (.patch .storageClasses "a" (finalizersPatch []))).2
  (unheld.serve (.delete .snapshotClasses "a")).2

/-- The classes have all that they had before the edits. -/
theorem edits_judged_by_content_byHand :
    let conditions := Conditions.refusing .secrets .get
    ∃ d : Declaration, (editedByHand.passed {} "a" conditions.calm).Provides {} "a" d := by
  intro conditions
  let passed := (DeclarationPass.reconcile {} "a").run.run .direct declared
  have succeeds : passed.1 = .ok .awaitChange := by decide +kernel
  obtain ⟨d', stored, created⟩ := Option.bind_eq_some_iff.mp
    (show (passed.2.object? .declarations "a").bind Declaration.phase? = some .created by
      decide +kernel)
  let unheld := (passed.2.serve (.patch .storageClasses "a" (finalizersPatch []))).2
  have ours : (unheld.object? .storageClasses "a").all
      (fun c : StorageClass => c.provisioner = Names.nfsDriver) = true := by
    decide +kernel
  have edits : Edited "a" passed.2 editedByHand := by
    refine .deleted .snapshotClass nofun
      (.patched .storageClass nofun (finalizersPatch []) (fun object present => ?_) .nothing)
    have native : StorageClass.provisioner object = Names.nfsDriver :=
      of_decide_eq_true ((Option.all_eq_true _ _).mp ours object present)
    exact native
  obtain ⟨-, -, provides, -⟩ := edits_judged_by_content {} reachable_declared (n := "a") rfl rfl
    succeeds stored created edits conditions
  exact ⟨d', provides⟩

/-- The module does not hold the storage class again, and the snapshot class still waits to be
deleted: no pass puts that right. -/
theorem edits_stand :
    let first := (DeclarationPass.reconcile {} "a").run.run .direct declared
    let again := (DeclarationPass.reconcile {} "a").run.run .direct editedByHand
    (first.1 = .ok .awaitChange ∧
      (first.2.object? .declarations "a").bind Declaration.phase? = some .created) ∧
      again.1 = .ok .awaitChange ∧
      (plainDeclaration.derive true Names.defaultNamespace).storageClass.metadata.finalizerList =
        [Names.finalizer] ∧
      (again.2.object? .storageClasses "a").map
        (fun c : StorageClass => c.metadata.finalizerList) = some [] ∧
      (again.2.object? .snapshotClasses "a").map
        (fun c : SnapshotClass => c.metadata.isDeleting) = some true := by
  decide +kernel

end NfsStorage

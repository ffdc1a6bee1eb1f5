import NfsStorage.Proofs.Foreign.Untouched
import NfsStorage.Proofs.ModuleConfig.Marks
import NfsStorage.Proofs.Teardown.Steps

/-!
# What the components leave alone

The passes of the two reconcilers, and the teardown, each leave an object of somebody else as it
stands.
-/

namespace NfsStorage

open DeclarationPass (DerivedKind)

variable {op : Operator} {kind : DerivedKind} {name : String} {object : kind.collection.Object}
  {k : Cluster}

section Declaration

variable {d : Declaration}

theorem keeps_syncDerived (spurned : Spurned op kind name object k) (deleting : Bool)
    (alone : kind.nameOf d.name = name →
      kind.LeavesAlone object (kind.desired (d.derive op.tls op.namespace))) :
    Keeps (Spurned op kind name object) (DeclarationPass.syncDerived op d deleting) k := by
  have each : ∀ (other : DerivedKind) {l}, Spurned op kind name object l →
      Keeps (Spurned op kind name object)
        (DeclarationPass.sync other (other.desired (d.derive op.tls op.namespace)) deleting) l := by
    intro other l spurned
    refine keeps_sync spurned deleting fun same named => ?_
    subst same
    rw [DerivedKind.name_desired] at named
    exact alone named
  rw [DeclarationPass.syncDerived_eq]
  apply Pass.Upholds.bind
  refine (each .storageClass spurned).mono fun _ _ spurned => ?_
  apply Pass.Upholds.bind
  refine (each .secret spurned).mono fun _ _ spurned => ?_
  apply Pass.Upholds.bind
  exact (each .snapshotClass spurned).mono fun _ _ spurned => Pass.Upholds.pure spurned

theorem keeps_patchFinalizers (spurned : Spurned op kind name object k) (n : String)
    (finalizers : List String) :
    Keeps (Spurned op kind name object) (DeclarationPass.patchFinalizers n finalizers) k := by
  unfold DeclarationPass.patchFinalizers
  apply Pass.Upholds.bind
  refine (keeps_request (r := .patch .declarations n (finalizersPatch finalizers)) spurned
    (fun same => absurd same kind.collection_ne_declarations)
    (Request.keepsSpecs_finalizersPatch n finalizers)).mono fun _ _ spurned => ?_
  exact Pass.Upholds.pure spurned

theorem keeps_updateStatus (spurned : Spurned op kind name object k) {status : DeclarationStatus}
    (whole : ∃ phase reason, status = ⟨some phase, some reason⟩) :
    Keeps (Spurned op kind name object) (DeclarationPass.updateStatus d status) k := by
  unfold DeclarationPass.updateStatus
  split
  next => exact Pass.Upholds.pure spurned
  next =>
    obtain ⟨phase, reason, rfl⟩ := whole
    apply Pass.Upholds.bind
    refine Pass.Upholds.mono (keeps_request spurned ?_
      (Request.keepsSpecs_statusPatch d.name phase reason)) fun _ _ spurned => ?_
    · exact fun same => absurd same kind.collection_ne_declarations
    · exact Pass.Upholds.pure spurned

theorem keeps_converge (spurned : Spurned op kind name object k)
    (alone : kind.nameOf d.name = name →
      kind.LeavesAlone object (kind.desired (d.derive op.tls op.namespace))) :
    Keeps (Spurned op kind name object) (DeclarationPass.converge op d) k := by
  have afterwards : ∀ {l}, Spurned op kind name object l →
      Keeps (Spurned op kind name object) (DeclarationPass.establish op d) l := by
    intro l spurned
    apply Pass.Upholds.bind
    refine (keeps_get spurned).mono fun found m ⟨spurned, _⟩ => ?_
    simp only
    split
    next => exact Pass.Upholds.pure spurned
    next =>
      apply Pass.Upholds.bind
      exact (keeps_syncDerived spurned false alone).mono fun _ _ spurned =>
        Pass.Upholds.pure spurned
  rw [DeclarationPass.converge_eq]
  split
  next =>
    apply Pass.Upholds.bind
    exact (keeps_patchFinalizers spurned _ _).mono fun _ _ spurned => afterwards spurned
  next => exact afterwards spurned

theorem keeps_release (spurned : Spurned op kind name object k)
    (alone : kind.nameOf d.name = name →
      kind.LeavesAlone object (kind.desired (d.derive op.tls op.namespace))) :
    Keeps (Spurned op kind name object) (DeclarationPass.release op d) k := by
  unfold DeclarationPass.release
  apply Pass.Upholds.bind
  refine (keeps_syncDerived spurned true alone).mono fun _ l spurned => ?_
  simp only
  split
  next =>
    apply Pass.Upholds.bind
    exact (keeps_patchFinalizers spurned _ _).mono fun _ _ spurned => Pass.Upholds.pure spurned
  next => exact Pass.Upholds.pure spurned

theorem keeps_reconcile (spurned : Spurned op kind name object k) (n : String) :
    Keeps (Spurned op kind name object) (DeclarationPass.reconcile op n) k := by
  unfold DeclarationPass.reconcile
  apply Pass.Upholds.bind
  refine (keeps_get spurned).mono fun found l ⟨spurned, seen⟩ => ?_
  cases found with
  | none => exact Pass.Upholds.pure spurned
  | some d =>
      have named : d.name = n := (spurned.sound.tidy (c := .declarations) rfl).named seen
      have alone : kind.nameOf d.name = name →
          kind.LeavesAlone object (kind.desired (d.derive op.tls op.namespace)) :=
        named ▸ spurned.leftAlone n d seen
      have worked : Keeps (Spurned op kind name object)
          (if d.isDeleting then DeclarationPass.release op d
            else DeclarationPass.converge op d) l := by
        split
        next => exact keeps_release spurned alone
        next => exact keeps_converge spurned alone
      refine DeclarationPass.upholds_reconcileFound worked ?_ ?_
      · intro result m promised _
        simpa using promised
      · intro result status m promised called
        have spurned : Spurned op kind name object m := by simpa using promised
        refine Program.Upholds.mono (keeps_updateStatus spurned
          (DeclarationPass.statusAfter_eq_some called)) fun written m' promised => ?_
        simpa using promised

end Declaration

section ModuleConfig

theorem keeps_checkDeclaration (spurned : Spurned op kind name object k) {config : ModuleConfig}
    {classes : Dict StorageClass} {d : Declaration}
    (apart : ∀ c, classes.get? d.name = some c → c.provisioner = Names.nfsDriver →
      kind = .storageClass → c.name ≠ name) :
    Keeps (Spurned op kind name object)
      (ModuleConfigPass.checkDeclaration op config classes d) k := by
  unfold ModuleConfigPass.checkDeclaration
  split
  next => exact spurned
  next c found =>
    split
    next => exact Pass.Upholds.pure spurned
    next ours =>
      unfold ModuleConfigPass.setMark
      split
      next => exact Pass.Upholds.pure spurned
      next =>
        apply Pass.Upholds.bind
        refine (keeps_request (r := .patch .storageClasses c.name _) spurned
          (fun same written => ?_) (Request.keepsSpecs_of_ne (by exact nofun))).mono fun _ _ spurned =>
            Pass.Upholds.pure spurned
        have isClass : kind = .storageClass := by
          cases kind with
          | storageClass => rfl
          | secret => exact nomatch same
          | snapshotClass => exact nomatch same
        exact apart c found (Decidable.not_not.mp ours) isClass (Option.some.inj written)

theorem keeps_checkAll (spurned : Spurned op kind name object k) {config : ModuleConfig}
    {classes : Dict StorageClass}
    (apart : ∀ key c, classes.get? key = some c → c.provisioner = Names.nfsDriver →
      kind = .storageClass → c.name ≠ name) (declarations : List Declaration) :
    Program.Upholds Weather (fun _ _ => True) (fun _ l => Spurned op kind name object l)
      (ModuleConfigPass.checkAll op config classes declarations) k := by
  rw [ModuleConfigPass.checkAll_eq]
  exact Pass.upholds_collect
    (fun d _ _ spurned => keeps_checkDeclaration spurned (apart d.name)) spurned

theorem keeps_moduleConfig (spurned : Spurned op kind name object k)
    (foreign : ¬ kind.IsOurs object) (config : String) :
    Keeps (Spurned op kind name object) (ModuleConfigPass.reconcile op config) k := by
  unfold ModuleConfigPass.reconcile
  apply Pass.Upholds.bind
  refine (keeps_get spurned).mono fun found l ⟨spurned, _⟩ => ?_
  apply Pass.Upholds.bind
  refine (keeps_request (r := .list .declarations) spurned (fun _ => nofun)
    (Request.keepsSpecs_of_reads rfl)).mono fun declarations l spurned => ?_
  apply Pass.Upholds.bind
  refine Pass.Upholds.request (r := .list .storageClasses) fun l' weather answer m served => ?_
  have spurned := spurned.weather weather
  refine ⟨trivial, ?_⟩
  cases served with
  | failed => exact spurned
  | listed =>
      apply Pass.Upholds.bind
      refine (Pass.Upholds.lift (keeps_checkAll spurned ?_ _)).mono fun errors m spurned => ?_
      · rintro key c found ours rfl sameName
        obtain ⟨listed, membership, entry⟩ := List.mem_map.mp (Dict.mem_of_get?_ofList found)
        obtain rfl : listed = c := congrArg Prod.snd entry
        have there := (spurned.sound.tidy (c := .storageClasses) rfl).object?_of_mem membership
        have present : l'.object? .storageClasses name = some object := spurned.present
        have same : some listed = some object := by
          rw [← present, ← there]
          exact congrArg _ sameName
        exact foreign (Option.some.inj same ▸ ours)
      · change Pass.outcome _ _ _ m
        rwa [Pass.outcome_same]

end ModuleConfig

section Teardown

open Teardown

theorem stands_dispose (stands : Stands kind name object k) {s : Teardown.Step}
    {taken : s.collection.Object}
    (apart : kind.collection = s.collection → Resource.name taken ≠ name) :
    Keeps (Stands kind name object) (s.dispose taken) k := by
  have each : ∀ {r : Request} {failure : StoreError → Teardown.Error} {l},
      r.collection = s.collection → r.writes? = some (Resource.name taken) →
      Stands kind name object l → Keeps (Stands kind name object) (Pass.request r failure) l := by
    intro r failure l collection writes stands
    apply Pass.Upholds.request
    intro m weather answer m' served
    refine ⟨trivial, ?_⟩
    rw [Pass.outcome_same]
    refine (stands.weather weather).served served fun same => ?_
    rw [writes]
    exact fun equal => apart (same.trans collection) (Option.some.inj equal)
  have deleted : ∀ {l}, Stands kind name object l → Keeps (Stands kind name object)
      (if s.deletes then
        Pass.request (.delete s.collection (Resource.name taken))
          (.delete s.kind (Resource.name taken)) else pure () : Pass Teardown.Error Unit) l := by
    intro l stands
    split
    next =>
      exact each (r := .delete s.collection (Resource.name taken)) rfl rfl stands
    next => exact Pass.Upholds.pure stands
  unfold Teardown.Step.dispose
  simp only
  split
  next =>
    apply Pass.Upholds.bind
    exact (each rfl rfl stands).mono fun _ _ stands => deleted stands
  next => exact deleted stands

theorem stands_disposeAll (stands : Stands kind name object k) {s : Teardown.Step}
    {taken : List s.collection.Object}
    (apart : ∀ t ∈ taken, kind.collection = s.collection → Resource.name t ≠ name) :
    Program.Upholds Weather (fun _ _ => True) (fun _ l => Stands kind name object l)
      (s.disposeAll taken) k := by
  rw [Teardown.Step.disposeAll_eq]
  exact Pass.upholds_collect
    (fun t member _ stands => stands_dispose stands (apart t member)) stands

theorem stands_step (stands : Stands kind name object k) {s : Teardown.Step}
    (leaves : ∀ same : kind.collection = s.collection, s.takes (same ▸ object) = false) :
    Program.Upholds Weather (fun _ _ => True) (fun _ l => Stands kind name object l) s.run k := by
  unfold Teardown.Step.run
  apply Program.Upholds.bind
  intro l weather
  have stands := stands.weather weather
  have served := l.served (.list s.collection)
  generalize (l.serve (.list s.collection)).1 = answer at served
  generalize (l.serve (.list s.collection)).2 = m at served
  refine ⟨trivial, ?_⟩
  cases served with
  | failed => exact stands
  | listed =>
      refine stands_disposeAll stands fun t member same named => ?_
      obtain ⟨listed, taken⟩ := List.mem_filter.mp member
      obtain ⟨collection, stepKind, takes, deletes⟩ := s
      have equal : kind.collection = collection := same
      subst equal
      have there := (stands.sound.tidy kind.isManaged_collection).object?_of_mem listed
      rw [named, stands.present] at there
      obtain rfl := Option.some.inj there
      exact Bool.false_ne_true ((leaves rfl).symm.trans taken)

theorem stands_runSteps (stands : Stands kind name object k) {steps : List Teardown.Step}
    (leaves : ∀ s ∈ steps, ∀ same : kind.collection = s.collection,
      s.takes (same ▸ object) = false) :
    Program.Upholds Weather (fun _ _ => True) (fun _ l => Stands kind name object l)
      (Teardown.runSteps steps) k := by
  induction steps generalizing k with
  | nil => exact stands
  | cons s rest inductionHypothesis =>
      apply Program.Upholds.bind
      refine Program.Upholds.mono (stands_step stands (leaves s (List.mem_cons_self ..)))
        fun errors m stands => ?_
      apply Program.Upholds.bind
      exact Program.Upholds.mono
        (inductionHypothesis stands fun s later => leaves s (List.mem_cons_of_mem _ later))
        fun _ _ stands => stands

theorem stands_teardown (stands : Stands kind name object k) (isClass : kind ≠ .secret)
    (foreign : ¬ kind.IsOurs object) :
    Program.Upholds Weather (fun _ _ => True) (fun _ l => Stands kind name object l)
      Teardown.run k := by
  refine stands_runSteps stands fun s member same => ?_
  have notTaken : kind = .storageClass ∨ kind = .snapshotClass := by
    cases kind with
    | storageClass => exact Or.inl rfl
    | secret => exact absurd rfl isClass
    | snapshotClass => exact Or.inr rfl
  simp only [Teardown.steps, List.mem_cons, List.not_mem_nil, or_false] at member
  rcases notTaken with rfl | rfl
  · rcases member with rfl | rfl | rfl | rfl | rfl
    · cases same
    · cases same
    · exact decide_eq_false foreign
    · cases same
    · cases same
  · rcases member with rfl | rfl | rfl | rfl | rfl
    · cases same
    · cases same
    · cases same
    · exact decide_eq_false foreign
    · cases same

end Teardown

end NfsStorage

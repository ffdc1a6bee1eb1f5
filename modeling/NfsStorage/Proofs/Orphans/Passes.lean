import NfsStorage.Proofs.ModuleConfig.Marks
import NfsStorage.Proofs.Orphans.Guarded
import NfsStorage.Controller.ModuleConfig

/-!
# Passes over a guarded cluster

A pass over a declaration makes a derived object only while the declaration is held, and gives the
declaration up only when its derived objects are gone. Both stay so until the pass comes back to
them, because nobody else takes the finalizer of the module off, and nobody else makes objects under
the names for this declaration or gives them finalizers.
-/

namespace NfsStorage

open DeclarationPass (DerivedKind updated)

/-- What those who work beside a pass may do. The pass over a declaration is the `own` one. -/
def Trusts (own : Option String) (k l : Cluster) : Prop :=
  k.Guarded → l.Guarded ∧ ∀ n, own = some n → Cluster.Spares n k l

/-- What a pass may do beside others: it spares all but its own declaration. -/
def Respects (own : Option String) (k l : Cluster) : Prop :=
  k.Guarded → l.Guarded ∧ ∀ n, own ≠ some n → Cluster.Spares n k l

theorem Trusts.trans {own : Option String} {k l m : Cluster} (first : Trusts own k l)
    (second : Trusts own l m) : Trusts own k m := by
  intro guarded
  obtain ⟨between, spared⟩ := first guarded
  obtain ⟨after, sparedAgain⟩ := second between
  exact ⟨after, fun n isOwn => (spared n isOwn).trans (sparedAgain n isOwn)⟩

theorem Respects.refl (own : Option String) (k : Cluster) : Respects own k k :=
  fun guarded => ⟨guarded, fun n _ => .refl n k⟩

theorem Respects.trusts {own other : Option String} {k l : Cluster} (respects : Respects own k l)
    (different : ∀ n, other = some n → own ≠ some n) : Trusts other k l := fun guarded =>
  ⟨(respects guarded).1, fun n isOther => (respects guarded).2 n (different n isOther)⟩

/-- The state of the pass over a declaration: while it makes derived objects the declaration is
held, and while it deletes them those of some kinds are gone already. -/
structure Ready (n : String) (deleting : Bool) (done : List DerivedKind) (k : Cluster) : Prop where
  guarded : k.Guarded
  holds : deleting = false → k.Holds n
  gone : deleting = true → ∀ kind ∈ done, k.derived kind n = none

/-- The pass over a declaration goes on among others, and promises a guarded cluster even where it
fails. -/
abbrev Works {ε α : Type} (n : String) (ok : α → Cluster → Prop) (x : Pass ε α) (k : Cluster) :
    Prop :=
  Pass.Upholds (Trusts (some n)) (Respects (some n)) ok (fun _ l => l.Guarded) x k

section Declaration

variable {n : String} {deleting : Bool} {done : List DerivedKind} {k l : Cluster}
  {kind : DerivedKind} {failure : StoreError → DeclarationPass.Error}

theorem Ready.of_trusts (ready : Ready n deleting done k) (others : Trusts (some n) k l) :
    Ready n deleting done l := by
  obtain ⟨guarded, spared⟩ := others ready.guarded
  exact ⟨guarded, fun making => (spared n rfl).holds (ready.holds making),
    fun clearing kind earlier => (spared n rfl).gone kind (ready.gone clearing kind earlier)⟩

theorem respects_write {verb : Verb} {object : kind.collection.Object}
    (timed : (Resource.metadata object).Timed) (ours : kind.IsOurs object) (holds : k.Holds n) :
    Respects (some n) k (k.write kind.collection verb (kind.nameOf n) object) := fun guarded =>
  ⟨guarded.write_derived timed ours holds, fun _ other =>
    Cluster.spares_write_derived_of_ne fun same => other (congrArg some same.symm)⟩

theorem Ready.write {verb : Verb} {object : kind.collection.Object}
    (ready : Ready n deleting done k) (fresh : deleting = true → kind ∉ done)
    (timed : (Resource.metadata object).Timed) (ours : kind.IsOurs object) (holds : k.Holds n) :
    Ready n deleting done (k.write kind.collection verb (kind.nameOf n) object) where
  guarded := ready.guarded.write_derived timed ours holds
  holds _ := by
    unfold Cluster.Holds
    rw [Cluster.declaration_write_derived]
    exact holds
  gone clearing other earlier := by
    have different : other ≠ kind := by
      rintro rfl
      exact fresh clearing earlier
    rw [Cluster.derived_write_other _ fun same => absurd same different]
    exact ready.gone clearing other earlier

theorem works_get (ready : Ready n deleting done k) :
    Works n (fun live l => Ready n deleting done l ∧ l.derived kind n = live)
      (Pass.request (.get kind.collection (kind.nameOf n)) failure) k := by
  apply Pass.Upholds.request
  intro l others answer m served
  have ready := ready.of_trusts others
  cases served with
  | failed => exact ⟨.refl _ _, ready.guarded⟩
  | got => exact ⟨.refl _ _, ready, rfl⟩

theorem works_stripFinalizers {live : Option kind.collection.Object}
    (ready : Ready n deleting done k) (fresh : deleting = true → kind ∉ done)
    (seen : k.derived kind n = live) :
    Works n (fun _ l => Ready n deleting done l ∧ (live ≠ none → l.Bare kind n))
      (DeclarationPass.stripFinalizers (kind.nameOf n) live failure) k := by
  unfold DeclarationPass.stripFinalizers
  cases live with
  | none => exact Pass.Upholds.pure ⟨ready, fun absent => absurd rfl absent⟩
  | some object =>
      simp only
      split
      next unheld =>
        have bare : k.Bare kind n := by
          intro found present
          obtain rfl := Option.some.inj (seen.symm.trans present)
          exact List.isEmpty_iff.mp unheld
        exact Pass.Upholds.pure ⟨ready, fun _ => bare⟩
      next =>
        apply Pass.Upholds.bind
        apply Pass.Upholds.request
        intro l others answer m served
        have ready := ready.of_trusts others
        rcases served.of_finalizersPatch (ready.guarded.sound.tidy kind.isManaged_collection) with
          ⟨⟨e, rfl⟩, rfl⟩ | ⟨old, written, rfl, found, timed, rfl⟩
        · exact ⟨.refl _ _, ready.guarded⟩
        · have holds : l.Holds n :=
            ready.guarded.held kind fun absent => nomatch found.symm.trans absent
          have ours : kind.IsOurs (Resource.heldBy old []) :=
            DerivedKind.isOurs_withMetadata (ready.guarded.ours kind found) rfl
          refine ⟨respects_write (Resource.timed_heldBy timed []) ours holds, Pass.Upholds.pure
            ⟨ready.write fresh (Resource.timed_heldBy timed []) ours holds, fun _ => ?_⟩⟩
          intro object present
          rcases Cluster.eq_stamped_of_object?_write _ _ _ _ _ present with
            ⟨-, rfl, -⟩ | ⟨elsewhere, -⟩
          · rw [Store.metadata_stamped]
            exact Resource.finalizerList_heldBy old []
          · exact absurd rfl elsewhere

theorem works_delete (ready : Ready n deleting done k) (fresh : deleting = true → kind ∉ done) :
    Works n (fun _ l => Ready n deleting done l ∧ (k.Bare kind n → l.derived kind n = none))
      (Pass.request (.delete kind.collection (kind.nameOf n)) failure) k := by
  apply Pass.Upholds.request
  intro l others answer m served
  have spared := (others ready.guarded).2 n rfl
  have ready := ready.of_trusts others
  cases served with
  | failed => exact ⟨.refl _ _, ready.guarded⟩
  | alreadyGone _ _ absent => exact ⟨.refl _ _, ready, fun _ => absent⟩
  | deleted _ _ old found =>
      have timed := Store.timed_asked ready.guarded.sound.clock
        ((ready.guarded.sound.tidy kind.isManaged_collection).timed found)
      have ours : kind.IsOurs (Store.asked l.clock old) :=
        DerivedKind.isOurs_withMetadata (ready.guarded.ours kind found) rfl
      have holds : l.Holds n :=
        ready.guarded.held kind fun absent => nomatch found.symm.trans absent
      refine ⟨respects_write timed ours holds, ready.write fresh timed ours holds, fun bare => ?_⟩
      have unheld : (Resource.metadata old).finalizerList = [] := spared.bare kind bare old found
      rw [Cluster.derived_write_self, Store.isReleased_asked unheld]
      rfl

/-- An object that was read is gone before the pass goes on. -/
theorem works_clear {live : Option kind.collection.Object} (ready : Ready n deleting done k)
    (fresh : deleting = true → kind ∉ done) (seen : k.derived kind n = live) {α : Type}
    {ok : α → Cluster → Prop} {next : Pass DeclarationPass.Error α}
    (rest : ∀ l, Ready n deleting done l → (live ≠ none → l.derived kind n = none) →
      Works n ok next l) :
    Works n ok (do
      DeclarationPass.stripFinalizers (kind.nameOf n) live failure
      Pass.request (.delete kind.collection (kind.nameOf n)) failure
      next) k := by
  apply Pass.Upholds.bind
  refine (works_stripFinalizers ready fresh seen).mono fun _ l ⟨ready, bare⟩ => ?_
  apply Pass.Upholds.bind
  refine (works_delete ready fresh).mono fun _ m ⟨ready, gone⟩ => ?_
  exact rest m ready fun present => gone (bare present)

theorem works_create {desired : kind.collection.Object} (ready : Ready n false done k)
    (named : Resource.name desired = kind.nameOf n) (ours : kind.IsOurs desired) :
    Works n (fun _ l => Ready n false done l)
      (Pass.request (.create kind.collection desired) failure) k := by
  apply Pass.Upholds.request
  intro l others answer m served
  have ready := ready.of_trusts others
  cases served with
  | failed => exact ⟨.refl _ _, ready.guarded⟩
  | created =>
      have timed := Store.timed_made (Resource.settled desired)
      have oursWritten := DerivedKind.isOurs_withMetadata (DerivedKind.isOurs_settled ours)
        (m := { Resource.metadata (Resource.settled desired) with deletionTimestamp := none }) rfl
      rw [named]
      exact ⟨respects_write timed oursWritten (ready.holds rfl),
        ready.write nofun timed oursWritten (ready.holds rfl)⟩

theorem works_replace {object : kind.collection.Object} (ready : Ready n false done k)
    (ours : kind.IsOurs object) :
    Works n (fun _ l => Ready n false done l)
      (Pass.request (.replace kind.collection (kind.nameOf n) object) failure) k := by
  apply Pass.Upholds.request
  intro l others answer m served
  have ready := ready.of_trusts others
  cases served with
  | failed => exact ⟨.refl _ _, ready.guarded⟩
  | replaced _ _ _ old answer found =>
      have timed : (Resource.metadata (Store.setDeletion (Resource.settled object)
          (Resource.metadata old).deletionTimestamp)).Timed := by
        rw [Store.metadata_setDeletion]
        exact (ready.guarded.sound.tidy kind.isManaged_collection).timed found
      have oursWritten := DerivedKind.isOurs_withMetadata (DerivedKind.isOurs_settled ours)
        (m := { Resource.metadata (Resource.settled object) with
          deletionTimestamp := (Resource.metadata old).deletionTimestamp }) rfl
      exact ⟨respects_write timed oursWritten (ready.holds rfl),
        ready.write nofun timed oursWritten (ready.holds rfl)⟩

/-- Whatever is decided about it, a derived object is made or changed while its declaration is
held. -/
theorem works_apply {live : Option kind.collection.Object} {desired : kind.collection.Object}
    (ready : Ready n false done k) (named : Resource.name desired = kind.nameOf n)
    (ours : kind.IsOurs desired) (seen : k.derived kind n = live) (action : Action) :
    Works n (fun _ l => Ready n false done l) (DeclarationPass.apply kind live desired action)
      k := by
  have created : ∀ {l}, Ready n false done l → ∀ failure : StoreError → DeclarationPass.Error,
      Works n (fun _ m => Ready n false done m) (do
        let _ ← Pass.request (.create kind.collection desired) failure
        return none : Pass DeclarationPass.Error (Option String)) l := by
    intro l ready failure
    apply Pass.Upholds.bind
    exact (works_create ready named ours).mono fun _ m ready => Pass.Upholds.pure ready
  unfold DeclarationPass.apply
  -- The store knows the object by the name for the declaration, not by that of what is desired.
  generalize same : Resource.name desired = name at named
  subst named
  cases action with
  | keep => exact Pass.Upholds.pure ready
  | skipForeign owner => exact Pass.Upholds.pure ready
  | create => exact created ready _
  | updateInPlace =>
      cases live with
      | none => exact created ready _
      | some object =>
          apply Pass.Upholds.bind
          refine (works_replace ready (DerivedKind.isOurs_updated ours object)).mono
            fun _ m ready => ?_
          exact Pass.Upholds.pure ready
  | recreate => exact works_clear ready nofun seen fun l ready _ => created ready _
  | delete => exact works_clear ready nofun seen fun l ready _ => Pass.Upholds.pure ready

theorem works_sync_making {desired : kind.collection.Object} (ready : Ready n false done k)
    (named : Resource.name desired = kind.nameOf n) (ours : kind.IsOurs desired) :
    Works n (fun _ l => Ready n false done l) (DeclarationPass.sync kind desired false) k := by
  unfold DeclarationPass.sync
  rw [named]
  apply Pass.Upholds.bind
  refine (works_get ready).mono fun live l ⟨ready, seen⟩ => ?_
  cases kind.action live desired false with
  | ok action => exact works_apply ready named ours seen action
  | error foreign => exact Pass.Upholds.pure ready

theorem works_sync_clearing {desired : kind.collection.Object} (ready : Ready n true done k)
    (named : Resource.name desired = kind.nameOf n) (fresh : kind ∉ done) :
    Works n (fun _ l => Ready n true (kind :: done) l) (DeclarationPass.sync kind desired true)
      k := by
  have finished : ∀ {l}, Ready n true done l → l.derived kind n = none →
      Ready n true (kind :: done) l := by
    intro l ready gone
    refine ⟨ready.guarded, nofun, fun _ other membership => ?_⟩
    cases membership with
    | head => exact gone
    | tail _ earlier => exact ready.gone rfl other earlier
  unfold DeclarationPass.sync DeclarationPass.apply
  generalize Resource.name desired = name at named
  subst named
  apply Pass.Upholds.bind
  refine (works_get ready).mono fun live l ⟨ready, seen⟩ => ?_
  cases live with
  | none =>
      rw [DerivedKind.action_absent_deleting]
      exact Pass.Upholds.pure (finished ready seen)
  | some object =>
      rw [DerivedKind.action_ours_deleting (ready.guarded.ours kind seen)]
      refine works_clear ready (fun _ => fresh) seen fun l ready gone => ?_
      exact Pass.Upholds.pure (finished ready (gone (Option.some_ne_none _)))

theorem respects_write_declaration {verb : Verb} {new : Declaration}
    (timed : new.metadata.Timed)
    (kept : (∃ kind, k.derived kind n ≠ none) → Names.finalizer ∈ new.metadata.finalizerList) :
    Respects (some n) k (k.write .declarations verb n new) := fun guarded =>
  ⟨guarded.write_declaration timed kept, fun _ other =>
    Cluster.spares_write_declaration_of_ne fun same => other (congrArg some same.symm)⟩

/-- The finalizer of the module is put on, or there is nothing left that it is needed for. -/
theorem works_patchFinalizers {finalizers : List String} (guarded : k.Guarded)
    (safe : Names.finalizer ∈ finalizers ∨ ∀ kind, k.derived kind n = none) :
    Works n (fun _ l => l.Guarded ∧ (Names.finalizer ∈ finalizers → l.Holds n))
      (DeclarationPass.patchFinalizers n finalizers) k := by
  unfold DeclarationPass.patchFinalizers
  apply Pass.Upholds.bind
  apply Pass.Upholds.request
  intro l others answer m served
  obtain ⟨guarded, spared⟩ := others guarded
  rcases served.of_finalizersPatch (guarded.sound.tidy (c := .declarations) rfl) with
    ⟨⟨e, rfl⟩, rfl⟩ | ⟨old, written, rfl, found, timed, rfl⟩
  · exact ⟨.refl _ _, guarded⟩
  · have kept : (∃ kind, l.derived kind n ≠ none) →
        Names.finalizer ∈ (Resource.metadata (Resource.heldBy old finalizers)).finalizerList := by
      rintro ⟨kind, present⟩
      rw [Resource.finalizerList_heldBy]
      rcases safe with putOn | gone
      · exact putOn
      · exact absurd ((spared n rfl).gone kind (gone kind)) present
    have timedNew := Resource.timed_heldBy timed finalizers
    refine ⟨respects_write_declaration timedNew kept,
      guarded.write_declaration timedNew kept, fun putOn => Cluster.holds_write ?_⟩
    exact (Resource.finalizerList_heldBy old finalizers).symm ▸ putOn

theorem works_updateStatus {d : Declaration} {status : DeclarationStatus} (guarded : k.Guarded)
    (named : d.name = n) (whole : ∃ phase reason, status = ⟨some phase, some reason⟩) :
    Works n (fun _ l => l.Guarded) (DeclarationPass.updateStatus d status) k := by
  subst named
  unfold DeclarationPass.updateStatus
  split
  next => exact Pass.Upholds.pure guarded
  next =>
    apply Pass.Upholds.bind
    apply Pass.Upholds.request
    intro l others answer m served
    obtain ⟨guarded, -⟩ := others guarded
    obtain ⟨phase, reason, rfl⟩ := whole
    rcases served.of_statusPatch guarded.sound with
      ⟨⟨e, rfl⟩, rfl⟩ | ⟨old, written, rfl, found, timed, rfl⟩
    · exact ⟨.refl _ _, guarded⟩
    · have kept : (∃ kind, l.derived kind d.name ≠ none) →
          Names.finalizer ∈ old.metadata.toSeconds.finalizerList := by
        rintro ⟨kind, present⟩
        obtain ⟨held, sameFound, finalizer⟩ := guarded.held kind present
        obtain rfl := Option.some.inj (found.symm.trans sameFound)
        exact finalizer
      exact ⟨respects_write_declaration (Metadata.timed_toSeconds timed) kept,
        guarded.write_declaration (Metadata.timed_toSeconds timed) kept⟩

theorem works_syncDerived_making {d : Declaration} (op : Operator) (ready : Ready n false done k)
    (named : d.name = n) :
    Works n (fun _ l => Ready n false done l) (DeclarationPass.syncDerived op d false) k := by
  have each : ∀ kind {l}, Ready n false done l →
      Works n (fun _ m => Ready n false done m)
        (DeclarationPass.sync kind (kind.desired (d.derive op.tls op.namespace)) false) l :=
    fun kind _ ready => works_sync_making ready (by rw [kind.name_desired, named])
      (kind.isOurs_desired _ _ _)
  rw [DeclarationPass.syncDerived_eq]
  apply Pass.Upholds.bind
  refine (each .storageClass ready).mono fun _ _ ready => ?_
  apply Pass.Upholds.bind
  refine (each .secret ready).mono fun _ _ ready => ?_
  apply Pass.Upholds.bind
  exact (each .snapshotClass ready).mono fun _ _ ready => Pass.Upholds.pure ready

theorem works_syncDerived_clearing {d : Declaration} (op : Operator) (guarded : k.Guarded)
    (named : d.name = n) :
    Works n (fun _ l => l.Guarded ∧ ∀ kind, l.derived kind n = none)
      (DeclarationPass.syncDerived op d true) k := by
  have each : ∀ kind done, kind ∉ done → ∀ {l}, Ready n true done l →
      Works n (fun _ m => Ready n true (kind :: done) m)
        (DeclarationPass.sync kind (kind.desired (d.derive op.tls op.namespace)) true) l :=
    fun kind _ fresh _ ready =>
      works_sync_clearing ready (by rw [kind.name_desired, named]) fresh
  rw [DeclarationPass.syncDerived_eq]
  apply Pass.Upholds.bind
  refine (each .storageClass [] nofun ⟨guarded, nofun, nofun⟩).mono fun _ _ ready => ?_
  apply Pass.Upholds.bind
  refine (each .secret _ (by decide) ready).mono fun _ _ ready => ?_
  apply Pass.Upholds.bind
  refine (each .snapshotClass _ (by decide) ready).mono fun _ _ ready => ?_
  refine Pass.Upholds.pure ⟨ready.guarded, fun kind => ready.gone rfl kind ?_⟩
  cases kind <;> decide

theorem works_converge {d : Declaration} (op : Operator) (guarded : k.Guarded)
    (named : d.name = n) (seen : Names.finalizer ∈ d.metadata.finalizerList → k.Holds n) :
    Works n (fun _ l => l.Guarded) (DeclarationPass.converge op d) k := by
  have afterwards : ∀ {l}, l.Guarded → l.Holds n →
      Works n (fun _ m => m.Guarded) (DeclarationPass.establish op d) l := by
    intro l guarded holds
    apply Pass.Upholds.bind
    apply Pass.Upholds.request
    intro m others answer m' served
    have ready : Ready n false [] m :=
      Ready.of_trusts ⟨guarded, fun _ => holds, nofun⟩ others
    cases served with
    | failed => exact ⟨.refl _ _, ready.guarded⟩
    | got =>
        refine ⟨.refl _ _, ?_⟩
        simp only [Except.mapError_ok, Pass.outcome]
        split
        next => exact Pass.Upholds.pure ready.guarded
        next =>
          apply Pass.Upholds.bind
          exact (works_syncDerived_making op ready named).mono fun _ _ ready =>
            Pass.Upholds.pure ready.guarded
  rw [DeclarationPass.converge_eq]
  split
  next absent =>
    apply Pass.Upholds.bind
    rw [named]
    refine (works_patchFinalizers guarded (Or.inl ?_)).mono fun _ l ⟨guarded, holds⟩ => ?_
    · exact List.mem_append_right _ (List.mem_singleton_self _)
    · exact afterwards guarded (holds (List.mem_append_right _ (List.mem_singleton_self _)))
  next present =>
    have held : Names.finalizer ∈ d.metadata.finalizerList := by simpa using present
    exact afterwards guarded (seen held)

theorem works_release {d : Declaration} (op : Operator) (guarded : k.Guarded)
    (named : d.name = n) :
    Works n (fun _ l => l.Guarded) (DeclarationPass.release op d) k := by
  unfold DeclarationPass.release
  apply Pass.Upholds.bind
  refine (works_syncDerived_clearing op guarded named).mono fun _ l ⟨guarded, gone⟩ => ?_
  simp only
  split
  next =>
    apply Pass.Upholds.bind
    rw [named]
    exact (works_patchFinalizers guarded (Or.inr gone)).mono fun _ _ ⟨guarded, _⟩ =>
      Pass.Upholds.pure guarded
  next => exact Pass.Upholds.pure guarded

theorem works_reconcile (op : Operator) (guarded : k.Guarded) :
    Works n (fun _ l => l.Guarded) (DeclarationPass.reconcile op n) k := by
  unfold DeclarationPass.reconcile
  apply Pass.Upholds.bind
  apply Pass.Upholds.request
  intro l others answer m served
  obtain ⟨guarded, -⟩ := others guarded
  cases served with
  | failed => exact ⟨.refl _ _, guarded⟩
  | got =>
      refine ⟨.refl _ _, ?_⟩
      cases found : l.object? .declarations n with
      | none => exact Pass.Upholds.pure guarded
      | some d =>
          have named : d.name = n := (guarded.sound.tidy (c := .declarations) rfl).named found
          have worked : Works n (fun _ m => m.Guarded)
              (if d.isDeleting then DeclarationPass.release op d
                else DeclarationPass.converge op d) l := by
            split
            next => exact works_release op guarded named
            next => exact works_converge op guarded named fun held => ⟨d, found, held⟩
          refine DeclarationPass.upholds_reconcileFound worked ?_ ?_
          · intro result m promised _
            simpa using promised
          · intro result status m promised called
            have guarded : m.Guarded := by simpa using promised
            refine Program.Upholds.mono (works_updateStatus guarded named
              (DeclarationPass.statusAfter_eq_some called)) fun written m' promised => ?_
            simpa using promised

end Declaration

section ModuleConfig

variable {k : Cluster}

/-- A mark changes the labels of a storage class that is there, and nothing that others rely on. -/
theorem marks_setMark (c : StorageClass) (mismatch : Bool) (guarded : k.Guarded) :
    Pass.Upholds (Trusts none) (Respects none) (fun _ l => l.Guarded) (fun _ l => l.Guarded)
      (ModuleConfigPass.setMark c mismatch) k := by
  unfold ModuleConfigPass.setMark
  split
  next => exact Pass.Upholds.pure guarded
  next =>
    apply Pass.Upholds.bind
    apply Pass.Upholds.request
    intro l others answer m served
    obtain ⟨guarded, -⟩ := others guarded
    cases served with
    | failed => exact ⟨.refl _ _, guarded⟩
    | patched _ _ _ old new answer found read =>
        have timed := (guarded.sound.tidy (c := .storageClasses) rfl).timed found
        obtain ⟨labels, rfl⟩ := Resource.decode_labelsPatch timed read
        have present : l.derived .storageClass c.name = some old := found
        have holds : l.Holds c.name :=
          guarded.held .storageClass fun absent => nomatch present.symm.trans absent
        have ours : DerivedKind.storageClass.IsOurs old := guarded.ours .storageClass found
        have timedNew : Metadata.Timed { old.metadata.toSeconds with labels } :=
          Metadata.timed_toSeconds timed
        have marked : (l.write DerivedKind.storageClass.collection .patch
            (DerivedKind.storageClass.nameOf c.name)
            { old with metadata := { old.metadata.toSeconds with labels } }).Guarded :=
          guarded.write_derived timedNew ours holds
        have spared : ∀ n, Cluster.Spares n l (l.write DerivedKind.storageClass.collection .patch
            (DerivedKind.storageClass.nameOf c.name)
            { old with metadata := { old.metadata.toSeconds with labels } }) :=
          Cluster.spares_write_derived present rfl
        exact ⟨fun _ => ⟨marked, fun n _ => spared n⟩, marked⟩

theorem marks_checkAll (op : Operator) (config : ModuleConfig) (classes : Dict StorageClass)
    (declarations : List Declaration) (guarded : k.Guarded) :
    Program.Upholds (Trusts none) (Respects none) (fun _ l => l.Guarded)
      (ModuleConfigPass.checkAll op config classes declarations) k := by
  rw [ModuleConfigPass.checkAll_eq]
  refine Pass.upholds_collect (fun d _ l guarded => ?_) guarded
  unfold ModuleConfigPass.checkDeclaration
  split
  next => exact guarded
  next c _ =>
    split
    next => exact Pass.Upholds.pure guarded
    next => exact marks_setMark c _ guarded

theorem marks_reconcile (op : Operator) (name : String) (guarded : k.Guarded) :
    Pass.Upholds (Trusts none) (Respects none) (fun _ l => l.Guarded) (fun _ l => l.Guarded)
      (ModuleConfigPass.reconcile op name) k := by
  have reads : ∀ {r : Request} {failure : StoreError → ModuleConfigPass.Failure} {l},
      (∀ {k m : Cluster} {answer}, k.Served r answer m → m = k) → l.Guarded →
      Pass.Upholds (Trusts none) (Respects none) (fun _ m => m.Guarded) (fun _ m => m.Guarded)
        (Pass.request r failure) l := by
    intro r failure l unchanged guarded
    apply Pass.Upholds.request
    intro m others answer m' served
    obtain rfl := unchanged served
    refine ⟨.refl _ _, ?_⟩
    rw [Pass.outcome_same]
    exact (others guarded).1
  unfold ModuleConfigPass.reconcile
  apply Pass.Upholds.bind
  refine (reads (fun served => by cases served <;> rfl) guarded).mono fun found l guarded => ?_
  apply Pass.Upholds.bind
  refine (reads (fun served => by cases served <;> rfl) guarded).mono fun ds l guarded => ?_
  apply Pass.Upholds.bind
  refine (reads (fun served => by cases served <;> rfl) guarded).mono fun listed l guarded => ?_
  apply Pass.Upholds.bind
  refine (Pass.Upholds.lift (marks_checkAll _ _ _ _ guarded)).mono fun errors m guarded => ?_
  change Pass.outcome _ _ _ m
  rwa [Pass.outcome_same]

end ModuleConfig

end NfsStorage

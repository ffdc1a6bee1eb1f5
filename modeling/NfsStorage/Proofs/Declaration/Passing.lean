import NfsStorage.Proofs.Declaration.Course

/-!
# Passes from the beginning to the end

A pass that succeeds leaves a declaration of which everything is as it was to be expected. A pass
that fails leaves the failure in the status, unless the server refuses that as well.
-/

namespace NfsStorage

open DeclarationPass (DerivedKind Outcome)

/-- From one cluster to another only derived objects of a declaration have changed. -/
structure Aside (n : String) (k l : Cluster) : Prop where
  sound : l.Sound
  declaration : l.object? .declarations n = k.object? .declarations n
  config : l.config = k.config

/-- A pass was halted: the server refuses something, and the declaration is still there. -/
structure Halted (n : String) (d : Declaration) (k : Cluster) : Prop where
  sound : k.Sound
  refuses : k.Refuses
  found : ∃ d' : Declaration, k.object? .declarations n = some d' ∧ d'.status = d.status ∧
    Store.isReleased d' = false

/-- What a pass over a declaration that stays has come to, the status apart. -/
structure Converged (op : Operator) (n : String) (d : Declaration) (outcome : Outcome)
    (k : Cluster) : Prop where
  sound : k.Sound
  found : ∃ d' : Declaration, k.object? .declarations n = some d' ∧ d'.spec = d.spec ∧
    d'.isDeleting = false ∧ d'.status = d.status ∧ Names.finalizer ∈ d'.metadata.finalizerList
  outcome : outcome = d.conclusion op k.config fun kind => k.derived kind n
  atRest : k.config.validate op.tls d = .ok () →
    ∀ kind : DerivedKind, kind.AtRest (k.derived kind n) (kind.wanted op d) false

/-- A declaration that stays after a pass without failures. -/
structure Settled (op : Operator) (n : String) (d : Declaration) (k : Cluster) : Prop where
  found : k.object? .declarations n = some d
  named : d.name = n
  staying : d.isDeleting = false
  held : Names.finalizer ∈ d.metadata.finalizerList
  status : d.status = (d.conclusion op k.config fun kind => k.derived kind n).status?
  atRest : k.config.validate op.tls d = .ok () →
    ∀ kind : DerivedKind, kind.AtRest (k.derived kind n) (kind.wanted op d) false

/-- A declaration that a pass has let go, and that others hold. -/
structure LetGo (op : Operator) (n : String) (d : Declaration) (k : Cluster) : Prop where
  found : k.object? .declarations n = some d
  leaving : d.isDeleting = true
  unheld : d.metadata.finalizerList.contains Names.finalizer = false
  atRest : ∀ kind : DerivedKind, kind.AtRest (k.derived kind n) (kind.wanted op d) true

section Passing

variable {op : Operator} {n : String} {d : Declaration} {k l m : Cluster} {kind : DerivedKind}

theorem Beside.aside (beside : Beside kind n k l) : Aside n k l :=
  ⟨beside.sound, beside.declaration, beside.config⟩

theorem Aside.trans (first : Aside n k l) (second : Aside n l m) : Aside n k m :=
  ⟨second.sound, second.declaration.trans first.declaration, second.config.trans first.config⟩

theorem Beside.atRest (beside : Beside kind n k l) (other : DerivedKind) (different : other ≠ kind)
    {desired : other.collection.Object} {deleting : Bool}
    (atRest : other.AtRest (k.derived other n) desired deleting) :
    other.AtRest (l.derived other n) desired deleting := by
  rw [beside.others other different]
  exact atRest

theorem alone_syncDerived (due : Due op n d k) :
    Alone op n
      (fun reasons l => Aside n k l ∧
        (∀ kind : DerivedKind, kind.AtRest (l.derived kind n) (kind.wanted op d) d.isDeleting) ∧
        (d.isDeleting = false → reasons = d.reasons op fun kind => l.derived kind n))
      (fun _ l => Aside n k l ∧ l.Refuses)
      (DeclarationPass.syncDerived op d d.isDeleting) k := by
  rw [DeclarationPass.syncDerived_eq]
  apply Pass.Upholds.bind
  refine (alone_sync .storageClass due).consequence ?_
    fun _ l ⟨beside, refuses⟩ => ⟨beside.aside, refuses⟩
  rintro fromClass l ⟨toClass, classRests, rfl⟩
  apply Pass.Upholds.bind
  refine (alone_sync .secret (due.beside toClass)).consequence ?_
    fun _ l ⟨beside, refuses⟩ => ⟨toClass.aside.trans beside.aside, refuses⟩
  rintro fromSecret l' ⟨toSecret, secretRests, rfl⟩
  apply Pass.Upholds.bind
  refine (alone_sync .snapshotClass ((due.beside toClass).beside toSecret)).consequence ?_
    fun _ l ⟨beside, refuses⟩ =>
      ⟨(toClass.aside.trans toSecret.aside).trans beside.aside, refuses⟩
  rintro fromSnapshotClass m ⟨toSnapshotClass, snapshotClassRests, rfl⟩
  refine Pass.Upholds.pure
    ⟨(toClass.aside.trans toSecret.aside).trans toSnapshotClass.aside, fun kind => ?_, ?_⟩
  · cases kind with
    | storageClass =>
        exact toSnapshotClass.atRest .storageClass nofun
          (toSecret.atRest .storageClass nofun classRests)
    | secret => exact toSnapshotClass.atRest .secret nofun secretRests
    | snapshotClass => exact snapshotClassRests
  · intro staying
    have sameClass : m.derived .storageClass n = l.derived .storageClass n :=
      (toSnapshotClass.others .storageClass nofun).trans (toSecret.others .storageClass nofun)
    have sameSecret : m.derived .secret n = l'.derived .secret n :=
      toSnapshotClass.others .secret nofun
    simp only [staying, Declaration.reasons, sameClass, sameSecret]

theorem object?_write_declaration {verb : Verb} {new : Declaration}
    (stays : Store.isReleased new = false) :
    (k.write .declarations verb n new).object? .declarations n =
      some ((k.store .declarations).stamped n new) := by
  rw [Cluster.object?_write_self, Store.isReleased_stamped, stays]
  rfl

theorem isReleased_of_staying (staying : d.isDeleting = false) : Store.isReleased d = false :=
  Bool.and_eq_false_iff.mpr (Or.inl staying)

theorem upholds_patchFinalizers {guarantee : Cluster → Cluster → Prop} (sound : k.Sound)
    (found : k.object? .declarations n = some d) {finalizers : List String} (still : guarantee k k)
    (keeps : guarantee k (k.write .declarations .patch n (Resource.heldBy d finalizers))) :
    Pass.Upholds Eq guarantee
      (fun _ l => l = k.write .declarations .patch n (Resource.heldBy d finalizers))
      (fun _ l => l = k ∧ l.Refuses) (DeclarationPass.patchFinalizers n finalizers) k := by
  unfold DeclarationPass.patchFinalizers
  apply Pass.Upholds.bind
  have timed := (sound.tidy (c := .declarations) rfl).timed found
  exact (upholds_patch found (Resource.decode_finalizersPatch timed finalizers) still keeps).mono
    fun _ l written => Pass.Upholds.pure written

theorem alone_patchFinalizers (sound : k.Sound) (found : k.object? .declarations n = some d)
    {finalizers : List String}
    (keeps : (k.write .declarations .patch n (Resource.heldBy d finalizers)).outlook op n =
      k.outlook op n) :
    Alone op n (fun _ l => l = k.write .declarations .patch n (Resource.heldBy d finalizers))
      (fun _ l => l = k ∧ l.Refuses) (DeclarationPass.patchFinalizers n finalizers) k :=
  upholds_patchFinalizers sound found rfl keeps

/-- With the finalizer on it, a declaration has its derived objects brought to rest, unless the
configuration does not accept it. -/
theorem alone_establish (sound : k.Sound) (named : d.name = n)
    (found : ∃ d' : Declaration, k.object? .declarations n = some d' ∧ d'.spec = d.spec ∧
      d'.isDeleting = false ∧ d'.status = d.status ∧ Names.finalizer ∈ d'.metadata.finalizerList)
    (staying : d.isDeleting = false) :
    Alone op n (fun outcome l => Converged op n d outcome l) (fun _ l => Halted n d l)
      (DeclarationPass.establish op d) k := by
  have halted : ∀ {l : Cluster}, l.Sound → l.Refuses →
      l.object? .declarations n = k.object? .declarations n → Halted n d l := by
    intro l soundLater refuses same
    obtain ⟨d', present, _, _, status, held⟩ := found
    exact ⟨soundLater, refuses, d', same.trans present, status, Store.isReleased_of_mem held⟩
  apply Pass.Upholds.bind
  refine Pass.Upholds.consequence alone_get ?_ ?_
  · rintro config l ⟨rfl, rfl⟩
    simp only
    split
    next violation refused =>
      have refused : l.config.validate op.tls d = .error violation := refused
      refine Pass.Upholds.pure ⟨sound, found, ?_, fun accepted => ?_⟩
      · rw [Declaration.conclusion, refused]
        rfl
      · exact nomatch refused.symm.trans accepted
    next accepted =>
      have accepted : l.config.validate op.tls d = .ok () := accepted
      have due : Due op n d l := by
        obtain ⟨d', present, spec, deleting, _⟩ := found
        exact ⟨sound, named, ⟨d', present, spec, deleting.trans staying.symm⟩, Or.inr accepted⟩
      have synced := alone_syncDerived due
      rw [staying] at synced
      apply Pass.Upholds.bind
      refine synced.consequence ?_ ?_
      · rintro reasons m ⟨aside, atRest, told⟩
        obtain rfl := told rfl
        refine Pass.Upholds.pure ⟨aside.sound, ?_, ?_, fun _ => atRest⟩
        · rw [aside.declaration]
          exact found
        · rw [Declaration.conclusion, aside.config, accepted]
      · exact fun _ m ⟨aside, refuses⟩ => halted aside.sound refuses aside.declaration
  · rintro _ l ⟨rfl, refused⟩
    exact halted sound ⟨_, _, refused⟩ rfl

theorem alone_converge (sound : k.Sound) (found : k.object? .declarations n = some d)
    (staying : d.isDeleting = false) :
    Alone op n (fun outcome l => Converged op n d outcome l) (fun _ l => Halted n d l)
      (DeclarationPass.converge op d) k := by
  have named : d.name = n := (sound.tidy (c := .declarations) rfl).named found
  rw [DeclarationPass.converge_eq]
  split
  next absent =>
    -- The finalizer comes first: where the pass stops later on, the declaration is held.
    have absent : d.metadata.finalizerList.contains Names.finalizer = false := by
      simpa using absent
    let held := Resource.heldBy d (d.metadata.finalizerList ++ [Names.finalizer])
    have list : held.metadata.finalizerList = d.metadata.finalizerList ++ [Names.finalizer] :=
      Resource.finalizerList_heldBy d _
    have finalizer : Names.finalizer ∈ held.metadata.finalizerList := by
      rw [list]
      exact List.mem_append_right _ (List.mem_singleton_self _)
    have deleting : held.isDeleting = d.isDeleting :=
      Metadata.isDeleting_toSeconds d.metadata
    have keeps : (k.write .declarations .patch n held).outlook op n = k.outlook op n := by
      refine Cluster.outlook_write_declaration sound found (Store.isReleased_of_mem finalizer) rfl
        deleting (fun _ => ?_) fun leaving => nomatch staying.symm.trans leaving
      rw [Declaration.finalizersHeld, if_pos (List.contains_iff_mem.mpr finalizer), list,
        Declaration.finalizersHeld, absent]
      rfl
    apply Pass.Upholds.bind
    rw [named]
    refine (alone_patchFinalizers sound found keeps).consequence ?_ ?_
    · rintro _ l rfl
      have timed := (sound.tidy (c := .declarations) rfl).timed found
      have soundLater : (k.write .declarations .patch n held).Sound :=
        sound.write fun _ => Resource.timed_heldBy timed _
      have stored : (k.write .declarations .patch n held).object? .declarations n =
          some ((k.store .declarations).stamped n held) :=
        object?_write_declaration (Store.isReleased_of_mem finalizer)
      exact alone_establish soundLater named
        ⟨_, stored, rfl, deleting.trans staying, rfl, finalizer⟩ staying
    · rintro _ l ⟨rfl, refuses⟩
      exact ⟨sound, refuses, d, found, rfl, isReleased_of_staying staying⟩
  next present =>
    have held : Names.finalizer ∈ d.metadata.finalizerList := by simpa using present
    exact alone_establish sound named ⟨d, found, rfl, staying, rfl, held⟩ staying

theorem observed_of_gone (gone : k.object? .declarations n = none) :
    k.observed n = k.outlook op n := by
  rw [Cluster.observed, Cluster.outlook, gone]
  rfl

theorem derived_eq_settle {desired : (kind : DerivedKind) → kind.collection.Object}
    {deleting : Bool}
    (atRest : ∀ kind : DerivedKind, kind.AtRest (k.derived kind n) (desired kind) deleting) :
    (fun kind : DerivedKind => kind.settle (k.derived kind n) (desired kind) deleting) =
      fun kind => (k.derived kind n).map Resource.timeless :=
  funext fun kind => DerivedKind.settle_of_atRest (atRest kind)

theorem LetGo.observed (letGo : LetGo op n d k) : k.observed n = k.outlook op n := by
  rw [Cluster.observed, Cluster.outlook, letGo.found]
  simp only [Declaration.outlook, letGo.leaving, if_true, derived_eq_settle letGo.atRest,
    Declaration.finalizersLeft, letGo.unheld, Bool.false_eq_true, if_false, Option.map_some,
    Option.bind_some]

theorem observed_of_leaving
    (ended : k.object? .declarations n = none ∨ ∃ d, LetGo op n d k) :
    k.observed n = k.outlook op n := by
  rcases ended with gone | ⟨d, letGo⟩
  · exact observed_of_gone gone
  · exact letGo.observed

/-- Of a declaration that stays, what is seen after a pass is what was to be expected. -/
theorem Settled.observed (settled : Settled op n d k) : k.observed n = k.outlook op n := by
  have held : d.metadata.finalizers = some d.finalizersHeld := by
    rw [Declaration.finalizersHeld, if_pos (List.contains_iff_mem.mpr settled.held)]
    have finalizer := settled.held
    cases listed : d.metadata.finalizers with
    | none => simp [Metadata.finalizerList, listed] at finalizer
    | some list => simp [Metadata.finalizerList, listed]
  rw [Cluster.observed, Cluster.outlook, settled.found]
  simp only [Declaration.outlook, settled.staying, Bool.false_eq_true, if_false, Option.map_some,
    Option.bind_some, held, settled.status]
  cases accepted : k.config.validate op.tls d with
  | error violation => rfl
  | ok _ => simp only [derived_eq_settle (settled.atRest accepted)]

/-- When the derived objects are at rest, a declaration is let go as was to be expected. -/
theorem let_go (sound : k.Sound) (found : k.object? .declarations n = some d)
    (leaving : d.isDeleting = true)
    (present : d.metadata.finalizerList.contains Names.finalizer = true)
    (atRest : ∀ kind : DerivedKind, kind.AtRest (k.derived kind n) (kind.wanted op d) true) :
    let written := k.write .declarations .patch n
      (Resource.heldBy d (d.metadata.finalizerList.filter (· ≠ Names.finalizer)))
    written.outlook op n = k.outlook op n ∧
      (written.object? .declarations n = none ∨ ∃ d', LetGo op n d' written) := by
  intro written
  let others := d.metadata.finalizerList.filter (· ≠ Names.finalizer)
  let new : Declaration := Resource.heldBy d others
  have list : new.metadata.finalizerList = others := Resource.finalizerList_heldBy d others
  have deleting : new.isDeleting = true := (Metadata.isDeleting_toSeconds d.metadata).trans leaving
  have without : new.metadata.finalizerList.contains Names.finalizer = false := by
    rw [list]
    simp [others]
  have left : d.finalizersLeft = if others.isEmpty then none else some (some others) := by
    rw [Declaration.finalizersLeft, if_pos present]
  -- Without another finalizer the declaration goes with this very write.
  cases last : others.isEmpty with
  | true =>
      have released : Store.isReleased new = true :=
        Bool.and_eq_true_iff.mpr ⟨deleting, by rw [← last, ← list]; rfl⟩
      have gone : written.object? .declarations n = none := by
        have write := k.object?_write_self .declarations .patch n new
        rwa [Store.isReleased_stamped, released, if_pos rfl] at write
      refine ⟨?_, Or.inl gone⟩
      rw [last, if_pos rfl] at left
      rw [Cluster.outlook, gone, Cluster.outlook, found]
      simp only [Declaration.outlook, leaving, if_true, left, derived_eq_settle atRest]
      congr 1
      funext kind
      rw [Cluster.derived_write_declaration]
  | false =>
      have stays : Store.isReleased new = false :=
        Bool.and_eq_false_iff.mpr (Or.inr (by rw [← last, ← list]; rfl))
      have stored : written.object? .declarations n =
          some ((k.store .declarations).stamped n new) := object?_write_declaration stays
      refine ⟨?_, Or.inr ⟨_, stored, deleting, without, fun kind => ?_⟩⟩
      · refine Cluster.outlook_write_declaration sound found stays rfl (deleting.trans leaving.symm)
          (fun staying => nomatch staying.symm.trans leaving) fun _ => ?_
        rw [left, last, Declaration.finalizersLeft, without]
        have kept : new.metadata.finalizers = if others.isEmpty then none else some others := rfl
        rw [kept, last]
        rfl
      · have sameName : Declaration.name ((k.store .declarations).stamped n new) = d.name :=
          ((sound.tidy (c := .declarations) rfl).named found).symm
        rw [Cluster.derived_write_declaration, DerivedKind.wanted_congr sameName rfl]
        exact atRest kind

theorem alone_release (sound : k.Sound) (found : k.object? .declarations n = some d)
    (leaving : d.isDeleting = true) (lasting : Store.isReleased d = false) :
    Alone op n
      (fun outcome l => outcome = .released ∧
        (l.object? .declarations n = none ∨ ∃ d', LetGo op n d' l))
      (fun _ l => Halted n d l) (DeclarationPass.release op d) k := by
  have named : d.name = n := (sound.tidy (c := .declarations) rfl).named found
  have due : Due op n d k := ⟨sound, named, ⟨d, found, rfl, rfl⟩, Or.inl leaving⟩
  have synced := alone_syncDerived due
  rw [leaving] at synced
  unfold DeclarationPass.release
  apply Pass.Upholds.bind
  refine synced.consequence ?_ ?_
  · rintro _ l ⟨aside, atRest, -⟩
    have foundLater : l.object? .declarations n = some d := aside.declaration.trans found
    simp only
    split
    next present =>
      obtain ⟨keeps, ended⟩ := let_go aside.sound foundLater leaving present atRest
      apply Pass.Upholds.bind
      rw [named]
      refine (alone_patchFinalizers aside.sound foundLater keeps).consequence ?_ ?_
      · rintro _ m rfl
        exact Pass.Upholds.pure ⟨rfl, ended⟩
      · rintro _ m ⟨rfl, refuses⟩
        exact ⟨aside.sound, refuses, d, foundLater, rfl, lasting⟩
    next absent =>
      have unheld : d.metadata.finalizerList.contains Names.finalizer = false := by
        simpa using absent
      exact Pass.Upholds.pure ⟨rfl, Or.inr ⟨d, foundLater, leaving, unheld, atRest⟩⟩
  · exact fun _ l ⟨aside, refuses⟩ =>
      ⟨aside.sound, refuses, d, aside.declaration.trans found, rfl, lasting⟩

/-- The declaration is told a status, and nothing else happens. -/
structure Told (n : String) (status : DeclarationStatus) (stored : Declaration) (k l : Cluster) :
    Prop where
  found : ∃ d' : Declaration, l.object? .declarations n = some d' ∧ d'.spec = stored.spec ∧
    d'.isDeleting = stored.isDeleting ∧ d'.metadata.finalizers = stored.metadata.finalizers ∧
    d'.status = some status
  sound : l.Sound
  derived : ∀ kind : DerivedKind, l.derived kind n = k.derived kind n
  config : l.config = k.config
  refused : l.refused = k.refused

theorem alone_updateStatus {status : DeclarationStatus} {stored : Declaration}
    (whole : ∃ phase reason, status = ⟨some phase, some reason⟩) (sound : k.Sound)
    (found : k.object? .declarations n = some stored) (named : d.name = n)
    (lasting : Store.isReleased stored = false) (same : stored.status = d.status) :
    Alone op n (fun _ l => Told n status stored k l)
      (fun _ l => l.refused .declarations .patchStatus ≠ none)
      (DeclarationPass.updateStatus d status) k := by
  subst named
  unfold DeclarationPass.updateStatus
  split
  next known =>
    -- Nothing is written, because the declaration was read with this status.
    exact Pass.Upholds.pure ⟨⟨stored, found, rfl, rfl, rfl, same.trans known⟩, sound, fun _ => rfl,
      rfl, rfl⟩
  next =>
    apply Pass.Upholds.bind
    refine Pass.Upholds.request fun l alone answer m served => ?_
    subst alone
    obtain ⟨phase, reason, rfl⟩ := whole
    have timed := (sound.tidy (c := .declarations) rfl).timed found
    have read := Declaration.decode_merge_status timed phase reason
    cases served with
    | failed error why =>
        refine ⟨rfl, why.resolve_right fun unfit => ?_⟩
        exact nomatch (unfit stored found).symm.trans read
    | patchedStatus _ _ _ old new answer foundOld readOld =>
        obtain rfl := Option.some.inj (found.symm.trans foundOld)
        obtain rfl := Option.some.inj (read.symm.trans readOld)
        let new : Declaration :=
          { stored with
            metadata := stored.metadata.toSeconds
            status := some ⟨some phase, some reason⟩ }
        have deleting : new.isDeleting = stored.isDeleting :=
          Metadata.isDeleting_toSeconds stored.metadata
        have stays : Store.isReleased new = false := by
          rw [← lasting]
          exact congrArg (· && stored.metadata.finalizerList.isEmpty) deleting
        refine ⟨Cluster.outlook_write_declaration sound found stays rfl deleting (fun _ => rfl)
          fun _ => rfl, ?_⟩
        exact
          { found := ⟨_, object?_write_declaration stays, rfl, deleting, rfl, rfl⟩
            sound := sound.write fun _ => Metadata.timed_toSeconds timed
            derived := fun kind => k.derived_write_declaration kind d.name
            config := k.config_write_declaration _ _ _
            refused := funext fun c => Cluster.refused_write _ _ _ _ _ c }

theorem Converged.settled {outcome : Outcome} {stored : Declaration} {status : DeclarationStatus}
    (converged : Converged op n d outcome k) (named : d.name = n)
    (found : k.object? .declarations n = some stored) (called : outcome.status? = some status)
    (told : Told n status stored k l) : ∃ d', Settled op n d' l ∧
      outcome = d'.conclusion op l.config fun kind => l.derived kind n := by
  obtain ⟨stored', found', spec, staying, _, held⟩ := converged.found
  obtain rfl := Option.some.inj (found.symm.trans found')
  obtain ⟨d', present, spec', deleting, finalizers, status'⟩ := told.found
  have namedLater : d'.name = n := (told.sound.tidy (c := .declarations) rfl).named present
  have sameName : d'.name = d.name := namedLater.trans named.symm
  have sameSpec : d'.spec = d.spec := spec'.trans spec
  have sameLive : (fun kind : DerivedKind => l.derived kind n) = fun kind => k.derived kind n :=
    funext told.derived
  have sameConclusion : (d'.conclusion op l.config fun kind => l.derived kind n) = outcome := by
    rw [told.config, sameLive, converged.outcome]
    exact Declaration.conclusion_congr sameName sameSpec fun _ => rfl
  refine ⟨d', ⟨present, namedLater, deleting.trans staying, ?_, ?_, fun accepted kind => ?_⟩,
    sameConclusion.symm⟩
  · rw [Metadata.finalizerList, finalizers]
    exact held
  · rw [status', sameConclusion, called]
  · rw [told.config, ModuleConfig.validate_congr sameSpec] at accepted
    rw [told.derived, DerivedKind.wanted_congr sameName sameSpec]
    exact converged.atRest accepted kind

theorem status?_conclusion (config : ModuleConfig)
    (live : (kind : DerivedKind) → Option kind.collection.Object) :
    (d.conclusion op config live).status? ≠ none := by
  unfold Declaration.conclusion
  split
  next => exact Option.some_ne_none _
  next =>
    split
    next => exact Option.some_ne_none _
    next => exact Option.some_ne_none _

/-- A pass that was halted tells why, unless the server refuses that as well. -/
theorem Halted.tells (halted : Halted n d k) (named : d.name = n)
    (e : DeclarationPass.Error) :
    Alone op n
      (fun _ l => l.Refuses ∧ ∃ d' : Declaration, l.object? .declarations n = some d' ∧
        d'.status = some (.failed (Fault.chain e)))
      (fun _ l => l.refused .declarations .patchStatus ≠ none)
      (DeclarationPass.updateStatus d (.failed (Fault.chain e))) k := by
  obtain ⟨stored, present, same, lasting⟩ := halted.found
  refine (alone_updateStatus ⟨_, _, rfl⟩ halted.sound present named lasting same).mono
    fun _ l told => ?_
  obtain ⟨d', later, _, _, _, status⟩ := told.found
  obtain ⟨c, verb, refuses⟩ := halted.refuses
  exact ⟨⟨c, verb, told.refused ▸ refuses⟩, d', later, status⟩

/-- The pass over a declaration that stays: it succeeds and leaves everything as was to be expected,
or it fails and says so in the status. -/
theorem alone_reconcile_staying (sound : k.Sound) (found : k.object? .declarations n = some d)
    (staying : d.isDeleting = false) :
    Program.Upholds Eq (fun k l => l.outlook op n = k.outlook op n)
      (Pass.outcome (fun next l => ∃ d', Settled op n d' l ∧
          next = (d'.conclusion op l.config fun kind => l.derived kind n).next op)
        fun e l => l.Refuses ∧
        ((∃ d' : Declaration, l.object? .declarations n = some d' ∧
          d'.status = some (.failed (Fault.chain e))) ∨
        l.refused .declarations .patchStatus ≠ none))
      (DeclarationPass.reconcileFound op d) k := by
  have named : d.name = n := (sound.tidy (c := .declarations) rfl).named found
  have work : Program.Upholds Eq (fun k l => l.outlook op n = k.outlook op n)
      (Pass.outcome (fun outcome l => Converged op n d outcome l) fun _ l => Halted n d l)
      (ExceptT.run (if d.isDeleting then DeclarationPass.release op d
        else DeclarationPass.converge op d)) k := by
    rw [staying]
    exact alone_converge sound found staying
  refine DeclarationPass.upholds_reconcileFound work ?_ ?_
  · intro result l reached called
    cases result with
    | error e => exact nomatch called
    | ok outcome =>
        have converged : Converged op n d outcome l := reached
        have called : outcome.status? = none := called
        rw [converged.outcome] at called
        exact absurd called (status?_conclusion _ _)
  · intro result status l reached called
    cases result with
    | error e =>
        obtain rfl := Option.some.inj called
        have halted : Halted n d l := reached
        refine Program.Upholds.mono (halted.tells named e) fun written m told => ?_
        cases written with
        | ok _ =>
            obtain ⟨refuses, written⟩ := told
            exact ⟨refuses, Or.inl written⟩
        | error cause =>
            have refuses : m.refused .declarations .patchStatus ≠ none := told
            exact ⟨⟨_, _, refuses⟩, Or.inr refuses⟩
    | ok outcome =>
        have whole := DeclarationPass.statusAfter_eq_some called
        have converged : Converged op n d outcome l := reached
        have called : outcome.status? = some status := called
        obtain ⟨stored, present, _, _, same, held⟩ := converged.found
        refine Program.Upholds.mono (alone_updateStatus whole converged.sound present named
          (Store.isReleased_of_mem held) same) fun written m told => ?_
        cases written with
        | ok _ =>
            obtain ⟨d', settled, same⟩ := converged.settled named present called told
            exact ⟨d', settled, congrArg (Outcome.next op) same⟩
        | error cause =>
            have refuses : m.refused .declarations .patchStatus ≠ none := told
            exact ⟨⟨_, _, refuses⟩, Or.inr refuses⟩

theorem alone_reconcile_leaving (sound : k.Sound) (found : k.object? .declarations n = some d)
    (leaving : d.isDeleting = true) (lasting : Store.isReleased d = false) :
    Program.Upholds Eq (fun k l => l.outlook op n = k.outlook op n)
      (Pass.outcome (fun next l => next = .awaitChange ∧
          (l.object? .declarations n = none ∨ ∃ d', LetGo op n d' l)) fun _ l => l.Refuses)
      (DeclarationPass.reconcileFound op d) k := by
  have named : d.name = n := (sound.tidy (c := .declarations) rfl).named found
  have work : Program.Upholds Eq (fun k l => l.outlook op n = k.outlook op n)
      (Pass.outcome (fun outcome l => outcome = .released ∧
          (l.object? .declarations n = none ∨ ∃ d', LetGo op n d' l))
        fun _ l => Halted n d l)
      (ExceptT.run (if d.isDeleting then DeclarationPass.release op d
        else DeclarationPass.converge op d)) k := by
    rw [leaving]
    exact alone_release sound found leaving lasting
  refine DeclarationPass.upholds_reconcileFound work ?_ ?_
  · intro result l reached called
    cases result with
    | error e => exact nomatch called
    | ok outcome =>
        obtain ⟨rfl, ended⟩ := reached
        exact ⟨rfl, ended⟩
  · intro result status l reached called
    cases result with
    | ok outcome =>
        obtain ⟨rfl, -⟩ := reached
        exact nomatch called
    | error e =>
        obtain rfl := Option.some.inj called
        have halted : Halted n d l := reached
        refine Program.Upholds.mono (halted.tells named e) fun written m told => ?_
        cases written with
        | ok _ => exact told.1
        | error cause => exact ⟨_, _, told⟩

theorem alone_reconcile_of_found {ok : Next → Cluster → Prop}
    {failed : DeclarationPass.Error → Cluster → Prop}
    (gone : k.object? .declarations n = none → ok .awaitChange k)
    (work : ∀ d, k.object? .declarations n = some d →
      Program.Upholds Eq (fun k l => l.outlook op n = k.outlook op n) (Pass.outcome ok failed)
        (DeclarationPass.reconcileFound op d) k)
    (unread : ∀ e, k.refused .declarations .get ≠ none → failed e k) :
    Alone op n ok failed (DeclarationPass.reconcile op n) k := by
  unfold DeclarationPass.reconcile
  apply Pass.Upholds.bind
  refine Pass.Upholds.consequence alone_get ?_ ?_
  · rintro answer l ⟨rfl, rfl⟩
    cases found : l.object? .declarations n with
    | none => exact Pass.Upholds.pure (gone found)
    | some d => exact work d found
  · rintro e l ⟨rfl, refused⟩
    exact unread e refused

theorem alone_reconcile_of_staying (sound : k.Sound) (found : k.object? .declarations n = some d)
    (staying : d.isDeleting = false) :
    Alone op n (fun _ l => ∃ d', Settled op n d' l)
      (fun e l => l.Refuses ∧
        ((∃ d' : Declaration, l.object? .declarations n = some d' ∧
          d'.status = some (.failed (Fault.chain e))) ∨
        l.refused .declarations .patchStatus ≠ none ∨ l.refused .declarations .get ≠ none))
      (DeclarationPass.reconcile op n) k := by
  refine alone_reconcile_of_found ?_ ?_ ?_
  · exact fun gone => nomatch gone.symm.trans found
  · intro d' found'
    obtain rfl := Option.some.inj (found.symm.trans found')
    refine (alone_reconcile_staying sound found staying).mono fun result l ended => ?_
    cases result with
    | ok next =>
        obtain ⟨d', settled, -⟩ := ended
        exact ⟨d', settled⟩
    | error e =>
        obtain ⟨refuses, told⟩ := ended
        exact ⟨refuses, told.imp_right Or.inl⟩
  · exact fun e refused => ⟨⟨_, _, refused⟩, Or.inr (Or.inr refused)⟩

/-- The pass over a name, whether there is a declaration or not. -/
theorem alone_reconcile (sound : k.Sound)
    (lasting : ∀ d : Declaration, k.object? .declarations n = some d →
      Store.isReleased d = false) :
    Alone op n (fun _ l => l.observed n = l.outlook op n) (fun _ l => l.Refuses)
      (DeclarationPass.reconcile op n) k := by
  refine alone_reconcile_of_found observed_of_gone ?_ fun e refused => ⟨_, _, refused⟩
  intro d found
  cases state : d.isDeleting with
  | true =>
      refine (alone_reconcile_leaving sound found state (lasting d found)).mono
        fun result l ended => ?_
      cases result with
      | ok next => exact observed_of_leaving ended.2
      | error e => exact ended
  | false =>
      refine (alone_reconcile_staying sound found state).mono fun result l ended => ?_
      cases result with
      | ok next =>
          obtain ⟨d', settled, -⟩ := ended
          exact settled.observed
      | error e => exact ended.1

end Passing

end NfsStorage

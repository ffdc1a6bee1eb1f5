import NfsStorage.Proofs.Declaration.Failures
import NfsStorage.Proofs.Declaration.Interference
import NfsStorage.Proofs.Declaration.Passing
import NfsStorage.Proofs.Declaration.Requests
import NfsStorage.Proofs.Orphans.Guarded

/-!
# Letting a declaration go

A declaration whose deletion was asked for is held by the finalizer of the module until nothing that
the module made for it is left. Objects of other owners that have its names do not keep it, and are
not touched. Where a call fails the declaration stays as it is held.
-/

namespace NfsStorage

open DeclarationPass (DerivedKind)

namespace Cluster

def finalizersOf (k : Cluster) (n : String) : Option (List String) :=
  (k.object? .declarations n).map fun d : Declaration => d.metadata.finalizerList

/-- Nothing that the module made for a declaration is left. -/
def Vacated (k : Cluster) (n : String) : Prop :=
  ∀ (kind : DerivedKind) object, k.derived kind n = some object → ¬ kind.IsOurs object

theorem holds_iff {k : Cluster} {n : String} :
    k.Holds n ↔
      ∃ finalizers, k.finalizersOf n = some finalizers ∧ Names.finalizer ∈ finalizers := by
  constructor
  · rintro ⟨d, found, held⟩
    exact ⟨_, congrArg (Option.map _) found, held⟩
  · rintro ⟨finalizers, listed, held⟩
    obtain ⟨d, found, rfl⟩ := Option.map_eq_some_iff.mp listed
    exact ⟨d, found, held⟩

/-- The finalizers that hold a declaration stay, unless nothing is left to hold it for. -/
def Gated (n : String) (k l : Cluster) : Prop :=
  l.finalizersOf n = k.finalizersOf n ∨ k.Vacated n

theorem Gated.vacated {n : String} {k l : Cluster} (gated : Gated n k l) (held : k.Holds n)
    (freed : ¬ l.Holds n) : k.Vacated n := by
  refine gated.resolve_left fun same => freed ?_
  rw [holds_iff, same]
  exact holds_iff.mp held

end Cluster

open Cluster (Gated)

section Gate

variable {op : Operator} {n : String} {d : Declaration} {k l : Cluster}

/-- When a pass that lets go is done with the derived objects, none of the module's is left. -/
theorem vacated_of_atRest
    (atRest : ∀ kind : DerivedKind, kind.AtRest (k.derived kind n) (kind.wanted op d) true) :
    k.Vacated n := by
  intro kind object present ours
  have judged : kind.action (some object) (kind.wanted op d) true = .ok .delete :=
    DerivedKind.action_ours_deleting ours
  have atRest := atRest kind
  rw [present, DerivedKind.AtRest, DerivedKind.reason, judged] at atRest
  rcases atRest with keep | left
  · cases keep
  · exact left rfl

theorem gated_syncDerived (due : Due op n d k) (leaving : d.isDeleting = true) :
    Pass.Upholds Eq (Gated n) (fun _ l => Aside n k l ∧ l.Vacated n) (fun _ l => Aside n k l)
      (DeclarationPass.syncDerived op d true) k := by
  have synced := alone_syncDerived due
  rw [leaving] at synced
  refine Program.Asks.upholds (DeclarationPass.byParts_asks.syncDerived true) ?_
    (synced.consequence ?_ fun _ _ ⟨aside, _⟩ => aside)
  · rintro k r ⟨kind, derives⟩
    have elsewhere : Collection.declarations ≠ r.collection := by
      rw [derives.collection_eq]
      exact kind.collection_ne_declarations.symm
    have same : (k.serve r).2.object? .declarations n = k.object? .declarations n :=
      (k.served r).object? fun here => absurd here elsewhere
    exact Or.inl (congrArg (Option.map _) same)
  · exact fun _ l ⟨aside, atRest, _⟩ => ⟨aside, vacated_of_atRest atRest⟩

theorem finalizersOf_write_heldBy (leaving : d.isDeleting = true) (finalizers : List String) :
    (k.write .declarations .patch n (Resource.heldBy d finalizers)).finalizersOf n =
      if finalizers.isEmpty then none else some finalizers := by
  have deleting : (Resource.heldBy d finalizers).isDeleting = true :=
    (Metadata.isDeleting_toSeconds d.metadata).trans leaving
  have released : Store.isReleased (Resource.heldBy d finalizers) = finalizers.isEmpty := by
    change ((Resource.heldBy d finalizers).isDeleting && _) = _
    rw [deleting, Bool.true_and, Resource.finalizerList_heldBy]
  rw [Cluster.finalizersOf, Cluster.object?_write_self, Store.isReleased_stamped, released]
  split
  next => rfl
  next => exact congrArg some (Resource.finalizerList_heldBy d finalizers)

/-- The finalizers of a declaration once it is let go; without any it goes itself. -/
def Declaration.freed (d : Declaration) : Option (List String) :=
  let left := d.metadata.finalizerList.filter (· ≠ Names.finalizer)
  if left.isEmpty then none else some left

theorem Declaration.freed_eq_some (d : Declaration)
    (left : d.metadata.finalizerList.filter (· ≠ Names.finalizer) ≠ []) :
    d.freed = some (d.metadata.finalizerList.filter (· ≠ Names.finalizer)) :=
  if_neg fun none => left (List.isEmpty_iff.mp none)

theorem Declaration.freed_eq_none_iff (d : Declaration) :
    d.freed = none ↔ d.metadata.finalizerList.filter (· ≠ Names.finalizer) = [] := by
  constructor
  · intro gone
    refine Decidable.byContradiction fun left => ?_
    exact nomatch gone.symm.trans (d.freed_eq_some left)
  · exact fun none => if_pos (List.isEmpty_iff.mpr none)

theorem gated_release (sound : k.Sound) (found : k.object? .declarations n = some d)
    (leaving : d.isDeleting = true) (lasting : Store.isReleased d = false) :
    Pass.Upholds Eq (Gated n)
      (fun outcome l => outcome = .released ∧ l.finalizersOf n = d.freed ∧ l.Vacated n)
      (fun _ l => l.Sound ∧ l.object? .declarations n = some d)
      (DeclarationPass.release op d) k := by
  have named : d.name = n := (sound.tidy (c := .declarations) rfl).named found
  have due : Due op n d k := ⟨sound, named, ⟨d, found, rfl, rfl⟩, Or.inl leaving⟩
  unfold DeclarationPass.release
  apply Pass.Upholds.bind
  refine (gated_syncDerived due leaving).consequence ?_
    fun _ l aside => ⟨aside.sound, aside.declaration.trans found⟩
  rintro _ l ⟨aside, vacated⟩
  have foundLater : l.object? .declarations n = some d := aside.declaration.trans found
  simp only
  split
  next =>
    apply Pass.Upholds.bind
    rw [named]
    refine (upholds_patchFinalizers aside.sound foundLater (Or.inl rfl)
      (Or.inr vacated)).consequence ?_ ?_
    · rintro _ m rfl
      refine Pass.Upholds.pure ⟨rfl, finalizersOf_write_heldBy leaving _, fun kind object => ?_⟩
      rw [Cluster.derived_write_declaration]
      exact vacated kind object
    · rintro _ m ⟨rfl, -⟩
      exact ⟨aside.sound, foundLater⟩
  next absent =>
    -- Others hold the declaration, and no call is needed to let it go.
    have others : d.metadata.finalizerList.filter (· ≠ Names.finalizer) =
        d.metadata.finalizerList := by
      refine List.filter_eq_self.mpr fun finalizer member => decide_eq_true fun same => absent ?_
      exact List.contains_iff_mem.mpr (same ▸ member)
    have held : d.metadata.finalizerList.isEmpty = false := by
      have lasting : (d.isDeleting && d.metadata.finalizerList.isEmpty) = false := lasting
      rwa [leaving, Bool.true_and] at lasting
    refine Pass.Upholds.pure ⟨rfl, ?_, vacated⟩
    rw [Cluster.finalizersOf, foundLater, Declaration.freed, others, held]
    rfl

theorem finalizersOf_patchStatus {phase : Phase} {reason : String} (sound : k.Sound)
    (found : k.object? .declarations n = some d) (lasting : Store.isReleased d = false) {answer}
    (served : k.Served (.patchStatus .declarations n (.object [("status",
      encode (⟨some phase, some reason⟩ : DeclarationStatus))])) answer l) :
    l.finalizersOf n = k.finalizersOf n := by
  rcases served.of_statusPatch sound with ⟨-, rfl⟩ | ⟨old, written, -, foundOld, -, rfl⟩
  · rfl
  · obtain rfl := Option.some.inj (found.symm.trans foundOld)
    rw [Cluster.finalizersOf, object?_write_declaration, Cluster.finalizersOf, found]
    · rfl
    · rw [← lasting]
      exact congrArg (· && d.metadata.finalizerList.isEmpty)
        (Metadata.isDeleting_toSeconds d.metadata)

theorem gated_updateStatus {status : DeclarationStatus} (sound : k.Sound)
    (found : k.object? .declarations n = some d) (lasting : Store.isReleased d = false)
    (whole : ∃ phase reason, status = ⟨some phase, some reason⟩) :
    Pass.Upholds Eq (Gated n) (fun _ l => l.finalizersOf n = k.finalizersOf n)
      (fun _ l => l.finalizersOf n = k.finalizersOf n)
      (DeclarationPass.updateStatus d status) k := by
  obtain rfl : d.name = n := (sound.tidy (c := .declarations) rfl).named found
  obtain ⟨phase, reason, rfl⟩ := whole
  unfold DeclarationPass.updateStatus
  split
  next => exact Pass.Upholds.pure rfl
  next =>
    apply Pass.Upholds.bind
    refine Pass.Upholds.request fun l alone answer m served => ?_
    subst alone
    have same := finalizersOf_patchStatus sound found lasting served
    refine ⟨Or.inl same, ?_⟩
    cases answer with
    | ok a => exact Pass.Upholds.pure same
    | error e => exact same

theorem gated_reconcileFound (sound : k.Sound) (found : k.object? .declarations n = some d)
    (leaving : d.isDeleting = true) (lasting : Store.isReleased d = false) :
    Program.Upholds Eq (Gated n)
      (Pass.outcome (fun _ l => l.finalizersOf n = d.freed ∧ l.Vacated n)
        fun _ l => l.finalizersOf n = some d.metadata.finalizerList)
      (DeclarationPass.reconcileFound op d) k := by
  have work : Program.Upholds Eq (Gated n)
      (Pass.outcome
        (fun outcome l => outcome = .released ∧ l.finalizersOf n = d.freed ∧ l.Vacated n)
        fun _ l => l.Sound ∧ l.object? .declarations n = some d)
      (ExceptT.run (if d.isDeleting then DeclarationPass.release op d
        else DeclarationPass.converge op d)) k := by
    rw [leaving]
    exact gated_release sound found leaving lasting
  refine DeclarationPass.upholds_reconcileFound work ?_ ?_
  · intro result l reached called
    cases result with
    | error e => exact nomatch called
    | ok outcome => exact reached.2
  · intro result status l reached called
    cases result with
    | ok outcome =>
        obtain ⟨rfl, -⟩ := reached
        exact nomatch called
    | error e =>
        obtain ⟨sound, found⟩ := reached
        have held : l.finalizersOf n = some d.metadata.finalizerList :=
          congrArg (Option.map _) found
        refine Program.Upholds.mono (gated_updateStatus sound found lasting
          (DeclarationPass.statusAfter_eq_some called)) fun written m told => ?_
        cases written with
        | ok _ => exact told.trans held
        | error cause => exact told.trans held

theorem gated_reconcile (sound : k.Sound) (found : k.object? .declarations n = some d)
    (leaving : d.isDeleting = true) (lasting : Store.isReleased d = false) :
    Pass.Upholds Eq (Gated n) (fun _ l => l.finalizersOf n = d.freed ∧ l.Vacated n)
      (fun _ l => l.finalizersOf n = some d.metadata.finalizerList)
      (DeclarationPass.reconcile op n) k := by
  unfold DeclarationPass.reconcile
  apply Pass.Upholds.bind
  refine Pass.Upholds.request (r := .get .declarations n) fun l alone answer m served => ?_
  subst alone
  cases served with
  | failed => exact ⟨Or.inl rfl, congrArg (Option.map _) found⟩
  | got =>
      refine ⟨Or.inl rfl, ?_⟩
      rw [found]
      exact gated_reconcileFound sound found leaving lasting

end Gate

section Foreign

variable {op : Operator} {n : String} {d : Declaration} {k : Cluster} {kind : DerivedKind}
  {object : kind.collection.Object}

open Pass (Asks)

theorem DeclarationPass.DerivedKind.action_foreign_deleting (foreign : ¬ kind.IsOurs object)
    (desired : kind.collection.Object) :
    ∃ owner, kind.action (some object) desired true = .ok (.skipForeign owner) := by
  cases kind with
  | storageClass =>
      have foreign : StorageClass.provisioner object ≠ Names.nfsDriver := foreign
      exact ⟨_, congrArg Except.ok (if_pos foreign)⟩
  | secret =>
      have foreign : (Secret.metadata object).isManaged = false := Bool.eq_false_iff.mpr foreign
      exact ⟨"unmanaged", by simp [action, Secret.action, foreign]⟩
  | snapshotClass =>
      have foreign : SnapshotClass.driver object ≠ Names.nfsDriver := foreign
      exact ⟨_, congrArg Except.ok (if_pos foreign)⟩

theorem avoids_syncDerived (named : d.name = n) (foreign : ¬ kind.IsOurs object)
    (present : k.derived kind n = some object) :
    Asks (Request.Avoids kind.collection (kind.nameOf n))
      (DeclarationPass.syncDerived op d true) k := by
  have each : ∀ (other : DerivedKind) (l : Cluster), l.derived kind n = some object →
      Asks (Request.Avoids kind.collection (kind.nameOf n))
        (DeclarationPass.sync other (other.wanted op d) true) l := by
    intro other l present
    by_cases same : other = kind
    · subst same
      unfold DeclarationPass.sync
      refine Asks.bind (Asks.request _ (Request.avoids_of_reads rfl)) fun live m looked => ?_
      obtain ⟨-, rfl, rfl⟩ := Pass.succeeds_get.mp looked
      obtain ⟨owner, judged⟩ := DerivedKind.action_foreign_deleting foreign (other.wanted op d)
      rw [DerivedKind.name_wanted, named, show m.object? _ _ = some object from present, judged]
      exact Asks.pure _
    · refine (DeclarationPass.byParts_asks.sync true).mono
        fun r (derives : r.Derives op d other) here => absurd ?_ same
      exact DerivedKind.collection_injective (here.trans derives.collection_eq).symm
  rw [DeclarationPass.syncDerived_eq]
  refine Asks.bind_avoiding (each .storageClass k present) fun _ l first => ?_
  refine Asks.bind_avoiding (each .secret l (first.trans present)) fun _ m second => ?_
  exact Asks.bind (each .snapshotClass m (second.trans (first.trans present)))
    fun _ _ _ => Asks.pure _

theorem byParts_avoids (op : Operator) (d : Declaration) (kind : DerivedKind) (name : String) :
    DeclarationPass.ByParts (fun _ => Asks (Request.Avoids kind.collection name))
      (Request.Tends op d False) :=
  DeclarationPass.byParts_asks.mono fun _ tends here =>
    absurd here.symm (tends.collection_ne id kind)

theorem avoids_release (named : d.name = n) (foreign : ¬ kind.IsOurs object)
    (present : k.derived kind n = some object) :
    Asks (Request.Avoids kind.collection (kind.nameOf n)) (DeclarationPass.release op d) k := by
  unfold DeclarationPass.release
  refine Asks.bind (avoids_syncDerived named foreign present) fun _ l _ => ?_
  simp only
  split
  next =>
    refine Asks.bind ?_ fun _ _ _ => Asks.pure _
    exact (byParts_avoids op d kind _).patchFinalizers _
  next => exact Asks.pure _

/-- An object of another owner that has a name of the declaration is not written. -/
theorem avoids_reconcile (sound : k.Sound) (found : k.object? .declarations n = some d)
    (leaving : d.isDeleting = true) (foreign : ¬ kind.IsOurs object)
    (present : k.derived kind n = some object) :
    Asks (Request.Avoids kind.collection (kind.nameOf n)) (DeclarationPass.reconcile op n) k := by
  have named : d.name = n := (sound.tidy (c := .declarations) rfl).named found
  unfold DeclarationPass.reconcile
  refine Asks.bind (Asks.request _ (Request.avoids_of_reads rfl)) fun read l looked => ?_
  obtain ⟨-, rfl, rfl⟩ := Pass.succeeds_get.mp looked
  rw [found]
  change Program.Asks _ (DeclarationPass.reconcileFound op d) l
  unfold DeclarationPass.reconcileFound
  rw [leaving]
  apply Program.Asks.bind (avoids_release named foreign present)
  generalize Program.run .direct _ l = ended
  cases DeclarationPass.statusAfter ended.1 with
  | none => exact fun _ sent => nomatch sent
  | some status =>
      refine Program.Asks.bind ?_ fun _ sent => nomatch sent
      exact (byParts_avoids op d kind _).updateStatus status

end Foreign

theorem Cluster.finalizersOf_eq_none_iff {k : Cluster} {n : String} :
    k.finalizersOf n = none ↔ k.object? .declarations n = none := Option.map_eq_none_iff

/-- A pass over a declaration whose deletion was asked for takes the finalizer of the module off it
only where nothing of the module's is left. If any of its calls fails, the declaration keeps its
finalizers. If none does, it is let go: the other finalizers stay in their order, and without any it
is gone. What does not belong to the declaration stays as it is, and so do objects of other owners
that have its names. -/
theorem release_gated (op : Operator) {k : Cluster} (reachable : k.Reachable)
    (lasting : k.NoneReleased) {n : String} {d : Declaration}
    (found : k.object? .declarations n = some d) (leaving : d.isDeleting = true) :
    let pass := (DeclarationPass.reconcile op n).run
    let l := (pass.run .direct k).2
    let left := d.metadata.finalizerList.filter (· ≠ Names.finalizer)
    (∀ c ∈ pass.calls k, c.before.Holds n → ¬ c.after.Holds n → c.before.Vacated n) ∧
      (pass.faults k ≠ [] → l.finalizersOf n = some d.metadata.finalizerList) ∧
      (pass.faults k = [] → (l.object? .declarations n = none ↔ left = []) ∧
        (left ≠ [] → l.finalizersOf n = some left) ∧ l.Vacated n) ∧
      (∀ (kind : DerivedKind) object, k.derived kind n = some object → ¬ kind.IsOurs object →
        l.derived kind n = some object) ∧
      ∀ c name, ¬ Belongs n c name → l.object? c name = k.object? c name := by
  intro pass l left
  have gated : Pass.Upholds Eq (Gated n) _ _ (DeclarationPass.reconcile op n) k :=
    gated_reconcile reachable.sound found leaving (lasting .declarations n d found)
  have ended : Pass.outcome _ _ (pass.run .direct k).1 l := gated.run
  have faults := DeclarationPass.faults_reconcile_eq_nil_iff op n k
  refine ⟨fun c made => (Program.Upholds.of_mem_calls gated made).vacated, fun failing => ?_,
    fun unfailing => ?_, fun kind object present foreign => ?_, fun c name elsewhere => ?_⟩
  · cases result : (pass.run .direct k).1 with
    | ok next => exact absurd (faults.mpr ⟨next, result⟩) failing
    | error e =>
        rw [result] at ended
        exact ended
  · obtain ⟨next, result⟩ := faults.mp unfailing
    rw [result] at ended
    obtain ⟨freed, vacated⟩ := ended
    rw [← Cluster.finalizersOf_eq_none_iff, freed]
    exact ⟨d.freed_eq_none_iff, d.freed_eq_some, vacated⟩
  · exact (Program.Asks.object?_run
      (avoids_reconcile reachable.sound found leaving foreign present)).trans present
  · exact (confined_run op n reachable.sound).object? elsewhere

/-- A declaration that the module and somebody else hold, with a storage class of another driver
under its name, a secret of its own, and a snapshot class that waits for its deletion. -/
def departing : Cluster :=
  let asked : Time := ⟨⟨2024, 1, 1⟩, 0, 0, 0, 0⟩
  let declared : Cluster := Cluster.setStore {} .declarations (Store.ofList [
    { metadata := {
        name := some "a"
        finalizers := some [Names.finalizer, "example.com/hold"]
        deletionTimestamp := some asked }
      spec :=
        { connection := { host := "host", share := "/share", nfsVersion := .v41 }
          reclaimPolicy := .delete
          volumeBindingMode := .immediate } }])
  let classed := declared.setStore .storageClasses (Store.ofList [
    { metadata := { name := some "a" }
      provisioner := "example.com/other" }])
  let hidden := classed.setStore .secrets (Store.ofList [
    { metadata := {
        name := some (Names.secretNameOf "a")
        labels := some (Dict.ofList [(Names.managedByLabel, Names.operator)])
        finalizers := some [Names.finalizer] } }])
  hidden.setStore .snapshotClasses (Store.ofList [
    { metadata := {
        name := some "a"
        finalizers := some [Names.finalizer]
        deletionTimestamp := some asked }
      driver := Names.nfsDriver
      deletionPolicy := .delete }])

theorem reachable_departing : departing.Reachable := by
  refine .filled .snapshotClasses _ ?_ (.filledAlive .secrets rfl
    (.filledAlive .storageClasses rfl (.filled .declarations _ ?_ .empty)))
  all_goals
    intro object membership
    obtain rfl := List.mem_singleton.mp membership
    rintro time ⟨⟩
    decide

theorem noneReleased_departing : departing.NoneReleased := by
  refine .filled (.filled (.filled (.filled (k := {}) ?_ .declarations ?_) .storageClasses ?_)
    .secrets ?_) .snapshotClasses ?_
  · intro c name object present
    cases c <;> exact nomatch present
  all_goals
    intro object membership
    obtain rfl := List.mem_singleton.mp membership
    rfl

/-- The module lets go of it although the storage class stays, but not while its secret cannot be
deleted. -/
theorem release_gated_departing :
    let pass := (DeclarationPass.reconcile {} "a").run
    let l := (pass.run .direct departing).2
    let hindered := departing.withRefusals .secrets fun verb =>
      if verb = .delete then some 500 else none
    (pass.faults departing = [] ∧ l.finalizersOf "a" = some ["example.com/hold"] ∧
      l.Vacated "a" ∧ l.derived .storageClass "a" = departing.derived .storageClass "a") ∧
      pass.faults hindered = [.api (Verb.delete.refusal 500 (Names.secretNameOf "a"))] ∧
      (pass.run .direct hindered).2.finalizersOf "a" =
        some [Names.finalizer, "example.com/hold"] := by
  intro pass l hindered
  obtain ⟨d, found, leaving, listed⟩ : ∃ d : Declaration,
      departing.object? .declarations "a" = some d ∧ d.isDeleting = true ∧
        d.metadata.finalizerList = [Names.finalizer, "example.com/hold"] :=
    ⟨_, rfl, rfl, rfl⟩
  constructor
  · obtain ⟨-, -, freed, foreign, -⟩ :=
      release_gated {} reachable_departing noneReleased_departing found leaving
    have unfailing : pass.faults departing = [] := by decide +kernel
    obtain ⟨-, left, vacated⟩ := freed unfailing
    rw [listed] at left
    have other : "example.com/other" ≠ Names.nfsDriver := by decide
    exact ⟨unfailing, left (by decide), vacated, foreign .storageClass _ rfl other⟩
  · have lasting : hindered.NoneReleased := by
      intro c name object present
      rw [Cluster.object?_withRefusals] at present
      exact noneReleased_departing c name object present
    obtain ⟨-, held, -⟩ :=
      release_gated {} (.refusing _ _ reachable_departing) lasting (n := "a") found leaving
    have failing : pass.faults hindered =
        [.api (Verb.delete.refusal 500 (Names.secretNameOf "a"))] := by decide +kernel
    refine ⟨failing, (held ?_).trans (congrArg some listed)⟩
    rw [show pass.faults hindered = _ from failing]
    exact List.cons_ne_nil _ _

end NfsStorage

import NfsStorage.Proofs.Declaration.Retries
import NfsStorage.Proofs.Program.Looking

/-!
# Passes that find nothing to do

After a pass without failures a declaration is at peace: the next one only looks, and comes to the
same end.
-/

namespace NfsStorage

open DeclarationPass (DerivedKind)
open Pass (Looks)

/-- What a pass without failures leaves of a declaration, and what the controller does next. -/
inductive AtPeace (op : Operator) (n : String) (k : Cluster) : Next → Prop where
  | gone (absent : k.object? .declarations n = none) : AtPeace op n k .awaitChange
  | letGo {d : Declaration} (letGo : LetGo op n d k) : AtPeace op n k .awaitChange
  | settled {d : Declaration} (settled : Settled op n d k) :
      AtPeace op n k ((d.conclusion op k.config fun kind => k.derived kind n).next op)

section Looking

variable {op : Operator} {n : String} {d : Declaration} {k : Cluster}

theorem looks_sync {kind : DerivedKind} {desired : kind.collection.Object} {deleting : Bool}
    (serves : k.refused kind.collection .get = none)
    (named : Resource.name desired = kind.nameOf n)
    (atRest : kind.AtRest (k.derived kind n) desired deleting) :
    Looks (DeclarationPass.sync kind desired deleting) k
      (kind.reason (k.derived kind n) desired deleting) := by
  unfold DeclarationPass.sync
  apply Looks.bind (Pass.looks_get serves)
  have seen : k.object? kind.collection (Resource.name desired) = k.derived kind n := by
    rw [named]
    rfl
  rw [seen]
  rcases atRest with keep | left
  · rw [keep, DerivedKind.reason_of_keep keep]
    exact Looks.pure _ _
  · unfold DerivedKind.reason at left ⊢
    split at left
    next owner judged =>
      rw [judged]
      exact Looks.pure _ _
    next foreign judged =>
      rw [judged]
      exact Looks.pure _ _
    next => exact absurd rfl left

theorem looks_syncDerived {deleting : Bool} (serves : ∀ c verb, k.refused c verb = none)
    (named : d.name = n)
    (atRest : ∀ kind : DerivedKind, kind.AtRest (k.derived kind n) (kind.wanted op d) deleting) :
    let of (kind : DerivedKind) :=
      (kind.reason (k.derived kind n) (kind.wanted op d) deleting).toList
    Looks (DeclarationPass.syncDerived op d deleting) k
      (of .storageClass ++ of .secret ++ of .snapshotClass) := by
  have each : ∀ kind : DerivedKind,
      Looks (DeclarationPass.sync kind (kind.desired (d.derive op.tls op.namespace)) deleting) k
        (kind.reason (k.derived kind n) (kind.wanted op d) deleting) := by
    intro kind
    refine looks_sync (serves _ _) ?_ (atRest kind)
    rw [kind.name_desired, named]
  rw [DeclarationPass.syncDerived_eq]
  apply Looks.bind (each .storageClass)
  apply Looks.bind (each .secret)
  apply Looks.bind (each .snapshotClass)
  exact Looks.pure _ _

theorem Settled.looks_converge (settled : Settled op n d k)
    (serves : ∀ c verb, k.refused c verb = none) :
    Looks (DeclarationPass.converge op d) k
      (d.conclusion op k.config fun kind => k.derived kind n) := by
  have held : d.metadata.finalizerList.contains Names.finalizer = true :=
    List.contains_iff_mem.mpr settled.held
  rw [DeclarationPass.converge_eq, held, Bool.not_true, if_neg Bool.false_ne_true]
  apply Looks.bind (Pass.looks_get (serves _ _))
  have config : (k.object? .moduleConfigs ModuleConfig.singleton).getD .unset = k.config := rfl
  rw [config, Declaration.conclusion]
  simp only
  cases accepted : k.config.validate op.tls d with
  | error violation => exact Looks.pure _ _
  | ok _ =>
      apply Looks.bind (looks_syncDerived serves settled.named (settled.atRest accepted))
      exact Looks.pure _ _

theorem LetGo.looks_release (letGo : LetGo op n d k) (named : d.name = n)
    (serves : ∀ c verb, k.refused c verb = none) :
    Looks (DeclarationPass.release op d) k .released := by
  unfold DeclarationPass.release
  apply Looks.bind (looks_syncDerived serves named letGo.atRest)
  simp only [letGo.unheld, Bool.false_eq_true, if_false]
  exact Looks.pure _ _

theorem looks_updateStatus {status : DeclarationStatus} (known : d.status = some status) :
    Looks (DeclarationPass.updateStatus d status) k () := by
  unfold DeclarationPass.updateStatus
  rw [if_pos known]
  exact Looks.pure _ _

theorem Settled.looks (settled : Settled op n d k) (serves : ∀ c verb, k.refused c verb = none) :
    Program.Looks (DeclarationPass.reconcileFound op d) k
      (.ok ((d.conclusion op k.config fun kind => k.derived kind n).next op)) := by
  have worked := settled.looks_converge serves
  unfold DeclarationPass.reconcileFound
  rw [settled.staying]
  apply Program.Looks.bind worked
  rw [DeclarationPass.statusAfter]
  cases called : (d.conclusion op k.config fun kind => k.derived kind n).status? with
  | none => exact Program.Looks.pure _ _
  | some status =>
      apply Program.Looks.bind (looks_updateStatus (settled.status.trans called))
      exact Program.Looks.pure _ _

theorem LetGo.looks (letGo : LetGo op n d k) (named : d.name = n)
    (serves : ∀ c verb, k.refused c verb = none) :
    Program.Looks (DeclarationPass.reconcileFound op d) k (.ok .awaitChange) := by
  unfold DeclarationPass.reconcileFound
  rw [letGo.leaving]
  exact Program.Looks.bind (letGo.looks_release named serves) (Program.Looks.pure _ _)

/-- At peace, a pass without failures only looks. -/
theorem AtPeace.looks {next : Next} (atPeace : AtPeace op n k next) (sound : k.Sound)
    (serves : ∀ c verb, k.refused c verb = none) :
    Looks (DeclarationPass.reconcile op n) k next := by
  unfold DeclarationPass.reconcile
  apply Looks.bind (Pass.looks_get (serves _ _))
  cases atPeace with
  | gone absent =>
      rw [absent]
      exact Looks.pure _ _
  | letGo letGo =>
      rw [letGo.found]
      exact letGo.looks ((sound.tidy (c := .declarations) rfl).named letGo.found) serves
  | settled settled =>
      rw [settled.found]
      exact settled.looks serves

end Looking

/-- A pass that meets no failure succeeds, and leaves the declaration at peace. -/
theorem exists_atPeace (op : Operator) (n : String) {k : Cluster} (sound : k.Sound)
    (lasting : k.NoneReleased) (serves : ∀ c verb, k.refused c verb = none) :
    ∃ next l, (DeclarationPass.reconcile op n).run.run .direct k = (.ok next, l) ∧
      AtPeace op n l next := by
  have upheld : Alone op n (fun next l => AtPeace op n l next) (fun _ l => l.Refuses)
      (DeclarationPass.reconcile op n) k := by
    refine alone_reconcile_of_found .gone (fun d found => ?_) fun e refused => ⟨_, _, refused⟩
    cases state : d.isDeleting with
    | true =>
        have lasting := lasting .declarations n d found
        refine (alone_reconcile_leaving sound found state lasting).mono fun result l ended => ?_
        cases result with
        | ok next =>
            obtain ⟨rfl, gone | ⟨d', letGo⟩⟩ := ended
            · exact AtPeace.gone gone
            · exact AtPeace.letGo letGo
        | error e => exact ended
    | false =>
        refine (alone_reconcile_staying sound found state).mono fun result l ended => ?_
        cases result with
        | ok next =>
            obtain ⟨d', settled, rfl⟩ := ended
            exact AtPeace.settled settled
        | error e => exact ended.1
  have ended := Program.Upholds.run upheld
  have refused := Program.refused_run (ExceptT.run (DeclarationPass.reconcile op n)) k
  generalize (ExceptT.run (DeclarationPass.reconcile op n)).run .direct k = ran at ended refused ⊢
  obtain ⟨result, l⟩ := ran
  cases result with
  | ok next => exact ⟨next, l, rfl, ended⟩
  | error e =>
      obtain ⟨c, verb, refuses⟩ := ended
      have same : l.refused = k.refused := refused
      rw [same] at refuses
      exact absurd (serves c verb) refuses

end NfsStorage

import NfsStorage.Proofs.Declaration.Passing
import NfsStorage.Proofs.Derived.Fulfilled

/-!
# The status tells the truth

What the status says after a pass is so. A declaration that is called created has everything that it
asks for; one that is called failed has something left to say why; and a declaration that could be
created is.
-/

namespace NfsStorage

open DeclarationPass (DerivedKind Outcome)

def Declaration.phase? (d : Declaration) : Option Phase := d.status.bind (·.phase)

/-- The derived objects of a declaration are there, as it asks for them. -/
structure Cluster.Provides (k : Cluster) (op : Operator) (n : String) (d : Declaration) : Prop where
  storageClass : ∃ c : StorageClass, k.object? .storageClasses n = some c ∧
    c.Fulfils (d.derive op.tls op.namespace).storageClass
  secret : ∃ s : Secret, k.object? .secrets (Names.secretNameOf n) = some s ∧
    s.Fulfils (d.derive op.tls op.namespace).secret
  snapshotClass : ∃ c : SnapshotClass, k.object? .snapshotClasses n = some c ∧
    c.Fulfils (d.derive op.tls op.namespace).snapshotClass

section Accounts

/-- What a failed call says: its own text, and then that of what it came from. -/
def StoreError.account : StoreError → List String
  | .api e =>
    let status := e.message ++ ": " ++ e.reason
    ["ApiError: " ++ status ++ " (ErrorResponse \x7b status: \"Failure\", message: " ++
        Text.quoted e.message ++ ", reason: " ++ Text.quoted e.reason ++ ", code: " ++
        toString e.code ++ " \x7d)",
      status]
  | .undecodable => ["Error deserializing response"]
  | .unsent .unnamed =>
    ["Failed to build request: failed to validate request: A non-empty name is required",
      "failed to validate request: A non-empty name is required"]
  | .unsent .unwritable =>
    ["Failed to build request: failed to build request: invalid uri character",
      "failed to build request: invalid uri character",
      "invalid uri character"]

/-- What a pass that failed says: what it was about, and then what became of the call. -/
def DeclarationPass.Error.account : DeclarationPass.Error → List String
  | .getDeclaration name cause => ("failed to get NFSStorageClass " ++ name) :: cause.account
  | .updateFinalizers name cause =>
    ("failed to update finalizers of NFSStorageClass " ++ name) :: cause.account
  | .getModuleConfig cause => "failed to get the module configuration" :: cause.account
  | .getDerived kind name cause => ("failed to get " ++ kind.text ++ " " ++ name) :: cause.account
  | .applyDerived action kind name cause =>
    ("failed to apply " ++ action.text ++ " to " ++ kind.text ++ " " ++ name) :: cause.account
  | .updateStatus name cause =>
    ("failed to update status of NFSStorageClass " ++ name) :: cause.account
  | .reconcileAndStatus reconcile status =>
    [reconcile.account.headD "" ++ "; the status update failed as well: " ++
      status.account.headD ""]

theorem StoreError.texts_eq_account (e : StoreError) : Fault.texts e = e.account := by
  rcases e with _ | _ | (_ | _) <;> rfl

theorem DeclarationPass.Error.texts_eq_account (e : DeclarationPass.Error) :
    Fault.texts e = e.account := by
  induction e with
  | reconcileAndStatus reconcile status reconciled stated =>
      rw [account, ← reconciled, ← stated]
      rfl
  | _ => exact congrArg (_ :: ·) (StoreError.texts_eq_account _)

theorem DeclarationPass.Error.chain_eq (e : DeclarationPass.Error) :
    Fault.chain e = ": ".intercalate e.account := by
  rw [Fault.chain, chainText, texts_eq_account]

end Accounts

section Conclusion

variable {op : Operator} {config : ModuleConfig} {d : Declaration}
  {live : (kind : DerivedKind) → Option kind.collection.Object}

theorem Declaration.reasons_eq_nil_iff : d.reasons op live = [] ↔
    ∀ kind : DerivedKind, kind.reason (live kind) (kind.wanted op d) false = none := by
  simp only [Declaration.reasons, List.append_eq_nil_iff, Option.toList_eq_nil_iff]
  constructor
  · rintro ⟨⟨storageClass, secret⟩, snapshotClass⟩ kind
    cases kind with
    | storageClass => exact storageClass
    | secret => exact secret
    | snapshotClass => exact snapshotClass
  · exact fun quiet => ⟨⟨quiet .storageClass, quiet .secret⟩, quiet .snapshotClass⟩

/-- A pass ends in creation just when nothing stands against it. -/
theorem Declaration.conclusion_eq_created_iff : d.conclusion op config live = .created ↔
    config.validate op.tls d = .ok () ∧
      ∀ kind : DerivedKind, kind.reason (live kind) (kind.wanted op d) false = none := by
  rw [← Declaration.reasons_eq_nil_iff, Declaration.conclusion]
  cases accepted : config.validate op.tls d with
  | error violation => simp
  | ok _ => cases reasons : d.reasons op live <;> simp

theorem Declaration.reasons_ne_empty {text : String} (given : text ∈ d.reasons op live) :
    text ≠ "" := by
  simp only [Declaration.reasons, List.mem_append, Option.mem_toList] at given
  rcases given with (storageClass | secret) | snapshotClass
  · exact DerivedKind.ne_empty_of_reason storageClass
  · exact DerivedKind.ne_empty_of_reason secret
  · exact DerivedKind.ne_empty_of_reason snapshotClass

theorem Declaration.status_conclusion (other : d.conclusion op config live ≠ .created) :
    ∃ reason, reason ≠ "" ∧ (d.conclusion op config live).status? = some (.failed reason) := by
  unfold Declaration.conclusion at other ⊢
  split
  next violation _ =>
    refine ⟨_, String.append_ne_empty fun empty => ?_, rfl⟩
    have separator : ": " = "" := (String.append_eq_empty_iff.mp empty).2
    exact absurd separator (by decide)
  next accepted =>
    simp only [accepted] at other
    split
    next quiet => exact absurd (if_pos quiet) other
    next loud =>
      refine ⟨_, ?_, rfl⟩
      apply String.intercalate_ne_empty
      · exact fun none => loud (List.isEmpty_iff.mpr none)
      · exact fun text given => Declaration.reasons_ne_empty given

end Conclusion

section Settled

variable {op : Operator} {n : String} {d : Declaration} {k : Cluster}

theorem DeclarationPass.DerivedKind.AtRest.keep {kind : DerivedKind}
    {live : Option kind.collection.Object} {desired : kind.collection.Object} {deleting : Bool}
    (atRest : kind.AtRest live desired deleting) (quiet : kind.reason live desired deleting = none) :
    kind.action live desired deleting = .ok .keep :=
  atRest.resolve_right fun left => left quiet

theorem Settled.status_of_outlook {d' : Declaration} {l : Cluster} (settled : Settled op n d' l)
    (kept : l.outlook op n = k.outlook op n) (found : k.object? .declarations n = some d)
    (staying : d.isDeleting = false) :
    d'.status = (d.conclusion op k.config fun kind => k.derived kind n).status? := by
  have seen : (l.observed n).status = (k.outlook op n).status := by
    rw [settled.observed, kept]
  rw [Cluster.observed, settled.found, Cluster.outlook, found] at seen
  simpa only [Declaration.outlook, settled.staying, staying, Bool.false_eq_true, if_false,
    Option.bind_some] using seen

theorem Settled.conclusion_of_created {d' : Declaration} {l : Cluster} (settled : Settled op n d' l)
    (kept : l.outlook op n = k.outlook op n) (found : k.object? .declarations n = some d)
    (staying : d.isDeleting = false) (created : d'.phase? = some .created) :
    (d.conclusion op k.config fun kind => k.derived kind n) = .created := by
  refine Decidable.byContradiction fun other => ?_
  obtain ⟨reason, -, called⟩ := Declaration.status_conclusion other
  rw [Declaration.phase?, settled.status_of_outlook kept found staying, called] at created
  exact nomatch created

theorem Cluster.provides_of_keep
    (keep : ∀ kind : DerivedKind, kind.action (k.derived kind n) (kind.wanted op d) false =
      .ok .keep) : k.Provides op n d where
  storageClass := DerivedKind.storageClass_fulfils (keep .storageClass)
  secret := DerivedKind.secret_fulfils (keep .secret)
  snapshotClass := DerivedKind.snapshotClass_fulfils (keep .snapshotClass)

theorem Settled.created (settled : Settled op n d k) (created : d.phase? = some .created) :
    k.config.validate op.tls d = .ok () ∧ k.Provides op n d := by
  obtain ⟨accepted, quiet⟩ := Declaration.conclusion_eq_created_iff.mp
    (settled.conclusion_of_created rfl settled.found settled.staying created)
  exact ⟨accepted,
    Cluster.provides_of_keep fun kind => (settled.atRest accepted kind).keep (quiet kind)⟩

theorem Settled.failed (settled : Settled op n d k) (other : d.phase? ≠ some .created) :
    ∃ reason, reason ≠ "" ∧ d.status = some (.failed reason) := by
  rw [settled.status]
  refine Declaration.status_conclusion fun concluded => other ?_
  rw [Declaration.phase?, settled.status, concluded]
  rfl

/-- A pass that succeeds settles a declaration that stays. -/
theorem settled_of_ok (sound : k.Sound) (found : k.object? .declarations n = some d)
    (staying : d.isDeleting = false) {next : Next}
    (succeeds : ((DeclarationPass.reconcile op n).run.run .direct k).1 = .ok next)
    {d' : Declaration}
    (stored : ((DeclarationPass.reconcile op n).run.run .direct k).2.object? .declarations n =
      some d') : Settled op n d' ((DeclarationPass.reconcile op n).run.run .direct k).2 := by
  have ended : Pass.outcome _ _ ((DeclarationPass.reconcile op n).run.run .direct k).1 _ :=
    (alone_reconcile_of_staying sound found staying).run
  rw [succeeds] at ended
  obtain ⟨after, settled⟩ := ended
  obtain rfl := Option.some.inj (stored.symm.trans settled.found)
  exact settled

theorem exists_ok_of_serves (op : Operator) (sound : k.Sound)
    (found : k.object? .declarations n = some d) (staying : d.isDeleting = false)
    (serves : ∀ c verb, k.refused c verb = none) :
    ∃ next d', ((DeclarationPass.reconcile op n).run.run .direct k).1 = .ok next ∧
      Settled op n d' ((DeclarationPass.reconcile op n).run.run .direct k).2 := by
  have ended : Pass.outcome _ _ ((DeclarationPass.reconcile op n).run.run .direct k).1 _ :=
    (alone_reconcile_of_staying sound found staying).run
  cases result : ((DeclarationPass.reconcile op n).run.run .direct k).1 with
  | ok next =>
      rw [result] at ended
      obtain ⟨d', settled⟩ := ended
      exact ⟨next, d', rfl, settled⟩
  | error e =>
      rw [result] at ended
      obtain ⟨⟨c, verb, refuses⟩, -⟩ := ended
      rw [Program.refused_run] at refuses
      exact absurd (serves c verb) refuses

end Settled

/-- After every pass over a declaration that stays, whatever the server refused, the status says
what has come of it, and of a pass that failed the texts of the error and of its causes, the
outermost first; and only refusals, the configuration and foreign objects stand against its
creation. -/
theorem status_truthful (op : Operator) {k : Cluster} (reachable : k.Reachable) {n : String}
    {d : Declaration} (found : k.object? .declarations n = some d)
    (staying : d.isDeleting = false) :
    let passed := (DeclarationPass.reconcile op n).run.run .direct k
    let l := passed.2
    (∀ next, passed.1 = .ok next →
      ∃ d' : Declaration, l.object? .declarations n = some d' ∧
        (d'.phase? = some .created → Names.finalizer ∈ d'.metadata.finalizerList ∧
          l.config.validate op.tls d' = .ok () ∧ l.Provides op n d') ∧
        (d'.phase? ≠ some .created → ∃ reason, reason ≠ "" ∧
          d'.status = some (.failed reason))) ∧
    (∀ e, passed.1 = .error e → k.refused .declarations .get = none →
      k.refused .declarations .patchStatus = none →
      ∃ d' : Declaration, l.object? .declarations n = some d' ∧
        d'.status = some ⟨some .failed, some (": ".intercalate e.account)⟩) ∧
    ((∀ c verb, k.refused c verb = none) → k.config.validate op.tls d = .ok () →
      (∀ (kind : DerivedKind) object, k.derived kind n = some object →
        ¬ kind.Foreign object (kind.wanted op d)) →
      ∃ d' : Declaration, l.object? .declarations n = some d' ∧ d'.status = some .created) := by
  intro passed l
  have upheld : Alone op n _ _ (DeclarationPass.reconcile op n) k :=
    alone_reconcile_of_staying reachable.sound found staying
  have ended : Pass.outcome _ _ passed.1 l := upheld.run
  have refused : l.refused = k.refused := Program.refused_run _ k
  refine ⟨fun next ok => ?_, fun e error readable writable => ?_, fun serves accepted native => ?_⟩
  · rw [ok] at ended
    obtain ⟨d', settled⟩ := ended
    exact ⟨d', settled.found, fun created => ⟨settled.held, settled.created created⟩,
      settled.failed⟩
  · rw [error] at ended
    obtain ⟨-, told | unwritten | unread⟩ := ended
    · rw [DeclarationPass.Error.chain_eq] at told
      exact told
    · exact absurd (refused ▸ writable) unwritten
    · exact absurd (refused ▸ readable) unread
  · have concluded : d.conclusion op k.config (fun kind => k.derived kind n) = .created :=
      Declaration.conclusion_eq_created_iff.mpr
        ⟨accepted, fun kind => DerivedKind.reason_eq_none (native kind)⟩
    obtain ⟨next, d', -, settled⟩ :=
      exists_ok_of_serves op reachable.sound found staying serves
    have status := settled.status_of_outlook (Alone.outlook_run upheld) found staying
    rw [concluded] at status
    exact ⟨d', settled.found, status⟩

def dated : Cluster :=
  let declared : Cluster := Cluster.setStore {} .declarations (Store.ofList [
    { metadata := { name := some "a" }
      spec :=
        { connection := { host := "host", share := "/share", nfsVersion := .v41 }
          reclaimPolicy := .delete
          volumeBindingMode := .immediate } }])
  declared.setStore .storageClasses (Store.ofList [
    { metadata := { name := some "a", finalizers := some [Names.finalizer] }
      provisioner := Names.nfsDriver
      reclaimPolicy := some "Retain" }])

theorem reachable_dated : dated.Reachable := by
  refine .filled .storageClasses _ ?_ (.filled .declarations _ ?_ .empty)
  all_goals
    intro object membership
    obtain rfl := List.mem_singleton.mp membership
    exact nofun

/-- The storage class is made anew, and the declaration is called created because it is. -/
theorem status_truthful_dated :
    let l := ((DeclarationPass.reconcile {} "a").run.run .direct dated).2
    ∃ d : Declaration, l.object? .declarations "a" = some d ∧ d.status = some .created ∧
      l.Provides {} "a" d := by
  intro l
  have serves : ∀ c verb, dated.refused c verb = none := by
    intro c verb
    cases c <;> rfl
  have native : ∀ (kind : DerivedKind) object, dated.derived kind "a" = some object →
      ∀ desired, ¬ kind.Foreign object desired := by
    intro kind object present desired foreign
    cases kind with
    | storageClass =>
        obtain rfl := Option.some.inj present
        exact foreign rfl
    | secret => exact nomatch present
    | snapshotClass => exact nomatch present
  obtain ⟨succeeds, -, creates⟩ := status_truthful {} reachable_dated (n := "a") rfl rfl
  obtain ⟨d, stored, created⟩ :=
    creates serves rfl fun kind object present => native kind object present _
  obtain ⟨d', stored', truthful, -⟩ := succeeds .awaitChange rfl
  obtain rfl := Option.some.inj (stored.symm.trans stored')
  have phase : d.phase? = some .created := by
    rw [Declaration.phase?, created]
    rfl
  exact ⟨d, stored, created, (truthful phase).2.2⟩

end NfsStorage

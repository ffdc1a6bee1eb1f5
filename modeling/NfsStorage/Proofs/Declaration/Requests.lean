import NfsStorage.Proofs.Declaration.Outlook
import NfsStorage.Proofs.Derived.Backing
import NfsStorage.Proofs.Program.Asking

/-!
# The requests of a pass over a declaration

What a pass may ask for, from the first look at the declaration to the status in the end, whatever
it finds on its way and whatever is refused. The derived objects are asked for only if the
declaration is to go or the configuration that was read accepts it; so all that is made or renewed
is backed by the configuration.
-/

namespace NfsStorage

open DeclarationPass (DerivedKind)

namespace Request

inductive Derives (op : Operator) (d : Declaration) (kind : DerivedKind) : Request → Prop where
  | looked : Derives op d kind (.get kind.collection (Resource.name (kind.wanted op d)))
  | stripped :
      Derives op d kind
        (.patch kind.collection (Resource.name (kind.wanted op d)) (finalizersPatch []))
  | deleted : Derives op d kind (.delete kind.collection (Resource.name (kind.wanted op d)))
  | created : Derives op d kind (.create kind.collection (kind.wanted op d))
  | replaced (live : kind.collection.Object) :
      Derives op d kind (.replace kind.collection (Resource.name (kind.wanted op d))
        (DeclarationPass.updated live (kind.wanted op d)))

theorem Derives.collection_eq {op : Operator} {d : Declaration} {kind : DerivedKind} {r : Request}
    (derives : r.Derives op d kind) : r.collection = kind.collection := by
  cases derives <;> rfl

/-- The requests of a pass over a declaration. Those for derived objects come only when they are
`due`. -/
inductive Tends (op : Operator) (d : Declaration) (due : Prop) : Request → Prop where
  | configured : Tends op d due (.get .moduleConfigs ModuleConfig.singleton)
  | held (finalizers : List String) :
      Tends op d due (.patch .declarations d.name (finalizersPatch finalizers))
  | told (status : DeclarationStatus) :
      Tends op d due (.patchStatus .declarations d.name (.object [("status", encode status)]))
  | derived {r : Request} (kind : DerivedKind) (isDue : due) (derives : r.Derives op d kind) :
      Tends op d due r

end Request

namespace DeclarationPass

variable {op : Operator} {d : Declaration} {k : Cluster}

/-- Derived objects are dealt with in a pass that lets the declaration go, or that finds it accepted
by the configuration. -/
def Due (op : Operator) (d : Declaration) (k : Cluster) : Prop :=
  d.isDeleting = true ∨ k.config.validate op.tls d = .ok ()

/-- Something is true of a pass if it is true of its parts, the allowed requests among them. Every
request comes with an error that names the cause if it fails. -/
structure ByParts (holds : (α : Type) → Pass Error α → Cluster → Prop)
    (allowed : Request → Prop) : Prop where
  pure {α : Type} (a : α) {k : Cluster} : holds α (Pure.pure a) k
  bind {α β : Type} {x : Pass Error α} {f : α → Pass Error β} {k : Cluster} : holds α x k →
    (∀ a l, Pass.Succeeds x k a l → holds β (f a) l) → holds β (x >>= f) k
  request {r : Request} {failure : StoreError → Error} {k : Cluster} : allowed r →
    (∀ e, (failure e).cause? = some e) → holds r.Answer (Pass.request r failure) k

theorem byParts_asks {allowed : Request → Prop} :
    ByParts (fun _ => Pass.Asks allowed) allowed :=
  ⟨fun a => Pass.Asks.pure a, Pass.Asks.bind, fun isAllowed _ => Pass.Asks.request _ isAllowed⟩

namespace ByParts

variable {holds : (α : Type) → Pass Error α → Cluster → Prop}

theorem mono {allowed fewer : Request → Prop} (parts : ByParts holds allowed)
    (implied : ∀ r, fewer r → allowed r) : ByParts holds fewer :=
  ⟨parts.pure, parts.bind, fun isAllowed => parts.request (implied _ isAllowed)⟩

theorem request_then {allowed : Request → Prop} (parts : ByParts holds allowed) {α : Type}
    {r : Request} {failure : StoreError → Error} {x : Pass Error α} (isAllowed : allowed r)
    (caused : ∀ e, (failure e).cause? = some e) (rest : ∀ l, holds α x l) :
    holds α (do let _ ← Pass.request r failure; x) k :=
  parts.bind (parts.request isAllowed caused) fun _ l _ => rest l

section Derived

variable {kind : DerivedKind} (parts : ByParts holds (Request.Derives op d kind))
include parts

theorem stripFinalizers (live : Option kind.collection.Object) {failure : StoreError → Error}
    (caused : ∀ e, (failure e).cause? = some e) :
    holds Unit (DeclarationPass.stripFinalizers (Resource.name (kind.wanted op d)) live failure)
      k := by
  unfold DeclarationPass.stripFinalizers
  cases live with
  | none => exact parts.pure _
  | some object =>
      simp only
      split
      next => exact parts.pure _
      next => exact parts.request_then .stripped caused fun _ => parts.pure _

theorem apply (live : Option kind.collection.Object) (action : Action) :
    holds (Option String) (DeclarationPass.apply kind live (kind.wanted op d) action) k := by
  have created : ∀ (action : Action) (l : Cluster), holds (Option String) (do
      let _ ← Pass.request (.create kind.collection (kind.wanted op d))
        (.applyDerived action kind (Resource.name (kind.wanted op d)))
      return none) l :=
    fun action l => parts.request_then .created (fun _ => rfl) fun _ => parts.pure _
  unfold DeclarationPass.apply
  cases action with
  | keep => exact parts.pure _
  | skipForeign owner => exact parts.pure _
  | create => exact created _ _
  | updateInPlace =>
      cases live with
      | none => exact created _ _
      | some object =>
          exact parts.request_then (.replaced object) (fun _ => rfl) fun _ => parts.pure _
  | recreate =>
      refine parts.bind (parts.stripFinalizers live fun _ => rfl) fun _ _ _ => ?_
      exact parts.request_then .deleted (fun _ => rfl) fun _ => created _ _
  | delete =>
      refine parts.bind (parts.stripFinalizers live fun _ => rfl) fun _ _ _ => ?_
      exact parts.request_then .deleted (fun _ => rfl) fun _ => parts.pure _

theorem sync (deleting : Bool) :
    holds (Option String) (DeclarationPass.sync kind (kind.wanted op d) deleting) k := by
  unfold DeclarationPass.sync
  refine parts.bind (parts.request .looked fun _ => rfl) fun live _ _ => ?_
  cases kind.action live (kind.wanted op d) deleting with
  | ok action => exact parts.apply live action
  | error foreign => exact parts.pure _

end Derived

theorem syncDerived (parts : ByParts holds fun r => ∃ kind, r.Derives op d kind)
    (deleting : Bool) : holds (List String) (DeclarationPass.syncDerived op d deleting) k := by
  have each : ∀ (kind : DerivedKind) (l : Cluster),
      holds (Option String) (DeclarationPass.sync kind (kind.wanted op d) deleting) l :=
    fun kind l => (parts.mono fun _ derives => ⟨kind, derives⟩).sync deleting
  rw [syncDerived_eq]
  refine parts.bind (each .storageClass _) fun _ _ _ => ?_
  refine parts.bind (each .secret _) fun _ _ _ => ?_
  exact parts.bind (each .snapshotClass _) fun _ _ _ => parts.pure _

section Pass

variable {due : Prop} (parts : ByParts holds (Request.Tends op d due))
include parts

theorem derived (isDue : due) : ByParts holds fun r => ∃ kind, r.Derives op d kind :=
  parts.mono fun _ ⟨kind, derives⟩ => .derived kind isDue derives

theorem patchFinalizers (finalizers : List String) :
    holds Unit (DeclarationPass.patchFinalizers d.name finalizers) k :=
  parts.request_then (.held finalizers) (fun _ => rfl) fun _ => parts.pure _

/-- The configuration that a pass goes by is the one in the cluster. -/
theorem establish (accepted : k.config.validate op.tls d = .ok () → due) :
    holds Outcome (DeclarationPass.establish op d) k := by
  unfold DeclarationPass.establish
  refine parts.bind (parts.request .configured fun _ => rfl) fun found l looked => ?_
  obtain ⟨-, rfl, rfl⟩ := Pass.succeeds_get.mp looked
  simp only
  split
  next => exact parts.pure _
  next accepts =>
    exact parts.bind ((parts.derived (accepted accepts)).syncDerived false) fun _ _ _ =>
      parts.pure _

theorem updateStatus (status : DeclarationStatus) :
    holds Unit (DeclarationPass.updateStatus d status) k := by
  unfold DeclarationPass.updateStatus
  split
  next => exact parts.pure _
  next => exact parts.request_then (.told status) (fun _ => rfl) fun _ => parts.pure _

end Pass

end ByParts

theorem config_patchFinalizers {name : String} {finalizers : List String} {l : Cluster}
    (patched : Pass.Succeeds (patchFinalizers name finalizers) k () l) : l.config = k.config := by
  obtain ⟨answer, m, requested, done⟩ := Pass.succeeds_bind.mp patched
  obtain ⟨-, rfl⟩ := Pass.succeeds_pure.mp done
  have served := k.served (.patch .declarations name (finalizersPatch finalizers))
  rw [Pass.succeeds_request.mp requested] at served
  have elsewhere : Collection.moduleConfigs ≠ .declarations := nofun
  rw [Cluster.config, Cluster.object?, served.store_of_ne elsewhere]
  rfl

namespace ByParts

variable {holds : (α : Type) → Pass Error α → Cluster → Prop}
  (parts : ByParts holds (Request.Tends op d (Due op d k)))
include parts

theorem converge : holds Outcome (DeclarationPass.converge op d) k := by
  rw [converge_eq]
  split
  next =>
    refine parts.bind (parts.patchFinalizers _) fun _ l patched => ?_
    exact parts.establish fun accepted => Or.inr (config_patchFinalizers patched ▸ accepted)
  next => exact parts.establish Or.inr

theorem release (deleting : d.isDeleting = true) :
    holds Outcome (DeclarationPass.release op d) k := by
  unfold DeclarationPass.release
  refine parts.bind ((parts.derived (Or.inl deleting)).syncDerived true) fun _ _ _ => ?_
  simp only
  split
  next => exact parts.bind (parts.patchFinalizers _) fun _ _ _ => parts.pure _
  next => exact parts.pure _

theorem work :
    holds Outcome (if d.isDeleting then DeclarationPass.release op d
      else DeclarationPass.converge op d) k := by
  cases state : d.isDeleting with
  | true => exact parts.release state
  | false => exact parts.converge

end ByParts

theorem asks_reconcileFound (op : Operator) (d : Declaration) (k : Cluster) :
    Program.Asks (Request.Tends op d (Due op d k)) (reconcileFound op d) k := by
  unfold reconcileFound
  apply Program.Asks.bind byParts_asks.work
  generalize Program.run .direct _ k = ended
  cases called : statusAfter ended.1 with
  | none => exact fun _ sent => nomatch sent
  | some status =>
      exact Program.Asks.bind (byParts_asks.updateStatus status) fun _ sent => nomatch sent

theorem asks_reconcile (op : Operator) {n : String} (found : k.object? .declarations n = some d) :
    Pass.Asks (fun r => r = .get .declarations n ∨ r.Tends op d (Due op d k)) (reconcile op n)
      k := by
  unfold reconcile
  refine Pass.Asks.bind (Pass.Asks.request _ (Or.inl rfl)) fun read l looked => ?_
  obtain ⟨-, rfl, rfl⟩ := Pass.succeeds_get.mp looked
  rw [found]
  exact (asks_reconcileFound op d l).mono fun _ => Or.inr

end DeclarationPass

namespace Request

variable {op : Operator} {d : Declaration} {due : Prop} {r : Request}

/-- What a pass makes or renews passes on the options of the declaration. -/
theorem Tends.mountOptions_eq (tends : r.Tends op d due) {kind : DerivedKind}
    {object : kind.collection.Object}
    (makes : r = .create kind.collection object ∨
      ∃ name, r = .replace kind.collection name object) :
    due ∧ kind.mountOptions object = d.spec.mountOptionList op.tls := by
  rcases makes with rfl | ⟨name, rfl⟩
  · generalize same : Request.create kind.collection object = r at tends
    cases tends with
    | configured | held | told => cases same
    | derived other isDue derives =>
        cases derives with
        | looked | stripped | deleted | replaced => cases same
        | created =>
            obtain ⟨collection, object⟩ := Request.create.inj same
            obtain rfl := DerivedKind.collection_injective collection
            obtain rfl := eq_of_heq object
            exact ⟨isDue, kind.mountOptions_wanted op d⟩
  · generalize same : Request.replace kind.collection name object = r at tends
    cases tends with
    | configured | held | told => cases same
    | derived other isDue derives =>
        cases derives with
        | looked | stripped | deleted | created => cases same
        | replaced live =>
            obtain ⟨collection, -, object⟩ := Request.replace.inj same
            obtain rfl := DerivedKind.collection_injective collection
            obtain rfl := eq_of_heq object
            exact ⟨isDue, (kind.mountOptions_updated live _).trans (kind.mountOptions_wanted op d)⟩

theorem Tends.collection_ne (tends : r.Tends op d due) (notDue : ¬ due) (kind : DerivedKind) :
    r.collection ≠ kind.collection := by
  cases tends with
  | configured => cases kind <;> exact nofun
  | held | told => exact kind.collection_ne_declarations.symm
  | derived _ isDue => exact absurd isDue notDue

end Request

/-- Whatever is in the cluster and whatever is refused: a pass over a declaration that stays makes
and renews only objects whose mount options are backed by the configuration that it read. If the
configuration does not accept the declaration, the derived objects stay as they are, down to the
journals and versions of their stores. -/
theorem derived_backed (op : Operator) {k : Cluster} {n : String} {d : Declaration}
    (found : k.object? .declarations n = some d) (staying : d.isDeleting = false)
    (kind : DerivedKind) :
    let pass := (DeclarationPass.reconcile op n).run
    (∀ r ∈ pass.requests k, ∀ object,
      r = .create kind.collection object ∨ (∃ name, r = .replace kind.collection name object) →
      ∀ option ∈ kind.mountOptions object, Backs op.tls k.config option) ∧
    (k.config.validate op.tls d ≠ .ok () →
      (pass.run .direct k).2.store kind.collection = k.store kind.collection) := by
  have asks := DeclarationPass.asks_reconcile op found
  have staysDue : DeclarationPass.Due op d k → k.config.validate op.tls d = .ok () :=
    fun due => due.resolve_left (staying ▸ Bool.false_ne_true)
  constructor
  · intro r sent object makes option listed
    rcases asks r sent with rfl | tends
    · rcases makes with same | ⟨_, same⟩ <;> cases same
    · obtain ⟨due, options⟩ := tends.mountOptions_eq makes
      exact backs_of_validate (staysDue due) (options ▸ listed)
  · intro rejected
    apply Program.Asks.store_run
    refine Program.Asks.mono asks fun r allowed same => ?_
    rcases allowed with rfl | tends
    · rfl
    · exact absurd same (tends.collection_ne (fun due => rejected (staysDue due)) kind)

/-- A declaration that mounts version 3 with mutual TLS, and a configuration that has what it
takes. -/
def equipped : Cluster :=
  let declaration : Declaration :=
    { metadata := { name := some "a" }
      spec :=
        { connection :=
            { host := "host", share := "/share", nfsVersion := .v3, tls := true, mtls := true }
          reclaimPolicy := .delete
          volumeBindingMode := .immediate } }
  let config : ModuleConfig :=
    { metadata := { name := some ModuleConfig.singleton }
      spec :=
        { settings :=
            { v3support := some true
              tlsParameters := some ⟨some "ca", some ⟨some "certificate", some "key"⟩⟩ } } }
  (Cluster.setStore {} .declarations (Store.ofList [declaration])).setStore .moduleConfigs
    (Store.ofList [config])

def Request.makesSecretWith (option : String) : Request → Bool
  | .create .secrets object => (DerivedKind.secret.mountOptions object).contains option
  | _ => false

theorem derived_backed_equipped :
    ∃ r ∈ (DeclarationPass.reconcile {} "a").run.requests equipped,
      r.makesSecretWith "xprtsec=mtls" = true ∧ Backs true equipped.config "xprtsec=mtls" := by
  have sent : ((DeclarationPass.reconcile {} "a").run.requests equipped).any
      (Request.makesSecretWith "xprtsec=mtls") = true := by decide +kernel
  obtain ⟨r, membership, makes⟩ := List.any_eq_true.mp sent
  obtain ⟨d, found, staying⟩ : ∃ d : Declaration,
      equipped.object? .declarations "a" = some d ∧ d.isDeleting = false := ⟨_, rfl, rfl⟩
  refine ⟨r, membership, makes, ?_⟩
  have backed := (derived_backed {} found staying .secret).1 r membership
  unfold Request.makesSecretWith at makes
  split at makes
  next object => exact backed object (Or.inl rfl) _ (List.contains_iff_mem.mp makes)
  next => cases makes

end NfsStorage

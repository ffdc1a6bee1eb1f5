import NfsStorage.Proofs.Derived.Sync
import NfsStorage.Proofs.Program.Footprint
import NfsStorage.Controller.ModuleConfig

/-!
# What a pass may write

A pass over a declaration writes that declaration and the objects derived from it, and nothing else;
what belongs to one declaration does not belong to another. The pass over the configuration writes
storage classes, and of them the mark.
-/

namespace NfsStorage

open DeclarationPass (DerivedKind)

/-- The object under a name is the declaration `n` or has the name of one derived from it. -/
def Belongs (n : String) (c : Collection) (name : String) : Prop :=
  (c = .declarations ∧ name = n) ∨ ∃ kind : DerivedKind, c = kind.collection ∧ name = kind.nameOf n

theorem Belongs.eq {n m name : String} {c : Collection} (first : Belongs n c name)
    (second : Belongs m c name) : n = m := by
  rcases first with ⟨here, rfl⟩ | ⟨kind, here, named⟩
  · rcases second with ⟨-, same⟩ | ⟨other, there, -⟩
    · exact same
    · exact absurd (there.symm.trans here) other.collection_ne_declarations
  · rcases second with ⟨there, -⟩ | ⟨other, there, named'⟩
    · exact absurd (here.symm.trans there) kind.collection_ne_declarations
    · obtain rfl := DerivedKind.collection_injective (here.symm.trans there)
      exact kind.nameOf_injective (named.symm.trans named')

theorem Belongs.isManaged {n name : String} {c : Collection} (belongs : Belongs n c name) :
    c.isManaged = true := by
  rcases belongs with ⟨rfl, -⟩ | ⟨kind, rfl, -⟩
  · rfl
  · exact kind.isManaged_collection

theorem belongs_declaration (n : String) : Belongs n .declarations n := Or.inl ⟨rfl, rfl⟩

theorem belongs_derived (kind : DerivedKind) (n : String) :
    Belongs n kind.collection (kind.nameOf n) := Or.inr ⟨kind, rfl, rfl⟩

namespace Request

def Within (n : String) (r : Request) : Prop :=
  ∀ name, r.writes? = some name → Belongs n r.collection name

def Marks (r : Request) : Prop :=
  r.writes? = none ∨
    ∃ name mismatch, r = .patch .storageClasses name (ModuleConfigPass.mismatchPatch mismatch)

theorem within_of_reads {n : String} {r : Request} (reads : r.writes? = none) : r.Within n :=
  fun _ written => nomatch reads.symm.trans written

end Request

/-- From one cluster to the other nothing has changed in some places. -/
structure SameOn (places : Collection → String → Prop) (k l : Cluster) : Prop where
  sound : k.Sound → l.Sound
  refused : l.refused = k.refused
  object? : ∀ {c name}, places c name → l.object? c name = k.object? c name

/-- The places that a pass over the declaration looks at. -/
def Regards (n : String) (c : Collection) (name : String) : Prop :=
  Belongs n c name ∨ c = .moduleConfigs ∧ name = ModuleConfig.singleton

/-- From one cluster to the other nothing has changed that a pass over the declaration looks at. -/
abbrev Spared (n : String) : Cluster → Cluster → Prop := SameOn (Regards n)

/-- From one cluster to the other nothing has changed but what belongs to the declaration. -/
abbrev Confined (n : String) : Cluster → Cluster → Prop :=
  SameOn fun c name => ¬ Belongs n c name

namespace SameOn

variable {places fewer : Collection → String → Prop} {k l m : Cluster}

theorem refl (places : Collection → String → Prop) (k : Cluster) : SameOn places k k :=
  ⟨id, rfl, fun _ => rfl⟩

theorem trans (first : SameOn places k l) (second : SameOn places l m) : SameOn places k m where
  sound := second.sound ∘ first.sound
  refused := second.refused.trans first.refused
  object? place := (second.object? place).trans (first.object? place)

theorem mono (same : SameOn places k l) (narrower : ∀ {c name}, fewer c name → places c name) :
    SameOn fewer k l :=
  ⟨same.sound, same.refused, fun place => same.object? (narrower place)⟩

theorem withClock (k : Cluster) {clock : Time} (valid : clock.Valid) :
    SameOn places k { k with clock } where
  sound sound := sound.of_same valid fun c _ => k.object?_withClock clock c
  refused := by
    funext c
    cases c <;> rfl
  object? _ := k.object?_withClock clock _ _

theorem served {r : Request} {answer : Except StoreError r.Answer} (served : k.Served r answer l)
    (elsewhere : ∀ name, r.writes? = some name → ¬ places r.collection name) :
    SameOn places k l where
  sound sound := sound.served served
  refused := served.refused
  object? place := served.object? fun same written => elsewhere _ written (same ▸ place)

end SameOn

namespace Spared

variable {n : String} {k l : Cluster}

theorem own (spared : Spared n k l) {c : Collection} {name : String} (belongs : Belongs n c name) :
    l.object? c name = k.object? c name := spared.object? (Or.inl belongs)

theorem config (spared : Spared n k l) : l.object? .moduleConfigs ModuleConfig.singleton =
    k.object? .moduleConfigs ModuleConfig.singleton := spared.object? (Or.inr ⟨rfl, rfl⟩)

end Spared

theorem Regards.not_belongs {n m name : String} {c : Collection} (different : n ≠ m)
    (regards : Regards n c name) : ¬ Belongs m c name := by
  intro belongs
  rcases regards with own | ⟨rfl, -⟩
  · exact different (own.eq belongs)
  · exact nomatch belongs.isManaged

/-- What is done to one declaration spares the others. -/
theorem Confined.spared {n m : String} {k l : Cluster} (different : n ≠ m)
    (confined : Confined m k l) : Spared n k l :=
  confined.mono fun regards => regards.not_belongs different

theorem confined_of_within {n : String} {k l : Cluster} {r : Request}
    {answer : Except StoreError r.Answer} (within : r.Within n) (served : k.Served r answer l) :
    Confined n k l :=
  .served served fun name written => not_not_intro (within name written)

/-- The finalizers that a pass gives a declaration that was read: without its own once the
declaration is to go, and with it before. -/
def Declaration.revised (d : Declaration) : List String :=
  if d.isDeleting then d.metadata.finalizerList.filter (· ≠ Names.finalizer)
  else d.metadata.finalizerList ++ [Names.finalizer]

namespace Request

/-- The request is about the derived objects of a kind, and writes at most the one of a
declaration. -/
structure Concerns (kind : DerivedKind) (n : String) (r : Request) : Prop where
  collection : r.collection = kind.collection
  own : ∀ name, r.writes? = some name → name = kind.nameOf n

/-- The requests of a pass over a declaration that was read. -/
inductive Serves (d : Declaration) : Request → Prop where
  | configured : Serves d (.get .moduleConfigs ModuleConfig.singleton)
  | held : Serves d (.patch .declarations d.name (finalizersPatch d.revised))
  | told (phase : Phase) (reason : String) :
      Serves d (.patchStatus .declarations d.name (.object [("status",
        encode (⟨some phase, some reason⟩ : DeclarationStatus))]))
  | derived {r : Request} (kind : DerivedKind) (concerns : r.Concerns kind d.name) : Serves d r

theorem Concerns.of_writes {kind : DerivedKind} {n : String} {r : Request}
    (collection : r.collection = kind.collection) (written : r.writes? = some (kind.nameOf n)) :
    r.Concerns kind n where
  collection := collection
  own _ same := Option.some.inj (same.symm.trans written)

theorem Concerns.of_reads {kind : DerivedKind} {n : String} {r : Request}
    (collection : r.collection = kind.collection) (reads : r.writes? = none) :
    r.Concerns kind n where
  collection := collection
  own _ same := nomatch reads.symm.trans same

theorem Serves.within {d : Declaration} {r : Request} (serves : r.Serves d) : r.Within d.name := by
  intro name written
  cases serves with
  | configured => cases written
  | held =>
      obtain rfl := Option.some.inj written
      exact belongs_declaration _
  | told =>
      obtain rfl := Option.some.inj written
      exact belongs_declaration _
  | derived kind concerns =>
      rw [concerns.collection, concerns.own name written]
      exact belongs_derived kind _

end Request

section Declaration

variable {op : Operator} {n : String} {d : Declaration}

open Pass (Sends)

section Derived

variable {kind : DerivedKind}

abbrev KeepsTo {ε α : Type} (kind : DerivedKind) (n : String) (x : Pass ε α) : Prop :=
  Sends (Request.Concerns kind n) (fun _ => True) x

theorem keepsTo_stripFinalizers (live : Option kind.collection.Object)
    (failure : StoreError → DeclarationPass.Error) :
    KeepsTo kind n (DeclarationPass.stripFinalizers (kind.nameOf n) live failure) := by
  unfold DeclarationPass.stripFinalizers
  cases live with
  | none => exact Sends.pure trivial
  | some object =>
      simp only
      split
      next => exact Sends.pure trivial
      next => exact Sends.request_then (.of_writes rfl rfl) (Sends.pure trivial)

theorem keepsTo_apply {live : Option kind.collection.Object} {desired : kind.collection.Object}
    (named : Resource.name desired = kind.nameOf n) (action : Action) :
    KeepsTo kind n (DeclarationPass.apply kind live desired action) := by
  have created : ∀ failure : StoreError → DeclarationPass.Error,
      KeepsTo kind n (do
        let _ ← Pass.request (.create kind.collection desired) failure
        return none : Pass DeclarationPass.Error (Option String)) :=
    fun failure =>
      Sends.request_then (.of_writes rfl (congrArg some named)) (Sends.pure trivial)
  unfold DeclarationPass.apply
  generalize same : Resource.name desired = name at named
  subst named
  cases action with
  | keep => exact Sends.pure trivial
  | skipForeign owner => exact Sends.pure trivial
  | create => exact created _
  | updateInPlace =>
      cases live with
      | none => exact created _
      | some object => exact Sends.request_then (.of_writes rfl rfl) (Sends.pure trivial)
  | recreate =>
      apply Sends.bind
      refine (keepsTo_stripFinalizers live _).mono fun _ _ => ?_
      exact Sends.request_then (.of_writes rfl rfl) (created _)
  | delete =>
      apply Sends.bind
      refine (keepsTo_stripFinalizers live _).mono fun _ _ => ?_
      exact Sends.request_then (.of_writes rfl rfl) (Sends.pure trivial)

theorem keepsTo_sync {desired : kind.collection.Object}
    (named : Resource.name desired = kind.nameOf n) (deleting : Bool) :
    KeepsTo kind n (DeclarationPass.sync kind desired deleting) := by
  unfold DeclarationPass.sync
  apply Sends.bind
  refine Sends.request (.of_reads rfl rfl) fun live _ => ?_
  cases kind.action live desired deleting with
  | ok action => exact keepsTo_apply named action
  | error foreign => exact Sends.pure trivial

end Derived

abbrev KeepsServing {ε α : Type} (d : Declaration) (x : Pass ε α) : Prop :=
  Sends (Request.Serves d) (fun _ => True) x

theorem serves_syncDerived (deleting : Bool) :
    KeepsServing d (DeclarationPass.syncDerived op d deleting) := by
  have each : ∀ kind : DerivedKind, KeepsServing d
      (DeclarationPass.sync kind (kind.desired (d.derive op.tls op.namespace)) deleting) :=
    fun kind => (keepsTo_sync (kind.name_desired _ _ _) deleting).weaken fun _ => .derived kind
  rw [DeclarationPass.syncDerived_eq]
  apply Sends.bind
  refine (each .storageClass).mono fun _ _ => ?_
  apply Sends.bind
  refine (each .secret).mono fun _ _ => ?_
  apply Sends.bind
  exact (each .snapshotClass).mono fun _ _ => Sends.pure trivial

theorem serves_patchFinalizers {finalizers : List String} (revised : finalizers = d.revised) :
    KeepsServing d (DeclarationPass.patchFinalizers d.name finalizers) := by
  subst revised
  exact Sends.request_then .held (Sends.pure trivial)

theorem serves_converge (staying : d.isDeleting = false) :
    KeepsServing d (DeclarationPass.converge op d) := by
  have afterwards : KeepsServing d (DeclarationPass.establish op d) := by
    apply Sends.bind
    refine Sends.request .configured fun found _ => ?_
    simp only
    split
    next => exact Sends.pure trivial
    next =>
      apply Sends.bind
      exact (serves_syncDerived false).mono fun _ _ => Sends.pure trivial
  have revised : d.metadata.finalizerList ++ [Names.finalizer] = d.revised := by
    rw [Declaration.revised, staying]
    rfl
  rw [DeclarationPass.converge_eq]
  split
  next =>
    apply Sends.bind
    exact (serves_patchFinalizers revised).mono fun _ _ => afterwards
  next => exact afterwards

theorem serves_release (leaving : d.isDeleting = true) :
    KeepsServing d (DeclarationPass.release op d) := by
  have revised : d.metadata.finalizerList.filter (· ≠ Names.finalizer) = d.revised := by
    rw [Declaration.revised, leaving]
    rfl
  unfold DeclarationPass.release
  apply Sends.bind
  refine (serves_syncDerived true).mono fun _ _ => ?_
  simp only
  split
  next =>
    apply Sends.bind
    exact (serves_patchFinalizers revised).mono fun _ _ => Sends.pure trivial
  next => exact Sends.pure trivial

theorem serves_updateStatus {status : DeclarationStatus}
    (whole : ∃ phase reason, status = ⟨some phase, some reason⟩) :
    KeepsServing d (DeclarationPass.updateStatus d status) := by
  obtain ⟨phase, reason, rfl⟩ := whole
  unfold DeclarationPass.updateStatus
  split
  next => exact Sends.pure trivial
  next => exact Sends.request_then (.told phase reason) (Sends.pure trivial)

theorem serves_reconcileFound (op : Operator) (d : Declaration) :
    Program.Sends (Request.Serves d) (fun _ => True) (DeclarationPass.reconcileFound op d) := by
  have worked : KeepsServing d (if d.isDeleting then DeclarationPass.release op d
      else DeclarationPass.converge op d) := by
    cases state : d.isDeleting with
    | true => exact serves_release state
    | false => exact serves_converge state
  unfold DeclarationPass.reconcileFound
  apply Program.Sends.bind
  refine Program.Sends.mono worked fun result _ => ?_
  cases called : DeclarationPass.statusAfter result with
  | none => trivial
  | some status =>
      apply Program.Sends.bind
      exact Program.Sends.mono
        (serves_updateStatus (DeclarationPass.statusAfter_eq_some called)) fun _ _ => trivial

/-- A pass over a declaration keeps within what belongs to it. -/
theorem keepsWithin_reconcile (op : Operator) (n : String) :
    Sends (Request.Within n) (fun _ => True) (DeclarationPass.reconcile op n) := by
  unfold DeclarationPass.reconcile
  apply Sends.bind
  refine Sends.request (r := .get .declarations n) (Request.within_of_reads rfl)
    fun found named => ?_
  cases found with
  | none => exact Sends.pure trivial
  | some d =>
      have named : d.name = n := named rfl
      have serves := (serves_reconcileFound op d).weaken fun _ => Request.Serves.within
      rw [named] at serves
      exact serves.mono fun _ _ _ _ => trivial

end Declaration

section ModuleConfig

open Pass (Sends)

variable {op : Operator}

theorem sends_checkDeclaration {config : ModuleConfig} {classes : Dict StorageClass}
    {d : Declaration} : Sends Request.Marks (fun _ => True)
      (ModuleConfigPass.checkDeclaration op config classes d) := by
  unfold ModuleConfigPass.checkDeclaration ModuleConfigPass.setMark
  split
  next => exact fun _ _ => trivial
  next =>
    split
    next => exact Sends.pure trivial
    next =>
      split
      next => exact Sends.pure trivial
      next => exact Sends.request_then (Or.inr ⟨_, _, rfl⟩) (Sends.pure trivial)

theorem sends_checkAll {config : ModuleConfig} {classes : Dict StorageClass}
    (declarations : List Declaration) :
    Program.Sends Request.Marks (fun _ => True)
      (ModuleConfigPass.checkAll op config classes declarations) := by
  induction declarations with
  | nil => trivial
  | cons d rest inductionHypothesis =>
      apply Program.Sends.bind
      refine Program.Sends.mono sends_checkDeclaration fun _ _ => ?_
      apply Program.Sends.bind
      exact Program.Sends.mono inductionHypothesis fun _ _ => trivial

/-- The pass over the configuration writes nothing but marks. -/
theorem sends_moduleConfig (op : Operator) (name : String) :
    Sends Request.Marks (fun _ => True) (ModuleConfigPass.reconcile op name) := by
  unfold ModuleConfigPass.reconcile
  apply Sends.bind
  refine Sends.request (Or.inl rfl) fun found _ => ?_
  apply Sends.bind
  refine Sends.request (Or.inl rfl) fun declarations _ => ?_
  apply Sends.bind
  refine Sends.request (Or.inl rfl) fun listed _ => ?_
  apply Sends.bind
  apply Program.Sends.bind
  exact Program.Sends.mono (sends_checkAll _) fun errors _ _ _ _ _ => trivial

end ModuleConfig

end NfsStorage

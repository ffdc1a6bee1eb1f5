import NfsStorage.Proofs.Declaration.Alike
import NfsStorage.Proofs.Program.Success

/-!
# Passes in step with one another

A pass over a declaration that works among others does the same as one that is alone, as long as the
others spare the declaration. Step by step the two send requests that differ in a version at most,
and are answered alike.
-/

namespace NfsStorage

open DeclarationPass (DerivedKind)

section Rules

variable {α β ε : Type} {n : String} {k k' : Cluster}

/-- Among others who spare the declaration, the first program comes to the same end from one cluster
as the second one, alone, from the other. -/
def Program.Follows (n : String) (p p' : Program α) (k k' : Cluster) : Prop :=
  p.Upholds (Spared n) (fun _ _ => True)
    (fun a l => a = (p'.run .direct k').1 ∧ Alike n l (p'.run .direct k').2) k

theorem Program.Follows.pure (a : α) (alike : Alike n k k') : Follows n (pure a) (pure a) k k' :=
  ⟨rfl, alike⟩

theorem Program.Follows.bind {p p' : Program α} {f f' : α → Program β} (first : Follows n p p' k k')
    (rest : ∀ a {l l'}, Alike n l l' → Follows n (f a) (f' a) l l') :
    Follows n (p >>= f) (p' >>= f') k k' := by
  apply Upholds.bind
  apply first.mono
  rintro a l ⟨rfl, alike⟩
  rw [run_bind]
  exact rest _ alike

namespace Pass

def Follows (n : String) (x x' : Pass ε α) (k k' : Cluster) : Prop :=
  Program.Follows n (ExceptT.run x) (ExceptT.run x') k k'

/-- A pass that is followed by itself from whatever looks alike. -/
def Steady (n : String) (x : Pass ε α) : Prop := ∀ {k k'}, Alike n k k' → Follows n x x k k'

namespace Follows

theorem pure (a : α) (alike : Alike n k k') : Follows n (pure a : Pass ε α) (pure a) k k' :=
  Program.Follows.pure _ alike

theorem bind {x x' : Pass ε α} {f f' : α → Pass ε β} (first : Follows n x x' k k')
    (rest : ∀ a {l l'}, Alike n l l' → Follows n (f a) (f' a) l l') :
    Follows n (x >>= f) (x' >>= f') k k' := by
  apply Program.Follows.bind first
  intro result l l' alike
  cases result with
  | ok a => exact rest a alike
  | error e => exact Program.Follows.pure _ alike

theorem request {r r' : Request} {failure : StoreError → ε} {f : r.Answer → Pass ε α}
    {f' : r'.Answer → Pass ε α} (same : ∀ l, Spared n k l → SameEffect n l k' r r')
    (rest : ∀ l a a', Spared n k l → (l.serve r).1 = .ok a → (k'.serve r').1 = .ok a' →
      Alike n (l.serve r).2 (k'.serve r').2 →
        Follows n (f a) (f' a') (l.serve r).2 (k'.serve r').2) :
    Follows n (Pass.request r failure >>= f) (Pass.request r' failure >>= f') k k' := by
  intro l spared
  refine ⟨trivial, ?_⟩
  change Program.Follows n (ExceptT.bindCont f ((l.serve r).1.mapError failure))
    (ExceptT.bindCont f' ((k'.serve r').1.mapError failure)) (l.serve r).2 (k'.serve r').2
  have alike := (same l spared).2
  rcases (same l spared).answers with ⟨e, failed, failed'⟩ | ⟨a, a', answer, answer'⟩
  · rw [failed, failed']
    exact Program.Follows.pure _ alike
  · rw [answer, answer']
    exact rest l a a' spared answer answer' alike

theorem request_then {r r' : Request} {failure : StoreError → ε} {x x' : Pass ε α}
    (same : ∀ l, Spared n k l → SameEffect n l k' r r')
    (rest : ∀ {l l'}, Alike n l l' → Follows n x x' l l') :
    Follows n (do let _ ← Pass.request r failure; x)
      (do let _ ← Pass.request r' failure; x') k k' :=
  request same fun _ _ _ _ _ _ alike => rest alike

theorem get {c : Collection} {name : String} {failure : StoreError → ε}
    {f f' : Option c.Object → Pass ε α} (alike : Alike n k k')
    (rest : ∀ l, Spared n k l →
      Follows n (f (l.object? c name)) (f' (k'.object? c name)) l k') :
    Follows n (Pass.request (.get c name) failure >>= f)
      (Pass.request (.get c name) failure >>= f') k k' := by
  have read : ∀ {k : Cluster} {a : Option c.Object}, (k.serve (.get c name)).1 = .ok a →
      a = k.object? c name := by
    intro k a answer
    have served : k.serve (.get c name) = (.ok a, k) := Prod.ext answer rfl
    exact (Cluster.serve_get_eq_ok_iff.mp served).2.1
  refine request (fun l spared => (alike.spared spared).effect_get c name) ?_
  intro l a a' spared answer answer' _
  obtain rfl := read answer
  obtain rfl := read answer'
  exact rest l spared

end Follows

end Pass

end Rules

section Passes

open Pass (Follows Steady)

variable {op : Operator} {n : String} {k k' : Cluster} {d : Declaration}

theorem follows_stripFinalizers {kind : DerivedKind} {live live' : Option kind.collection.Object}
    {failure : StoreError → DeclarationPass.Error} (alike : Alike n k k')
    (same : live.map Resource.timeless = live'.map Resource.timeless) :
    Follows n (DeclarationPass.stripFinalizers (kind.nameOf n) live failure)
      (DeclarationPass.stripFinalizers (kind.nameOf n) live' failure) k k' := by
  cases live with
  | none =>
      obtain rfl : live' = none := Option.map_eq_none_iff.mp same.symm
      exact Follows.pure _ alike
  | some object =>
      obtain ⟨other, rfl, sameObject⟩ := Option.map_eq_some_iff.mp same.symm
      simp only [DeclarationPass.stripFinalizers, Resource.finalizerList_congr sameObject]
      split
      next => exact Follows.pure _ alike
      next =>
        refine Follows.request_then (fun l spared => ?_) fun alike => Follows.pure _ alike
        exact (alike.spared spared).effect_finalizers (belongs_derived kind n) []

theorem follows_apply {kind : DerivedKind} {desired : kind.collection.Object}
    (alike : Alike n k k') (named : Resource.name desired = kind.nameOf n) (action : Action) :
    Follows n (DeclarationPass.apply kind (k.derived kind n) desired action)
      (DeclarationPass.apply kind (k'.derived kind n) desired action) k k' := by
  have own := belongs_derived kind n
  have created : ∀ {failure : StoreError → DeclarationPass.Error}, Steady n (do
      let _ ← Pass.request (.create kind.collection desired) failure
      return none : Pass DeclarationPass.Error (Option String)) := by
    intro failure k k' alike
    refine Follows.request_then (fun l spared => ?_) fun alike => Follows.pure _ alike
    refine (alike.spared spared).effect_create ?_
    rw [named]
    exact own
  unfold DeclarationPass.apply
  generalize same : Resource.name desired = name at named
  subst named
  cases action with
  | keep => exact Follows.pure _ alike
  | skipForeign owner => exact Follows.pure _ alike
  | create => exact created alike
  | updateInPlace =>
      rcases alike.found own with ⟨absent, absent'⟩ | ⟨object, other, found, found', -⟩
      · rw [Cluster.derived, absent, Cluster.derived, absent']
        exact created alike
      · rw [Cluster.derived, found, Cluster.derived, found']
        refine Follows.request_then (fun l spared => ?_) fun alike => Follows.pure _ alike
        exact (alike.spared spared).effect_replace own ((spared.own own).trans found) found'
  | recreate =>
      refine (follows_stripFinalizers alike (alike.own own)).bind fun _ _ _ alike => ?_
      refine Follows.request_then (fun l spared => ?_) fun alike => created alike
      exact (alike.spared spared).effect_delete own
  | delete =>
      refine (follows_stripFinalizers alike (alike.own own)).bind fun _ _ _ alike => ?_
      refine Follows.request_then (fun l spared => ?_) fun alike => Follows.pure _ alike
      exact (alike.spared spared).effect_delete own

theorem steady_sync {kind : DerivedKind} {desired : kind.collection.Object}
    (named : Resource.name desired = kind.nameOf n) (deleting : Bool) :
    Steady n (DeclarationPass.sync kind desired deleting) := by
  intro k k' alike
  unfold DeclarationPass.sync
  refine Follows.get alike fun l spared => ?_
  have alike := alike.spared spared
  have judged : kind.action (l.object? kind.collection (kind.nameOf n)) desired deleting =
      kind.action (k'.object? kind.collection (kind.nameOf n)) desired deleting :=
    kind.action_congr (alike.own (belongs_derived kind n)) desired deleting
  rw [named, judged]
  cases kind.action (k'.object? kind.collection (kind.nameOf n)) desired deleting with
  | ok action => exact follows_apply alike named action
  | error foreign => exact Follows.pure _ alike

theorem steady_syncDerived (named : d.name = n) (deleting : Bool) :
    Steady n (DeclarationPass.syncDerived op d deleting) := by
  have each : ∀ kind : DerivedKind, Steady n
      (DeclarationPass.sync kind (kind.desired (d.derive op.tls op.namespace)) deleting) := by
    intro kind
    apply steady_sync
    rw [kind.name_desired, named]
  intro k k' alike
  rw [DeclarationPass.syncDerived_eq]
  refine (each .storageClass alike).bind fun fromClass _ _ alike => ?_
  refine (each .secret alike).bind fun fromSecret _ _ alike => ?_
  refine (each .snapshotClass alike).bind fun fromSnapshotClass _ _ alike => ?_
  exact Follows.pure _ alike

theorem steady_patchFinalizers (finalizers : List String) :
    Steady n (DeclarationPass.patchFinalizers n finalizers) := by
  intro k k' alike
  refine Follows.request_then (fun l spared => ?_) fun alike => Follows.pure _ alike
  exact (alike.spared spared).effect_finalizers (belongs_declaration n) finalizers

theorem steady_converge (named : d.name = n) : Steady n (DeclarationPass.converge op d) := by
  have afterwards : Steady n (DeclarationPass.establish op d) := by
    intro k k' alike
    refine Follows.get alike fun l spared => ?_
    have alike := alike.spared spared
    rw [alike.config]
    simp only
    split
    next => exact Follows.pure _ alike
    next =>
      exact (steady_syncDerived named false alike).bind fun _ _ _ alike => Follows.pure _ alike
  intro k k' alike
  rw [DeclarationPass.converge_eq]
  split
  next =>
    rw [named]
    exact (steady_patchFinalizers _ alike).bind fun _ _ _ alike => afterwards alike
  next => exact afterwards alike

theorem steady_release (named : d.name = n) : Steady n (DeclarationPass.release op d) := by
  intro k k' alike
  unfold DeclarationPass.release
  refine (steady_syncDerived named true alike).bind fun _ _ _ alike => ?_
  simp only
  split
  next =>
    rw [named]
    exact (steady_patchFinalizers _ alike).bind fun _ _ _ alike => Follows.pure _ alike
  next => exact Follows.pure _ alike

theorem steady_updateStatus (named : d.name = n) (phase : Phase) (reason : String) :
    Steady n (DeclarationPass.updateStatus d ⟨some phase, some reason⟩) := by
  intro k k' alike
  unfold DeclarationPass.updateStatus
  split
  next => exact Follows.pure _ alike
  next =>
    rw [named]
    refine Follows.request_then (fun l spared => ?_) fun alike => Follows.pure _ alike
    exact (alike.spared spared).effect_status phase reason

theorem follows_reconcileFound (named : d.name = n) (alike : Alike n k k') :
    Program.Follows n (DeclarationPass.reconcileFound op d)
      (DeclarationPass.reconcileFound op d) k k' := by
  have worked : Steady n (if d.isDeleting then DeclarationPass.release op d
      else DeclarationPass.converge op d) := by
    split
    next => exact steady_release named
    next => exact steady_converge named
  unfold DeclarationPass.reconcileFound
  refine Program.Follows.bind (worked alike) fun result _ _ alike => ?_
  cases called : DeclarationPass.statusAfter result with
  | none => exact Program.Follows.pure _ alike
  | some status =>
      obtain ⟨phase, reason, rfl⟩ := DeclarationPass.statusAfter_eq_some called
      exact Program.Follows.bind (steady_updateStatus named phase reason alike)
        fun _ _ _ alike => Program.Follows.pure _ alike

/-- What a pass does with a declaration that it found does not depend on its version, nor on when
its deletion was asked for. -/
theorem DeclarationPass.reconcileFound_congr {d' : Declaration}
    (same : Resource.timeless d = Resource.timeless d') :
    reconcileFound op d = reconcileFound op d' := by
  have each : ∀ d : Declaration, reconcileFound op (Resource.timeless d) = reconcileFound op d := by
    intro d
    have deleting : (Resource.timeless d).isDeleting = d.isDeleting :=
      Metadata.isDeleting_timeless d.metadata
    unfold reconcileFound
    rw [deleting]
    rfl
  rw [← each, same, each]

/-- A pass over a declaration is steady: from clusters that look alike it comes to the same end. -/
theorem steady_reconcile (op : Operator) (n : String) :
    Steady n (DeclarationPass.reconcile op n) := by
  intro k k' alike
  have own := belongs_declaration n
  unfold DeclarationPass.reconcile
  refine Follows.get alike fun l spared => ?_
  have alike := alike.spared spared
  rcases alike.found own with ⟨absent, absent'⟩ | ⟨d, d', found, found', same⟩
  · rw [absent, absent']
    exact Follows.pure _ alike
  · rw [found, found']
    have named : d'.name = n := (alike.sound'.tidy rfl).named found'
    change Program.Follows n (DeclarationPass.reconcileFound op d)
      (DeclarationPass.reconcileFound op d') l k'
    rw [DeclarationPass.reconcileFound_congr same]
    exact follows_reconcileFound named alike

end Passes

end NfsStorage

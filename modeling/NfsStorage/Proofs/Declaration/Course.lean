import NfsStorage.Proofs.Declaration.Outlook

/-!
# The course of a pass

A pass that has the cluster to itself brings one derived object after the other to rest. Wherever it
fails, because the server refuses a request, the outlook is the one that it began with: what it has
done up to there is what the next pass would have done.
-/

namespace NfsStorage

open DeclarationPass (DerivedKind)

def Cluster.Refuses (k : Cluster) : Prop := ∃ c verb, k.refused c verb ≠ none

/-- The pass over a declaration has the cluster to itself, and keeps the outlook. -/
abbrev Alone {ε α : Type} (op : Operator) (n : String) (ok : α → Cluster → Prop)
    (failed : ε → Cluster → Prop) (x : Pass ε α) (k : Cluster) : Prop :=
  Pass.Upholds Eq (fun k l => l.outlook op n = k.outlook op n) ok failed x k

theorem Alone.outlook_run {ε α : Type} {op : Operator} {n : String} {ok : α → Cluster → Prop}
    {failed : ε → Cluster → Prop} {x : Pass ε α} {k : Cluster} (alone : Alone op n ok failed x k) :
    (x.run.run .direct k).2.outlook op n = k.outlook op n := by
  refine Program.Upholds.run_guarantee ?_ ?_ alone
  · exact fun k => rfl
  · exact fun first second => second.trans first

/-- From one cluster to another only the derived object of one kind has changed. -/
structure Beside (kind : DerivedKind) (n : String) (k l : Cluster) : Prop where
  sound : l.Sound
  declaration : l.object? .declarations n = k.object? .declarations n
  config : l.config = k.config
  others : ∀ other, other ≠ kind → l.derived other n = k.derived other n

/-- The derived objects of a declaration are due to be brought to their form, or to be deleted. -/
structure Due (op : Operator) (n : String) (d : Declaration) (k : Cluster) : Prop where
  sound : k.Sound
  named : d.name = n
  found : ∃ d' : Declaration, k.object? .declarations n = some d' ∧ d'.spec = d.spec ∧
    d'.isDeleting = d.isDeleting
  accepted : d.isDeleting = true ∨ k.config.validate op.tls d = .ok ()

/-- The object is gone, or is not going to stay. -/
def DeclarationPass.DerivedKind.Bygone (kind : DerivedKind)
    (live : Option kind.collection.Object) (desired : kind.collection.Object)
    (deleting : Bool) : Prop :=
  live = none ∨ kind.action live desired deleting = .ok (if deleting then .delete else .recreate)

section Course

variable {op : Operator} {n : String} {d : Declaration} {k l m : Cluster} {kind : DerivedKind}
  {failure : StoreError → DeclarationPass.Error}

theorem DeclarationPass.DerivedKind.settle_of_bygone {live : Option kind.collection.Object}
    {desired : kind.collection.Object} {deleting : Bool}
    (bygone : kind.Bygone live desired deleting) :
    kind.settle live desired deleting = if deleting then none else some desired := by
  unfold DerivedKind.settle
  rcases bygone with rfl | judged
  · cases deleting with
    | true => simp [DerivedKind.action_absent_deleting]
    | false => simp [DerivedKind.action_absent]
  · rw [judged]
    cases deleting <;> rfl

theorem DeclarationPass.DerivedKind.reason_of_bygone {live : Option kind.collection.Object}
    {desired : kind.collection.Object} {deleting : Bool}
    (bygone : kind.Bygone live desired deleting) : kind.reason live desired deleting = none := by
  unfold DerivedKind.reason
  rcases bygone with rfl | judged
  · cases deleting with
    | true => rw [DerivedKind.action_absent_deleting]
    | false => rw [DerivedKind.action_absent]
  · rw [judged]
    cases deleting <;> rfl

theorem Beside.refl (sound : k.Sound) : Beside kind n k k := ⟨sound, rfl, rfl, fun _ _ => rfl⟩

theorem Beside.trans (first : Beside kind n k l) (second : Beside kind n l m) :
    Beside kind n k m :=
  ⟨second.sound, second.declaration.trans first.declaration, second.config.trans first.config,
    fun other different => (second.others other different).trans (first.others other different)⟩

theorem Due.beside (due : Due op n d k) (beside : Beside kind n k l) : Due op n d l :=
  ⟨beside.sound, due.named, by rw [beside.declaration]; exact due.found,
    by rw [beside.config]; exact due.accepted⟩

theorem Due.beside_write (due : Due op n d k) {verb : Verb} {object : kind.collection.Object}
    (timed : (Resource.metadata object).Timed) :
    Beside kind n k (k.write kind.collection verb (kind.nameOf n) object) :=
  ⟨due.sound.write fun _ => timed, k.declaration_write_derived, k.config_write_derived _ _ _,
    fun _ different => k.derived_write_other fun same => absurd same different⟩

theorem Due.outlook_write (due : Due op n d k) {verb : Verb} {object : kind.collection.Object}
    (settle : kind.settle ((k.write kind.collection verb (kind.nameOf n) object).derived kind n)
        (kind.wanted op d) d.isDeleting =
      kind.settle (k.derived kind n) (kind.wanted op d) d.isDeleting)
    (reason : kind.reason ((k.write kind.collection verb (kind.nameOf n) object).derived kind n)
        (kind.wanted op d) d.isDeleting =
      kind.reason (k.derived kind n) (kind.wanted op d) d.isDeleting) :
    (k.write kind.collection verb (kind.nameOf n) object).outlook op n = k.outlook op n := by
  obtain ⟨d', found, spec, deleting⟩ := due.found
  have named : d'.name = d.name :=
    ((due.sound.tidy (c := .declarations) rfl).named found).trans due.named.symm
  have accepted : d'.isDeleting = true ∨ k.config.validate op.tls d' = .ok () := by
    rw [deleting, ModuleConfig.validate_congr spec]
    exact due.accepted
  refine Cluster.outlook_write_derived found accepted ?_ fun staying => ?_
  · rw [DerivedKind.wanted_congr named spec, deleting]
    exact settle
  · rw [DerivedKind.wanted_congr named spec]
    rwa [← deleting, staying] at reason

theorem Due.outlook_write_bygone (due : Due op n d k) {verb : Verb}
    {object : kind.collection.Object}
    (before : kind.Bygone (k.derived kind n) (kind.wanted op d) d.isDeleting)
    (after : kind.Bygone ((k.write kind.collection verb (kind.nameOf n) object).derived kind n)
      (kind.wanted op d) d.isDeleting) :
    (k.write kind.collection verb (kind.nameOf n) object).outlook op n = k.outlook op n :=
  due.outlook_write
    ((DerivedKind.settle_of_bygone after).trans (DerivedKind.settle_of_bygone before).symm)
    ((DerivedKind.reason_of_bygone after).trans (DerivedKind.reason_of_bygone before).symm)

theorem alone_get {ε : Type} {failure : StoreError → ε} {c : Collection} {name : String} :
    Alone op n (fun found l => l = k ∧ found = k.object? c name)
      (fun _ l => l = k ∧ l.refused c .get ≠ none) (Pass.request (.get c name) failure) k := by
  refine Pass.Upholds.request (r := .get c name) fun l alone answer m served => ?_
  subst alone
  cases served with
  | failed error why => exact ⟨rfl, rfl, why.resolve_right id⟩
  | got => exact ⟨rfl, rfl, rfl⟩

theorem upholds_patch {guarantee : Cluster → Cluster → Prop} {c : Collection} {name : String}
    {change : Json} {old new : c.Object} (found : k.object? c name = some old)
    (read : decode (Json.merge (encode old) change) = some new) (still : guarantee k k)
    (keeps : guarantee k (k.write c .patch name new)) :
    Pass.Upholds Eq guarantee (fun _ l => l = k.write c .patch name new)
      (fun _ l => l = k ∧ l.Refuses) (Pass.request (.patch c name change) failure) k := by
  refine Pass.Upholds.request fun l alone answer m served => ?_
  subst alone
  cases served with
  | failed error why =>
      refine ⟨still, rfl, _, _, why.resolve_right fun unfit => ?_⟩
      exact nomatch (unfit old found).symm.trans read
  | patched _ _ _ old' new' answer foundOld readOld =>
      obtain rfl := Option.some.inj (found.symm.trans foundOld)
      obtain rfl := Option.some.inj (read.symm.trans readOld)
      exact ⟨keeps, rfl⟩

theorem alone_patch {c : Collection} {name : String} {change : Json} {old new : c.Object}
    (found : k.object? c name = some old)
    (read : decode (Json.merge (encode old) change) = some new)
    (keeps : (k.write c .patch name new).outlook op n = k.outlook op n) :
    Alone op n (fun _ l => l = k.write c .patch name new) (fun _ l => l = k ∧ l.Refuses)
      (Pass.request (.patch c name change) failure) k := upholds_patch found read rfl keeps

/-- An object that is not going to stay loses its finalizers, and goes at once if its deletion was
asked for before. -/
theorem alone_stripFinalizers (due : Due op n d k) {live : kind.collection.Object}
    (seen : k.derived kind n = some live)
    (bygone : kind.Bygone (some live) (kind.wanted op d) d.isDeleting) :
    Alone op n
      (fun _ l => Beside kind n k l ∧
        kind.Bygone (l.derived kind n) (kind.wanted op d) d.isDeleting ∧ l.Bare kind n)
      (fun _ l => Beside kind n k l ∧ l.Refuses)
      (DeclarationPass.stripFinalizers (kind.nameOf n) (some live) failure) k := by
  unfold DeclarationPass.stripFinalizers
  simp only
  split
  next unheld =>
    refine Pass.Upholds.pure ⟨.refl due.sound, seen ▸ bygone, ?_⟩
    intro found present
    obtain rfl := Option.some.inj (seen.symm.trans present)
    exact List.isEmpty_iff.mp unheld
  next =>
    have tidy := due.sound.tidy kind.isManaged_collection
    have timed := tidy.timed seen
    have named : Resource.name (Resource.heldBy live []) = kind.nameOf n := by
      rw [Resource.name_heldBy]
      exact tidy.named seen
    have after : kind.Bygone ((k.write kind.collection .patch (kind.nameOf n)
        (Resource.heldBy live [])).derived kind n) (kind.wanted op d) d.isDeleting := by
      rw [Cluster.derived_write_self]
      split
      next => exact Or.inl rfl
      next =>
        refine Or.inr ?_
        rw [DeclarationPass.action_stamped _ named, ← bygone.resolve_left nofun]
        exact DerivedKind.action_withMetadata rfl rfl rfl
    apply Pass.Upholds.bind
    refine (alone_patch seen (Resource.decode_finalizersPatch timed [])
      (due.outlook_write_bygone (seen ▸ bygone) after)).consequence ?_ ?_
    · rintro _ l rfl
      refine Pass.Upholds.pure
        ⟨due.beside_write (Resource.timed_heldBy timed []), after, fun written present => ?_⟩
      rw [Cluster.derived_write_self] at present
      split at present
      next => exact nomatch present
      next =>
        obtain rfl := Option.some.inj present
        rw [Store.metadata_stamped]
        exact Resource.finalizerList_heldBy live []
    · rintro _ l ⟨rfl, refuses⟩
      exact ⟨.refl due.sound, refuses⟩

theorem alone_delete (due : Due op n d k)
    (bygone : kind.Bygone (k.derived kind n) (kind.wanted op d) d.isDeleting)
    (bare : k.Bare kind n) :
    Alone op n (fun _ l => Beside kind n k l ∧ l.derived kind n = none)
      (fun _ l => Beside kind n k l ∧ l.Refuses)
      (Pass.request (.delete kind.collection (kind.nameOf n)) failure) k := by
  refine Pass.Upholds.request fun l alone answer m served => ?_
  subst alone
  cases served with
  | failed error why => exact ⟨rfl, .refl due.sound, _, _, why.resolve_right id⟩
  | alreadyGone _ _ absent => exact ⟨rfl, .refl due.sound, absent⟩
  | deleted _ _ old found =>
      have timed := Store.timed_asked due.sound.clock
        ((due.sound.tidy kind.isManaged_collection).timed found)
      have gone : (k.write kind.collection .delete (kind.nameOf n)
          (Store.asked k.clock old)).derived kind n = none := by
        rw [Cluster.derived_write_self, Store.isReleased_asked (bare old found)]
        rfl
      exact ⟨due.outlook_write_bygone bygone (Or.inl gone), due.beside_write timed, gone⟩

/-- An object that a pass would keep is written where a pass would leave just that. -/
theorem Due.write_at_rest (due : Due op n d k) (staying : d.isDeleting = false) {verb : Verb}
    {object : kind.collection.Object} (timed : (Resource.metadata object).Timed)
    (stays : Store.isReleased object = false)
    (named : (Resource.metadata object).name = some (kind.nameOf n))
    (kept : kind.action (some object) (kind.wanted op d) false = .ok .keep)
    (settle : kind.settle (k.derived kind n) (kind.wanted op d) false =
      some (Resource.timeless object))
    (reason : kind.reason (k.derived kind n) (kind.wanted op d) false = none) :
    (k.write kind.collection verb (kind.nameOf n) object).outlook op n = k.outlook op n ∧
      Beside kind n k (k.write kind.collection verb (kind.nameOf n) object) ∧
      kind.action ((k.write kind.collection verb (kind.nameOf n) object).derived kind n)
        (kind.wanted op d) false = .ok .keep := by
  have after : (k.write kind.collection verb (kind.nameOf n) object).derived kind n =
      some ((k.store kind.collection).stamped (kind.nameOf n) object) := by
    rw [Cluster.derived_write_self, stays]
    rfl
  have sameName : Resource.name object = kind.nameOf n := by
    rw [Resource.name, Metadata.nameAny, named]
    rfl
  have keptAfter : kind.action ((k.write kind.collection verb (kind.nameOf n) object).derived kind n)
      (kind.wanted op d) false = .ok .keep := by
    rw [after, DeclarationPass.action_stamped _ sameName, kept]
  refine ⟨due.outlook_write ?_ ?_, due.beside_write timed, keptAfter⟩
  · rw [staying, settle, DerivedKind.settle_of_atRest (Or.inl keptAfter), after, Option.map_some,
      DeclarationPass.timeless_stamped _ named]
  · rw [staying, reason, DerivedKind.reason_of_keep keptAfter]

theorem alone_create (due : Due op n d k) (staying : d.isDeleting = false)
    (absent : k.derived kind n = none) :
    Alone op n
      (fun _ l => Beside kind n k l ∧
        kind.action (l.derived kind n) (kind.wanted op d) false = .ok .keep)
      (fun _ l => Beside kind n k l ∧ l.Refuses)
      (Pass.request (.create kind.collection (kind.wanted op d)) failure) k := by
  have name : Resource.name (kind.wanted op d) = kind.nameOf n := by
    rw [DerivedKind.name_wanted, due.named]
  refine Pass.Upholds.request fun l alone answer m served => ?_
  subst alone
  cases served with
  | failed error why =>
      refine ⟨rfl, .refl due.sound, _, _, why.resolve_right fun taken => taken ?_⟩
      rw [name]
      exact absent
  | created =>
      rw [name, DerivedKind.settled_wanted]
      apply due.write_at_rest staying (Store.timed_made _) (Store.isReleased_made _)
      · rw [Store.metadata_setDeletion, ← due.named]
        exact DerivedKind.metadata_name_wanted op d kind
      · exact DerivedKind.action_made op d
      · rw [DerivedKind.settle_of_bygone (Or.inl absent), DerivedKind.timeless_made]
        rfl
      · exact DerivedKind.reason_of_bygone (Or.inl absent)

theorem alone_replace (due : Due op n d k) (staying : d.isDeleting = false)
    {live : kind.collection.Object} (seen : k.derived kind n = some live)
    (outOfForm : kind.action (some live) (kind.wanted op d) false = .ok .updateInPlace) :
    Alone op n
      (fun _ l => Beside kind n k l ∧
        kind.action (l.derived kind n) (kind.wanted op d) false = .ok .keep)
      (fun _ l => Beside kind n k l ∧ l.Refuses)
      (Pass.request (.replace kind.collection (kind.nameOf n)
        (DeclarationPass.updated live (kind.wanted op d))) failure) k := by
  refine Pass.Upholds.request fun l alone answer m served => ?_
  subst alone
  cases served with
  | failed error why =>
      refine ⟨rfl, .refl due.sound, _, _, why.resolve_right fun stale => stale live seen ?_⟩
      rw [DeclarationPass.updated, Resource.metadata_withMetadata]
      rfl
  | replaced _ _ _ old answer found =>
      obtain rfl := Option.some.inj (seen.symm.trans found)
      rw [DerivedKind.settled_updated]
      apply due.write_at_rest staying
      · exact DerivedKind.timed_renewed ((due.sound.tidy kind.isManaged_collection).timed seen)
      · exact DerivedKind.isReleased_renewed op d live
      · exact (DerivedKind.metadata_name_renewed op d live).trans (by rw [due.named])
      · exact DerivedKind.action_renewed op d live
      · rw [seen, DerivedKind.settle, outOfForm]
        rfl
      · rw [seen, DerivedKind.reason, outOfForm]

/-- An object that is not going to stay is taken away before the pass goes on. -/
theorem alone_clear (due : Due op n d k) {live : kind.collection.Object}
    (seen : k.derived kind n = some live)
    (bygone : kind.Bygone (some live) (kind.wanted op d) d.isDeleting)
    {α : Type} {ok : α → Cluster → Prop} {next : Pass DeclarationPass.Error α}
    (rest : ∀ l, Beside kind n k l → l.derived kind n = none →
      Alone op n ok (fun _ m => Beside kind n k m ∧ m.Refuses) next l) :
    Alone op n ok (fun _ l => Beside kind n k l ∧ l.Refuses)
      (do
        DeclarationPass.stripFinalizers (kind.nameOf n) (some live) failure
        Pass.request (.delete kind.collection (kind.nameOf n)) failure
        next) k := by
  apply Pass.Upholds.bind
  refine (alone_stripFinalizers due seen bygone).mono fun _ l ⟨beside, bygone, bare⟩ => ?_
  apply Pass.Upholds.bind
  refine (alone_delete (due.beside beside) bygone bare).consequence
    (fun _ m ⟨later, gone⟩ => rest m (beside.trans later) gone) ?_
  exact fun _ m ⟨later, refuses⟩ => ⟨beside.trans later, refuses⟩

/-- Carrying out a judgement brings the object to rest, and tells why it was left alone, if it
was. -/
theorem alone_apply (due : Due op n d k) {live : Option kind.collection.Object} {deleting : Bool}
    (seen : k.derived kind n = live) (state : d.isDeleting = deleting) :
    Alone op n
      (fun result l => Beside kind n k l ∧
        kind.AtRest (l.derived kind n) (kind.wanted op d) deleting ∧
        result = kind.reason (l.derived kind n) (kind.wanted op d) deleting)
      (fun _ l => Beside kind n k l ∧ l.Refuses)
      (match kind.action live (kind.wanted op d) deleting with
        | .ok action => DeclarationPass.apply kind live (kind.wanted op d) action
        | .error foreign => return some (Fault.own foreign)) k := by
  have name : Resource.name (kind.wanted op d) = kind.nameOf n := by
    rw [DerivedKind.name_wanted, due.named]
  have kept : ∀ {l}, deleting = false → Beside kind n k l →
      kind.action (l.derived kind n) (kind.wanted op d) false = .ok .keep →
      Beside kind n k l ∧ kind.AtRest (l.derived kind n) (kind.wanted op d) deleting ∧
        none = kind.reason (l.derived kind n) (kind.wanted op d) deleting := by
    rintro l rfl beside keep
    exact ⟨beside, Or.inl keep, (DerivedKind.reason_of_keep keep).symm⟩
  have left : ∀ {text}, kind.reason live (kind.wanted op d) deleting = some text →
      Beside kind n k k ∧ kind.AtRest (k.derived kind n) (kind.wanted op d) deleting ∧
        some text = kind.reason (k.derived kind n) (kind.wanted op d) deleting := by
    intro text reason
    rw [seen]
    exact ⟨.refl due.sound, Or.inr (reason ▸ Option.some_ne_none _), reason.symm⟩
  have judged := kind.judged live (kind.wanted op d) deleting
  generalize verdict : kind.action live (kind.wanted op d) deleting = action at judged
  unfold DeclarationPass.apply
  -- The pass names the object by what is wanted, and the store by the declaration.
  generalize same : Resource.name (kind.wanted op d) = target at name ⊢
  subst name
  cases judged with
  | missing =>
      apply Pass.Upholds.bind
      exact (alone_create due state seen).mono fun _ l ⟨beside, keep⟩ =>
        Pass.Upholds.pure (kept rfl beside keep)
  | gone =>
      refine Pass.Upholds.pure ⟨.refl due.sound, Or.inl ?_, ?_⟩
      · rw [seen, verdict]
      · rw [seen, DerivedKind.reason_of_keep verdict]
  | inForm live => exact Pass.Upholds.pure (kept rfl (.refl due.sound) (seen ▸ verdict))
  | outOfForm live =>
      apply Pass.Upholds.bind
      exact (alone_replace due state seen verdict).mono fun _ l ⟨beside, keep⟩ =>
        Pass.Upholds.pure (kept rfl beside keep)
  | fixed live =>
      have bygone : kind.Bygone (some live) (kind.wanted op d) d.isDeleting := by
        rw [state]
        exact Or.inr verdict
      refine alone_clear due seen bygone fun l beside gone => ?_
      apply Pass.Upholds.bind
      refine (alone_create (due.beside beside) state gone).consequence ?_ ?_
      · exact fun _ m ⟨later, keep⟩ => Pass.Upholds.pure (kept rfl (beside.trans later) keep)
      · exact fun _ m ⟨later, refuses⟩ => ⟨beside.trans later, refuses⟩
  | unwanted live =>
      have bygone : kind.Bygone (some live) (kind.wanted op d) d.isDeleting := by
        rw [state]
        exact Or.inr verdict
      refine alone_clear due seen bygone fun l beside gone => ?_
      have keep : kind.action (l.derived kind n) (kind.wanted op d) true = .ok .keep := by
        rw [gone, DerivedKind.action_absent_deleting]
      exact Pass.Upholds.pure ⟨beside, Or.inl keep, (DerivedKind.reason_of_keep keep).symm⟩
  | foreign live deleting owner =>
      refine Pass.Upholds.pure (left ?_)
      rw [DerivedKind.reason, verdict, same]
  | foreignSecret live error =>
      refine Pass.Upholds.pure (left ?_)
      rw [DerivedKind.reason, verdict]

theorem alone_sync (kind : DerivedKind) (due : Due op n d k) :
    Alone op n
      (fun result l => Beside kind n k l ∧
        kind.AtRest (l.derived kind n) (kind.wanted op d) d.isDeleting ∧
        result = kind.reason (l.derived kind n) (kind.wanted op d) d.isDeleting)
      (fun _ l => Beside kind n k l ∧ l.Refuses)
      (DeclarationPass.sync kind (kind.wanted op d) d.isDeleting) k := by
  unfold DeclarationPass.sync
  apply Pass.Upholds.bind
  refine Pass.Upholds.consequence alone_get ?_ ?_
  · rintro live l ⟨rfl, rfl⟩
    refine alone_apply due ?_ rfl
    rw [DerivedKind.name_wanted, due.named]
    rfl
  · rintro _ l ⟨rfl, refused⟩
    exact ⟨.refl due.sound, _, _, refused⟩

end Course

end NfsStorage

import NfsStorage.Proofs.Codec.Deletion
import NfsStorage.Proofs.Store.Operations

/-!
# Coherent stores

What a store is between two operations, and what an operation may do to it. Every object is kept
under its name with a version of its own, and none waits for its deletion with nothing left to hold
it. An operation that fails changes nothing; one that changes an object enters it in the journal and
takes the next version; and an object that was asked to go is asked to go until it is gone, unless
somebody patches that away.
-/

namespace NfsStorage

namespace Store

section Filling

variable {K : Type} [Resource K]

/-- What holds of the empty store and is kept when an object is laid in holds of a filled store. -/
theorem ofList_induction {property : Store K → Prop} {objects : List K} (empty : property {})
    (step : ∀ s : Store K, ∀ object ∈ objects, property s → property { s with
      version := s.version + 1
      objects := s.objects.insert (Resource.name object) (withVersion object (s.version + 1)) }) :
    property (ofList objects) := by
  have general : ∀ s : Store K, property s → property (objects.foldl (fun s object =>
      { s with
        version := s.version + 1
        objects := s.objects.insert (Resource.name object)
          (withVersion object (s.version + 1)) }) s) := by
    induction objects with
    | nil => exact fun s start => start
    | cons first rest inductionHypothesis =>
        exact fun s start => inductionHypothesis
          (fun s object membership => step s object (List.mem_cons_of_mem _ membership)) _
          (step s first (List.mem_cons_self ..) start)
  exact general {} empty

/-- After a write its name has what was written, unless that goes at once; all other names have what
they had. -/
theorem eq_stamped_of_get?_put {s : Store K} {verb : Verb} {name target : String}
    {object found : K} (present : (s.put verb name object).2.get? target = some found) :
    target = name ∧ found = s.stamped name object ∧ isReleased found = false ∨
      target ≠ name ∧ s.get? target = some found := by
  by_cases here : target = name
  · subst here
    rw [get?_put_self] at present
    split at present
    next => cases present
    next held =>
      obtain rfl := Option.some.inj present
      exact Or.inl ⟨rfl, rfl, Bool.eq_false_iff.mpr held⟩
  · rw [get?_put_of_ne _ _ _ here] at present
    exact Or.inr ⟨here, present⟩

/-- An object carries a version that was given out. -/
def Dates (s : Store K) (object : K) : Prop :=
  ∃ version ≤ s.version, (Resource.metadata object).resourceVersion = some (toString version)

theorem Dates.mono {s s' : Store K} {object : K} (dates : s.Dates object)
    (later : s.version ≤ s'.version) : s'.Dates object := by
  obtain ⟨version, given, same⟩ := dates
  exact ⟨version, Nat.le_trans given later, same⟩

theorem Dates.resourceVersion_ne_next {s : Store K} {object : K} (dates : s.Dates object) :
    (Resource.metadata object).resourceVersion ≠ some (toString (s.version + 1)) := by
  obtain ⟨version, given, same⟩ := dates
  rw [same]
  intro next
  have := eq_of_toString_eq (Option.some.inj next)
  omega

theorem Versioned.dates {s : Store K} (versioned : s.Versioned) {name : String} {object : K}
    (present : s.get? name = some object) : s.Dates object :=
  versioned.versioned present

/-- What is so of a store between two operations. -/
structure Coherent (s : Store K) : Prop extends s.Versioned where
  distinct : ∀ {name other : String} {object another : K},
    s.get? name = some object → s.get? other = some another →
    (Resource.metadata object).resourceVersion = (Resource.metadata another).resourceVersion →
    name = other
  unreleased : ∀ {name : String} {object : K},
    s.get? name = some object → isReleased object = false

/-- An object waits under a name for its deletion. -/
def Awaits (s : Store K) (name : String) : Prop :=
  ∃ object, s.get? name = some object ∧ Resource.isDeleting object = true

theorem awaits_iff {s : Store K} {name : String} :
    s.Awaits name ↔ (s.get? name).any Resource.isDeleting = true :=
  (Option.any_eq_true _ _).symm

end Filling

/-- A patch of the operation, if it is one, is an object that leaves the time of deletion alone. -/
def Operation.sparesDeletion {K : Type} : Operation K → Bool
  | .patch _ change => change.sparesDeletion
  | _ => true

variable {c : Collection} {s s' : Store c.Object} {operation : Operation c.Object}
  {answer : Except StoreError (List c.Object)}

theorem resourceVersion_stamped (s : Store c.Object) (name : String) (object : c.Object) :
    (Resource.metadata (s.stamped name object)).resourceVersion =
      some (toString (s.version + 1)) := by
  rw [stamped, Collection.metadata_withMetadata]

theorem isDeleting_stamped (s : Store c.Object) (name : String) (object : c.Object) :
    Resource.isDeleting (s.stamped name object) = Resource.isDeleting object := by
  rw [Resource.isDeleting, stamped, Collection.metadata_withMetadata]
  rfl

theorem isDeleting_setDeletion (object : c.Object) (time : Option Time) :
    Resource.isDeleting (setDeletion object time) = time.isSome := by
  rw [Resource.isDeleting, setDeletion, Collection.metadata_withMetadata]
  rfl

theorem Coherent.of_erased (coherent : s.Coherent)
    (fewer : ∀ {name object}, s'.get? name = some object → s.get? name = some object)
    (later : s.version ≤ s'.version) : s'.Coherent where
  toVersioned := coherent.toVersioned.of_objects fewer later
  distinct present other := coherent.distinct (fewer present) (fewer other)
  unreleased present := coherent.unreleased (fewer present)

theorem Coherent.insert (coherent : s.Coherent) {name : String} {object : c.Object}
    (named : Resource.name object = name)
    (stamped : (Resource.metadata object).resourceVersion = some (toString (s.version + 1)))
    (held : isReleased object = false) :
    Coherent { s with
      version := s.version + 1
      objects := s.objects.insert name object } := by
  have lookup : ∀ {target found}, ((s.objects.insert name object).get? target = some found) →
      target = name ∧ found = object ∨ target ≠ name ∧ s.get? target = some found := by
    intro target found present
    rw [Dict.get?_insert] at present
    split at present
    next here => exact Or.inl ⟨here, (Option.some.inj present).symm⟩
    next elsewhere => exact Or.inr ⟨elsewhere, present⟩
  refine ⟨coherent.toVersioned.insert named stamped, ?_, ?_⟩
  · intro target other found another present presentToo same
    rcases lookup present with ⟨rfl, rfl⟩ | ⟨-, before⟩ <;>
      rcases lookup presentToo with ⟨rfl, rfl⟩ | ⟨-, beforeToo⟩
    · rfl
    · exact absurd (same.symm.trans stamped) (coherent.dates beforeToo).resourceVersion_ne_next
    · exact absurd (same.trans stamped) (coherent.dates before).resourceVersion_ne_next
    · exact coherent.distinct before beforeToo same
  · intro target found present
    rcases lookup present with ⟨-, rfl⟩ | ⟨-, before⟩
    · exact held
    · exact coherent.unreleased before

theorem coherent_ofList {objects : List c.Object}
    (held : ∀ object ∈ objects, isReleased object = false) : (ofList objects).Coherent := by
  refine ofList_induction ⟨versioned_empty, nofun, nofun⟩ fun s object membership coherent => ?_
  refine coherent.insert ?_ ?_ ?_
  · rw [Resource.name, withVersion, Collection.metadata_withMetadata]
    rfl
  · rw [withVersion, Collection.metadata_withMetadata]
  · rw [isReleased, withVersion, Collection.metadata_withMetadata]
    exact held object membership

theorem Coherent.put (coherent : s.Coherent) (verb : Verb) (name : String) (object : c.Object) :
    (s.put verb name object).2.Coherent := by
  by_cases released : isReleased (s.stamped name object) = true
  · refine coherent.of_erased (fun {target found} present => ?_) (Nat.le_succ s.version)
    rcases eq_stamped_of_get?_put present with ⟨-, rfl, held⟩ | ⟨-, before⟩
    · exact absurd released (Bool.eq_false_iff.mp held)
    · exact before
  · have named : Resource.name (s.stamped name object) = name := by
      rw [Resource.name, stamped, Collection.metadata_withMetadata]
      rfl
    refine (coherent.insert named (s.resourceVersion_stamped name object)
      (Bool.eq_false_iff.mpr released)).of_erased (fun {target found} present => ?_) (Nat.le_refl _)
    rwa [get?, objects_put, if_neg released] at present

theorem Performed.coherent (performed : s.Performed operation answer s') (coherent : s.Coherent) :
    s'.Coherent := by
  cases performed with
  | failed | looked | alreadyGone => exact coherent
  | governed => exact coherent.of_erased id (Nat.le_refl _)
  | wrote verb name object => exact coherent.put verb name object

/-- What an operation does to the objects, the journal and the version, and what is left under the
name that it writes. -/
structure Accounts (s : Store c.Object) (operation : Operation c.Object)
    (answer : Except StoreError (List c.Object)) (s' : Store c.Object) : Prop where
  failure : ∀ e, answer = .error e → s' = s
  mutation : s'.objects ≠ s.objects → ∃ verb name, operation.writes? = some (verb, name) ∧
    s'.journal = s.journal ++ [verb.text ++ " " ++ name] ∧ s'.version = s.version + 1
  rest : s'.objects = s.objects → s'.journal = s.journal ∧ s'.version = s.version
  success : ∀ verb name shown, operation.writes? = some (verb, name) →
    verb ≠ .delete ∨ s.get? name ≠ none → answer = .ok shown → s'.objects ≠ s.objects
  written : ∀ verb name object, operation.writes? = some (verb, name) → answer = .ok [object] →
    s'.get? name = if isReleased object then none else some object
  deleted : ∀ now name shown old, operation = .delete now name → answer = .ok shown →
    s.get? name = some old →
    if (Resource.metadata old).finalizerList.isEmpty then s'.get? name = none else s'.Awaits name

theorem isReleased_eq_false {object : c.Object} (alive : Resource.isDeleting object = false) :
    isReleased object = false := by
  change (Resource.isDeleting object && _) = false
  rw [alive, Bool.false_and]

theorem Operation.Writes.isReleased_of_none {verb : Verb} {name : String} {object : c.Object}
    (writes : operation.Writes verb name none object) (s : Store c.Object) :
    isReleased (s.stamped name object) = false := by
  cases writes with
  | create object =>
      apply isReleased_eq_false
      rw [isDeleting_stamped, isDeleting_setDeletion, Option.isSome_none]

theorem Coherent.objects_put_ne (coherent : s.Coherent) {verb : Verb} {name : String}
    {object : c.Object} (writes : operation.Writes verb name (s.get? name) object) :
    (s.put verb name object).2.objects ≠ s.objects := by
  intro same
  have unmoved : (s.put verb name object).2.get? name = s.get? name := by rw [get?, same, get?]
  cases found : s.get? name with
  | none =>
      rw [found] at writes unmoved
      rw [get?_put_self, writes.isReleased_of_none] at unmoved
      cases unmoved
  | some old =>
      rw [found] at unmoved
      rcases eq_stamped_of_get?_put unmoved with ⟨-, rfl, -⟩ | ⟨elsewhere, -⟩
      · exact (coherent.dates found).resourceVersion_ne_next (s.resourceVersion_stamped name object)
      · exact elsewhere rfl

/-- A deletion takes an object away that nothing holds, and leaves any other waiting. -/
theorem get?_put_asked (s : Store c.Object) (now : Time) (name : String) (old : c.Object) :
    if (Resource.metadata old).finalizerList.isEmpty then
      (s.put .delete name (asked now old)).2.get? name = none
    else (s.put .delete name (asked now old)).2.Awaits name := by
  have deleting : Resource.isDeleting (s.stamped name (asked now old)) = true := by
    rw [isDeleting_stamped, asked, isDeleting_setDeletion, Option.isSome_some]
  have released : isReleased (s.stamped name (asked now old)) =
      (Resource.metadata old).finalizerList.isEmpty := by
    change (Resource.isDeleting _ && _) = _
    rw [deleting, Bool.true_and, stamped, asked, setDeletion, Collection.metadata_withMetadata,
      Collection.metadata_withMetadata]
    rfl
  split
  next bare => rw [get?_put_self, released, if_pos bare]
  next held => exact ⟨_, by rw [get?_put_self, released, if_neg held], deleting⟩

theorem accounts_of_idle (idle : operation.writes? = none) (shown : List c.Object)
    (refused : Verb → Option Nat) : s.Accounts operation (.ok shown) { s with refused } where
  failure := nofun
  mutation moved := absurd rfl moved
  rest _ := ⟨rfl, rfl⟩
  success _ _ _ writes := nomatch idle.symm.trans writes
  written _ _ _ writes := nomatch idle.symm.trans writes
  deleted _ _ _ _ same := nomatch same ▸ idle

theorem Performed.accounts (performed : s.Performed operation answer s') (coherent : s.Coherent) :
    s.Accounts operation answer s' := by
  cases performed with
  | failed e =>
      exact ⟨fun _ _ => rfl, fun moved => absurd rfl moved, fun _ => ⟨rfl, rfl⟩, nofun, nofun, nofun⟩
  | looked shown stored idle => exact accounts_of_idle idle shown s.refused
  | governed refused idle => exact accounts_of_idle idle [] refused
  | alreadyGone now name same absent =>
      subst same
      refine ⟨fun _ _ => rfl, fun moved => absurd rfl moved, fun _ => ⟨rfl, rfl⟩, ?_, nofun, ?_⟩
      · rintro _ _ _ writes (other | present) -
        · exact absurd (Prod.mk.inj (Option.some.inj writes)).1.symm other
        · exact absurd ((Prod.mk.inj (Option.some.inj writes)).2 ▸ absent) present
      · intro _ target _ old same _ found
        obtain ⟨-, rfl⟩ := Operation.delete.inj same
        cases absent.symm.trans found
  | wrote verb name object shown writes answered =>
      have moved := coherent.objects_put_ne writes
      refine ⟨nofun, fun _ => ⟨verb, name, writes.writes?_eq, rfl, rfl⟩,
        fun same => absurd same moved, fun _ _ _ _ _ _ => moved, ?_, ?_⟩
      · intro _ target given same shows
        obtain ⟨-, rfl⟩ := Prod.mk.inj (Option.some.inj (writes.writes?_eq.symm.trans same))
        obtain rfl := answered given (Except.ok.inj shows ▸ List.mem_singleton_self given)
        rw [get?_put_self]
      · rintro now target _ old rfl _ found
        obtain ⟨rfl, rfl⟩ := Prod.mk.inj (Option.some.inj writes.writes?_eq)
        rw [found] at writes
        cases writes
        exact s.get?_put_asked now _ old

/-- Nothing that is written in the place of an object that is to go takes that back. -/
theorem Operation.Writes.isDeleting {verb : Verb} {name : String} {old object : c.Object}
    (writes : operation.Writes verb name (some old) object)
    (spares : operation.sparesDeletion = true) (deleting : Resource.isDeleting old = true) :
    Resource.isDeleting object = true := by
  cases writes with
  | replace => exact (isDeleting_setDeletion _ _).trans deleting
  | delete => exact isDeleting_setDeletion _ _
  | patch _ _ _ _ read => exact (Collection.isDeleting_of_decode_merge spares read).trans deleting
  | patchStatus _ _ _ _ read =>
      exact (Collection.isDeleting_of_decode_merge (sparesDeletion_status _) read).trans deleting

theorem Performed.awaits {name : String} (performed : s.Performed operation answer s')
    (spares : operation.sparesDeletion = true) (awaits : s.Awaits name)
    (present : s'.get? name ≠ none) : s'.Awaits name := by
  cases performed with
  | failed | looked | alreadyGone | governed => exact awaits
  | wrote verb target object shown writes =>
      obtain ⟨old, found, deleting⟩ := awaits
      obtain ⟨left, leftThere⟩ := Option.ne_none_iff_exists'.mp present
      refine ⟨left, leftThere, ?_⟩
      rcases eq_stamped_of_get?_put leftThere with ⟨rfl, rfl, -⟩ | ⟨-, before⟩
      · rw [found] at writes
        exact (s.isDeleting_stamped _ object).trans (writes.isDeleting spares deleting)
      · cases found.symm.trans before
        exact deleting

/-- An object that waits for its deletion does so for as long as it is there. -/
theorem Awaits.after {name : String} {operations : List (Operation c.Object)}
    (awaits : s.Awaits name) (spares : ∀ operation ∈ operations, operation.sparesDeletion = true)
    (present : ∀ taken, taken <+: operations → (s.after taken).get? name ≠ none) :
    (s.after operations).Awaits name := by
  induction operations generalizing s with
  | nil => exact awaits
  | cons operation rest inductionHypothesis =>
      have first := present [operation] (List.prefix_cons_inj operation |>.mpr List.nil_prefix)
      refine inductionHypothesis
        ((s.performed operation).awaits (spares operation (List.mem_cons_self ..)) awaits first)
        (fun later membership => spares later (List.mem_cons_of_mem _ membership))
        fun taken before => ?_
      exact present (operation :: taken) ((List.prefix_cons_inj operation).mpr before)

/-- Whatever is asked of a store that was filled with objects none of which waits for its deletion
with nothing to hold it, and whatever its server refuses on the way: the store stays coherent, each
operation accounts for what it does, and an object whose deletion was asked for waits for it until
it is gone, as long as the patches leave that alone. -/
theorem coherent_after {objects : List c.Object}
    (held : ∀ object ∈ objects, isReleased object = false) (earlier : List (Operation c.Object)) :
    let s := (ofList objects).after earlier
    s.Coherent ∧
      (∀ operation, s.Accounts operation (s.perform operation).1 (s.perform operation).2) ∧
      ∀ name later, s.Awaits name → (∀ operation ∈ later, operation.sparesDeletion = true) →
        (∀ taken, taken <+: later → (s.after taken).get? name ≠ none) →
        (s.after later).Awaits name := by
  intro s
  have coherent : s.Coherent :=
    after_induction (fun s operation _ => (s.performed operation).coherent) (coherent_ofList held)
  exact ⟨coherent, fun operation => (s.performed operation).accounts coherent,
    fun _ _ awaits spares present => awaits.after spares present⟩

/-- A replacement that knows nothing of the deletion, of an object that something holds. -/
theorem coherent_after_replaced :
    let object : ConfigMap := { metadata := { name := some "cm", finalizers := some ["keep"] } }
    let deletion : Operation ConfigMap := .delete ⟨⟨2024, 1, 1⟩, 0, 0, 0, 0⟩ "cm"
    let s := (ofList [object]).after [deletion]
    isReleased object = false ∧ s.Coherent ∧ s.Awaits "cm" ∧
      (s.after [.replace "cm" object]).Awaits "cm" := by
  intro object deletion s
  have held : ∀ given ∈ [object], isReleased given = false := by decide +kernel
  have main := coherent_after (c := .configMaps) held [deletion]
  have awaits : s.Awaits "cm" := awaits_iff.mpr (by decide +kernel)
  refine ⟨held object (List.mem_singleton_self object), main.1, awaits,
    main.2.2 "cm" _ awaits (by simp [Operation.sparesDeletion]) fun taken before => ?_⟩
  have replaced : taken = [] ∨ taken = [.replace "cm" object] := by
    simpa [List.prefix_cons_iff] using before
  rcases replaced with rfl | rfl <;> exact Option.isSome_iff_ne_none.mp (by decide +kernel)

end Store

end NfsStorage

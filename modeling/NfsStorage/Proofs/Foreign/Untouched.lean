import NfsStorage.Proofs.Derived.Sync
import NfsStorage.Proofs.Store.Listing
import NfsStorage.Controller.ModuleConfig
import NfsStorage.Teardown

/-!
# Objects that are left alone

A pass looks at an object before it writes it, and an object that is judged to belong to somebody
else is not written at all. So each component, from whatever cluster it starts and whatever the
server refuses, sends its writes to other objects than that one.
-/

namespace NfsStorage

open DeclarationPass (DerivedKind)

theorem Dict.mem_of_get?_ofList {α : Type} {entries : List (String × α)} {key : String} {value : α}
    (found : (Dict.ofList entries).get? key = some value) : (key, value) ∈ entries := by
  have general : ∀ d : Dict α,
      (entries.foldl (fun d entry => d.insert entry.1 entry.2) d).get? key = some value →
        (key, value) ∈ entries ∨ d.get? key = some value := by
    clear found
    induction entries with
    | nil => exact fun d held => Or.inr held
    | cons first rest inductionHypothesis =>
        intro d held
        rcases inductionHypothesis _ held with later | earlier
        · exact Or.inl (List.mem_cons_of_mem _ later)
        · rw [Dict.get?_insert] at earlier
          split at earlier
          next here =>
            obtain rfl := Option.some.inj earlier
            exact Or.inl (here ▸ List.mem_cons_self ..)
          next => exact Or.inr earlier
  rcases general .empty found with member | absent
  · exact member
  · exact nomatch absent

/-- The two clusters differ at most in the time and in what the server refuses. -/
structure Weather (k l : Cluster) : Prop where
  clock : k.clock.Valid → l.clock.Valid
  objects : ∀ (c : Collection) (name : String), l.object? c name = k.object? c name

theorem Weather.refl (k : Cluster) : Weather k k := ⟨id, fun _ _ => rfl⟩

theorem Weather.sound {k l : Cluster} (weather : Weather k l) (sound : k.Sound) : l.Sound :=
  sound.of_same (weather.clock sound.clock) fun c _ => weather.objects c

/-- An object of a derived kind stands under a name. -/
structure Stands (kind : DerivedKind) (name : String) (object : kind.collection.Object)
    (k : Cluster) : Prop where
  sound : k.Sound
  present : k.object? kind.collection name = some object

/-- A pass that wants the desired object in its place, or wants it gone, leaves the object alone. -/
def DeclarationPass.DerivedKind.LeavesAlone (kind : DerivedKind)
    (object desired : kind.collection.Object) : Prop :=
  ∀ deleting, (∃ owner, kind.action (some object) desired deleting = .ok (.skipForeign owner)) ∨
    ∃ foreign, kind.action (some object) desired deleting = .error foreign

/-- The object stands, and a pass over any declaration leaves it alone. -/
structure Spurned (op : Operator) (kind : DerivedKind) (name : String)
    (object : kind.collection.Object) (k : Cluster) : Prop extends Stands kind name object k where
  leftAlone : ∀ n (d : Declaration), k.object? .declarations n = some d → kind.nameOf n = name →
    kind.LeavesAlone object (kind.desired (d.derive op.tls op.namespace))

theorem leavesAlone_of_not_isOurs {kind : DerivedKind} (isClass : kind ≠ .secret)
    {object : kind.collection.Object} (foreign : ¬ kind.IsOurs object)
    (desired : kind.collection.Object) : kind.LeavesAlone object desired := by
  intro deleting
  cases kind with
  | secret => exact absurd rfl isClass
  | storageClass =>
      exact Or.inl ⟨_, congrArg Except.ok (if_pos foreign)⟩
  | snapshotClass =>
      exact Or.inl ⟨_, congrArg Except.ok (if_pos foreign)⟩

theorem leavesAlone_of_payload {secret desired : Secret}
    (unmanaged : secret.metadata.isManaged = false)
    (different : secret.data.getD ∅ ≠ desired.data.getD ∅) :
    DerivedKind.secret.LeavesAlone secret desired := by
  intro deleting
  cases deleting with
  | true => exact Or.inl ⟨"unmanaged", by simp [DerivedKind.action, Secret.action, unmanaged]⟩
  | false =>
      exact Or.inr ⟨⟨secret.name⟩, by
        simp [DerivedKind.action, Secret.action, unmanaged, different]⟩

/-- Specs of declarations come through a request. -/
def Request.KeepsSpecs (r : Request) : Prop :=
  ∀ {k l : Cluster} {answer}, k.Sound → k.Served r answer l →
    ∀ n (d' : Declaration), l.object? .declarations n = some d' →
      ∃ d : Declaration, k.object? .declarations n = some d ∧ d'.spec = d.spec

namespace Request

theorem keepsSpecs_of_ne {r : Request} (elsewhere : r.collection ≠ .declarations) :
    r.KeepsSpecs := by
  intro k l answer _ served n d' found
  rw [served.object? fun same => absurd same.symm elsewhere] at found
  exact ⟨d', found, rfl⟩

theorem keepsSpecs_of_reads {r : Request} (reads : r.writes? = none) : r.KeepsSpecs := by
  intro k l answer _ served n d' found
  rw [served.object? fun _ => reads ▸ nofun] at found
  exact ⟨d', found, rfl⟩

theorem exists_spec_of_write {k : Cluster} {verb : Verb} {name : String} {old new : Declaration}
    (found : k.object? .declarations name = some old) (same : new.spec = old.spec) (n : String)
    (d' : Declaration) (present : (k.write .declarations verb name new).object? .declarations n =
      some d') : ∃ d : Declaration, k.object? .declarations n = some d ∧ d'.spec = d.spec := by
  rcases Cluster.eq_stamped_of_object?_write _ _ _ _ _ present with ⟨rfl, rfl, -⟩ | ⟨-, before⟩
  · exact ⟨old, found, same⟩
  · exact ⟨d', before, rfl⟩

theorem keepsSpecs_finalizersPatch (name : String) (finalizers : List String) :
    (Request.patch .declarations name (finalizersPatch finalizers)).KeepsSpecs := by
  intro k l answer sound served
  rcases served.of_finalizersPatch (sound.tidy (c := .declarations) rfl) with
    ⟨-, rfl⟩ | ⟨old, written, -, found, -, rfl⟩
  · exact fun n d' found => ⟨d', found, rfl⟩
  · exact exists_spec_of_write found rfl

theorem keepsSpecs_statusPatch (name : String) (phase : Phase) (reason : String) :
    (Request.patchStatus .declarations name (.object [("status",
      encode (⟨some phase, some reason⟩ : DeclarationStatus))])).KeepsSpecs := by
  intro k l answer sound served
  rcases served.of_statusPatch sound with ⟨-, rfl⟩ | ⟨old, written, -, found, -, rfl⟩
  · exact fun n d' found => ⟨d', found, rfl⟩
  · exact exists_spec_of_write found rfl

end Request

section Passes

variable {op : Operator} {kind : DerivedKind} {name : String} {object : kind.collection.Object}
  {k l m : Cluster} {ε α : Type}

theorem Stands.weather (stands : Stands kind name object k) (weather : Weather k l) :
    Stands kind name object l :=
  ⟨weather.sound stands.sound, (weather.objects _ _).trans stands.present⟩

theorem Stands.served (stands : Stands kind name object k) {r : Request} {answer}
    (served : k.Served r answer l)
    (apart : kind.collection = r.collection → r.writes? ≠ some name) :
    Stands kind name object l :=
  ⟨stands.sound.served served, (served.object? apart).trans stands.present⟩

theorem Spurned.weather (spurned : Spurned op kind name object k) (weather : Weather k l) :
    Spurned op kind name object l :=
  ⟨spurned.toStands.weather weather, fun n d found =>
    spurned.leftAlone n d ((weather.objects _ _).symm.trans found)⟩

theorem Spurned.served (spurned : Spurned op kind name object k) {r : Request} {answer}
    (served : k.Served r answer l)
    (apart : kind.collection = r.collection → r.writes? ≠ some name) (keeps : r.KeepsSpecs) :
    Spurned op kind name object l := by
  refine ⟨spurned.toStands.served served apart, fun n d' found named => ?_⟩
  obtain ⟨d, before, sameSpec⟩ := keeps spurned.sound served n d' found
  have sameName : d'.name = d.name :=
    (((spurned.sound.served served).tidy (c := .declarations) rfl).named found).trans
      ((spurned.sound.tidy (c := .declarations) rfl).named before).symm
  rw [Declaration.derive_congr sameName sameSpec]
  exact spurned.leftAlone n d before named

/-- A pass keeps an assertion about the cluster, whatever the server refuses meanwhile. -/
abbrev Keeps {ε α : Type} (assertion : Cluster → Prop) (x : Pass ε α) (k : Cluster) : Prop :=
  Pass.Upholds Weather (fun _ _ => True) (fun _ l => assertion l) (fun _ l => assertion l) x k

theorem keeps_request {r : Request} {failure : StoreError → ε}
    (spurned : Spurned op kind name object k)
    (apart : kind.collection = r.collection → r.writes? ≠ some name) (keeps : r.KeepsSpecs) :
    Keeps (Spurned op kind name object) (Pass.request r failure) k := by
  apply Pass.Upholds.request
  intro l weather answer m served
  refine ⟨trivial, ?_⟩
  rw [Pass.outcome_same]
  exact (spurned.weather weather).served served apart keeps

theorem keeps_get {c : Collection} {target : String} {failure : StoreError → ε}
    (spurned : Spurned op kind name object k) :
    Pass.Upholds Weather (fun _ _ => True)
      (fun found l => Spurned op kind name object l ∧ l.object? c target = found)
      (fun _ l => Spurned op kind name object l) (Pass.request (.get c target) failure) k := by
  refine Pass.Upholds.request (r := .get c target) fun l weather answer m served => ?_
  have spurned := spurned.weather weather
  cases served with
  | failed => exact ⟨trivial, spurned⟩
  | got => exact ⟨trivial, spurned, rfl⟩

section Elsewhere

variable {other : DerivedKind} {desired : other.collection.Object}
  {failure : StoreError → DeclarationPass.Error}

theorem keeps_apply (spurned : Spurned op kind name object k)
    (apart : kind = other → Resource.name desired ≠ name) (live : Option other.collection.Object)
    (action : Action) :
    Keeps (Spurned op kind name object) (DeclarationPass.apply other live desired action) k := by
  have each : ∀ {r : Request} {failure : StoreError → DeclarationPass.Error} {l},
      r.collection = other.collection → r.writes? = some (Resource.name desired) →
      Spurned op kind name object l →
      Keeps (Spurned op kind name object) (Pass.request r failure) l := by
    intro r failure l collection writes spurned
    refine keeps_request spurned (fun same => ?_) (Request.keepsSpecs_of_ne ?_)
    · rw [writes]
      exact fun equal => apart (DerivedKind.collection_injective (same.trans collection))
        (Option.some.inj equal)
    · rw [collection]
      exact other.collection_ne_declarations
  have stripped : ∀ {failure l}, Spurned op kind name object l →
      Keeps (Spurned op kind name object)
        (DeclarationPass.stripFinalizers (Resource.name desired) live failure) l := by
    intro failure l spurned
    unfold DeclarationPass.stripFinalizers
    cases live with
    | none => exact Pass.Upholds.pure spurned
    | some found =>
        simp only
        split
        next => exact Pass.Upholds.pure spurned
        next =>
          apply Pass.Upholds.bind
          exact (each rfl rfl spurned).mono fun _ _ spurned => Pass.Upholds.pure spurned
  have created : ∀ {failure l}, Spurned op kind name object l →
      Keeps (Spurned op kind name object) (do
        let _ ← Pass.request (.create other.collection desired) failure
        return none : Pass DeclarationPass.Error (Option String)) l := by
    intro failure l spurned
    apply Pass.Upholds.bind
    exact (each rfl rfl spurned).mono fun _ _ spurned => Pass.Upholds.pure spurned
  have deleted : ∀ {failure l}, Spurned op kind name object l →
      Keeps (Spurned op kind name object)
        (Pass.request (.delete other.collection (Resource.name desired)) failure :
          Pass DeclarationPass.Error Unit) l :=
    fun spurned => each (r := .delete other.collection (Resource.name desired)) rfl rfl spurned
  unfold DeclarationPass.apply
  cases action with
  | keep => exact Pass.Upholds.pure spurned
  | skipForeign owner => exact Pass.Upholds.pure spurned
  | create => exact created spurned
  | updateInPlace =>
      cases live with
      | none => exact created spurned
      | some found =>
          apply Pass.Upholds.bind
          exact (each rfl rfl spurned).mono fun _ _ spurned => Pass.Upholds.pure spurned
  | recreate =>
      apply Pass.Upholds.bind
      refine (stripped spurned).mono fun _ _ spurned => ?_
      apply Pass.Upholds.bind
      exact (deleted spurned).mono fun _ _ spurned => created spurned
  | delete =>
      apply Pass.Upholds.bind
      refine (stripped spurned).mono fun _ _ spurned => ?_
      apply Pass.Upholds.bind
      exact (deleted spurned).mono fun _ _ spurned => Pass.Upholds.pure spurned

theorem keeps_sync (spurned : Spurned op kind name object k) (deleting : Bool)
    (alone : ∀ same : other = kind, Resource.name desired = name →
      kind.LeavesAlone object (same ▸ desired)) :
    Keeps (Spurned op kind name object) (DeclarationPass.sync other desired deleting) k := by
  unfold DeclarationPass.sync
  apply Pass.Upholds.bind
  refine (keeps_get spurned).mono fun live l ⟨spurned, seen⟩ => ?_
  by_cases here : other = kind ∧ Resource.name desired = name
  · obtain ⟨rfl, named⟩ := here
    obtain rfl : live = some object := by rw [← seen, named, spurned.present]
    rcases alone rfl named deleting with ⟨owner, judged⟩ | ⟨foreign, judged⟩
    · have judged : other.action (some object) desired deleting = .ok (.skipForeign owner) := judged
      rw [judged]
      exact Pass.Upholds.pure spurned
    · have judged : other.action (some object) desired deleting = .error foreign := judged
      rw [judged]
      exact Pass.Upholds.pure spurned
  · have apart : kind = other → Resource.name desired ≠ name :=
      fun same named => here ⟨same.symm, named⟩
    cases other.action live desired deleting with
    | ok action => exact keeps_apply spurned apart live action
    | error foreign => exact Pass.Upholds.pure spurned

end Elsewhere

end Passes

end NfsStorage

import NfsStorage.Proofs.Codec.Resource
import NfsStorage.Store.Program

/-!
# What a request does to a cluster

Every request either fails and leaves the cluster as it is, or reads, or ends in one write of one
object. `Served` lists these cases with all that is known in each of them; later proofs look at the
requests of a program through it and not at the stores.
-/

namespace NfsStorage

namespace Store

theorem check_cases {K : Type} (s : Store K) (verb : Verb) (name : String) :
    s.check verb name = .ok () ∨ s.refused verb ≠ none ∧ ∃ e, s.check verb name = .error e := by
  unfold check
  cases s.refused verb with
  | none => exact Or.inl rfl
  | some code => exact Or.inr ⟨Option.some_ne_none _, _, rfl⟩

variable {K : Type} [Resource K]

/-- An object as it is written: with its name and the next version of the store. -/
def stamped (s : Store K) (name : String) (object : K) : K :=
  Resource.withMetadata object
    { Resource.metadata object with
      resourceVersion := some (toString (s.version + 1))
      name := some name }

/-- An object whose deletion is asked for, if it was not before. -/
def asked (now : Time) (object : K) : K :=
  setDeletion object (some ((Resource.metadata object).deletionTimestamp.getD now))

theorem objects_put (s : Store K) (verb : Verb) (name : String) (object : K) :
    (s.put verb name object).2.objects =
      if isReleased (s.stamped name object) then s.objects.erase name
      else s.objects.insert name (s.stamped name object) := rfl

theorem get?_put_of_ne (s : Store K) (verb : Verb) {name target : String} (object : K)
    (different : target ≠ name) : (s.put verb name object).2.get? target = s.get? target := by
  rw [get?, objects_put, get?]
  split
  · rw [Dict.get?_erase, if_neg different]
  · rw [Dict.get?_insert, if_neg different]

theorem get?_put_self (s : Store K) (verb : Verb) (name : String) (object : K) :
    (s.put verb name object).2.get? name =
      if isReleased (s.stamped name object) then none else some (s.stamped name object) := by
  rw [get?, objects_put]
  split
  · rw [Dict.get?_erase, if_pos rfl]
  · rw [Dict.get?_insert, if_pos rfl]

theorem isReleased_of_mem {object : K} {finalizer : String}
    (held : finalizer ∈ (Resource.metadata object).finalizerList) : isReleased object = false := by
  have some : (Resource.metadata object).finalizerList.isEmpty = false :=
    List.isEmpty_eq_false_iff_exists_mem.mpr ⟨_, held⟩
  rw [isReleased, some, Bool.and_false]

variable [LawfulResource K]

@[simp]
theorem metadata_stamped (s : Store K) (name : String) (object : K) :
    Resource.metadata (s.stamped name object) =
      { Resource.metadata object with
        resourceVersion := some (toString (s.version + 1))
        name := some name } :=
  Resource.metadata_withMetadata _ _

@[simp]
theorem isReleased_stamped (s : Store K) (name : String) (object : K) :
    isReleased (s.stamped name object) = isReleased object := by
  simp [isReleased, Metadata.isDeleting, Metadata.finalizerList]

@[simp]
theorem metadata_setDeletion (object : K) (time : Option Time) :
    Resource.metadata (setDeletion object time) =
      { Resource.metadata object with deletionTimestamp := time } :=
  Resource.metadata_withMetadata _ _

theorem timed_made (object : K) : (Resource.metadata (setDeletion object none)).Timed := by
  rw [metadata_setDeletion]
  exact fun _ asked => nomatch asked

theorem isReleased_made (object : K) : isReleased (setDeletion object none) = false := by
  rw [isReleased, metadata_setDeletion]
  rfl

theorem timed_asked {now : Time} (valid : now.Valid) {object : K}
    (timed : (Resource.metadata object).Timed) : (Resource.metadata (asked now object)).Timed := by
  rw [asked, metadata_setDeletion]
  intro time given
  obtain rfl := Option.some.inj given
  cases before : (Resource.metadata object).deletionTimestamp with
  | none => exact valid
  | some earlier => exact timed earlier before

theorem isReleased_asked {object : K} (bare : (Resource.metadata object).finalizerList = [])
    (now : Time) : isReleased (asked now object) = true := by
  rw [isReleased, asked, metadata_setDeletion]
  exact Bool.and_eq_true_iff.mpr ⟨rfl, List.isEmpty_iff.mpr bare⟩

end Store

namespace Request

def verb : Request → Verb
  | get .. | getIn .. => .get
  | list .. => .list
  | create .. => .create
  | replace .. => .replace
  | delete .. => .delete
  | patch .. => .patch
  | patchStatus .. => .patchStatus

/-- The name of the object that a request writes. -/
def writes? : Request → Option String
  | get .. | getIn .. | list .. => none
  | create _ object => some (Resource.name object)
  | replace _ name _ | delete _ name | patch _ name _ | patchStatus _ name _ => some name

end Request

namespace Cluster

def object? (k : Cluster) (c : Collection) (name : String) : Option c.Object :=
  (k.store c).get? name

def write (k : Cluster) (c : Collection) (verb : Verb) (name : String) (object : c.Object) :
    Cluster :=
  k.setStore c ((k.store c).put verb name object).2

def refused (k : Cluster) (c : Collection) : Verb → Option Nat := (k.store c).refused

section Write

variable (k : Cluster) (c : Collection) (verb : Verb) (name : String) (object : c.Object)

theorem object?_write_self :
    (k.write c verb name object).object? c name =
      if Store.isReleased ((k.store c).stamped name object) then none
      else some ((k.store c).stamped name object) := by
  rw [object?, write, store_setStore, Store.get?_put_self]

theorem object?_write_of_ne {d : Collection} {target : String}
    (different : d = c → target ≠ name) :
    (k.write c verb name object).object? d target = k.object? d target := by
  rw [object?, write]
  by_cases same : d = c
  · subst same
    rw [store_setStore, Store.get?_put_of_ne _ _ _ (different rfl)]
    rfl
  · rw [store_setStore_of_ne _ _ same]
    rfl

/-- A write is seen under its name only, and leaves either nothing there or what was written. -/
theorem eq_stamped_of_object?_write {target : String} {found : c.Object}
    (present : (k.write c verb name object).object? c target = some found) :
    target = name ∧ found = (k.store c).stamped name object ∧ Store.isReleased found = false ∨
      target ≠ name ∧ k.object? c target = some found := by
  by_cases here : target = name
  · subst here
    rw [object?_write_self] at present
    split at present
    next => simp at present
    next held =>
      obtain rfl := Option.some.inj present
      exact Or.inl ⟨rfl, rfl, by simpa using held⟩
  · rw [object?_write_of_ne _ _ _ _ _ fun _ => here] at present
    exact Or.inr ⟨here, present⟩

@[simp]
theorem refused_write (d : Collection) : (k.write c verb name object).refused d = k.refused d := by
  rw [refused, write]
  by_cases same : d = c
  · subst same
    rw [store_setStore]
    rfl
  · rw [store_setStore_of_ne _ _ same]
    rfl

@[simp]
theorem clock_write : (k.write c verb name object).clock = k.clock := by
  cases c <;> rfl

end Write

/-- Why a request fails of itself, whatever the server refuses. -/
def Unfit (k : Cluster) : Request → Prop
  | .create c object => k.object? c (Resource.name object) ≠ none
  | .replace c name object => ∀ old, k.object? c name = some old →
      (Resource.metadata object).resourceVersion ≠ (Resource.metadata old).resourceVersion
  | .patch c name change => ∀ old, k.object? c name = some old →
      (decode (Json.merge (encode old) change) : Option c.Object) = none
  | .patchStatus c name change => ∀ old, k.object? c name = some old →
      (decode (Json.merge (encode old) (.object [("status", change.field "status")])) :
        Option c.Object) = none
  | .get .. | .getIn .. | .list .. | .delete .. => False

/-- The answer to a request and the cluster after it. -/
inductive Served (k : Cluster) : (r : Request) → Except StoreError r.Answer → Cluster → Prop where
  | failed {r : Request} (error : StoreError)
      (why : k.refused r.collection r.verb ≠ none ∨ k.Unfit r) : Served k r (.error error) k
  | got (c : Collection) (name : String) : Served k (.get c name) (.ok (k.object? c name)) k
  | gotIn (c : Collection) («namespace» name : String) (found : Option c.Object) :
      Served k (.getIn c «namespace» name) (.ok found) k
  | listed (c : Collection) : Served k (.list c) (.ok (k.store c).objects.values) k
  | created (c : Collection) (object answer : c.Object)
      (absent : k.object? c (Resource.name object) = none) :
      Served k (.create c object) (.ok answer)
        (k.write c .create (Resource.name object)
          (Store.setDeletion (Resource.settled object) none))
  | replaced (c : Collection) (name : String) (object old answer : c.Object)
      (found : k.object? c name = some old) :
      Served k (.replace c name object) (.ok answer)
        (k.write c .replace name (Store.setDeletion (Resource.settled object)
          (Resource.metadata old).deletionTimestamp))
  | alreadyGone (c : Collection) (name : String) (absent : k.object? c name = none) :
      Served k (.delete c name) (.ok ()) k
  | deleted (c : Collection) (name : String) (old : c.Object)
      (found : k.object? c name = some old) :
      Served k (.delete c name) (.ok ())
        (k.write c .delete name (Store.asked k.clock old))
  | patched (c : Collection) (name : String) (change : Json) (old new answer : c.Object)
      (found : k.object? c name = some old)
      (read : decode (Json.merge (encode old) change) = some new) :
      Served k (.patch c name change) (.ok answer) (k.write c .patch name new)
  | patchedStatus (c : Collection) (name : String) (change : Json) (old new answer : c.Object)
      (found : k.object? c name = some old)
      (read : decode (Json.merge (encode old)
        (.object [("status", change.field "status")])) = some new) :
      Served k (.patchStatus c name change) (.ok answer) (k.write c .patchStatus name new)

/-- A request leaves every object alone but the one that it writes. -/
theorem Served.object? {k l : Cluster} {r : Request} {answer : Except StoreError r.Answer}
    (served : k.Served r answer l) {c : Collection} {name : String}
    (apart : c = r.collection → r.writes? ≠ some name) : l.object? c name = k.object? c name := by
  cases served with
  | failed | got | gotIn | listed | alreadyGone => rfl
  | created | replaced | deleted | patched | patchedStatus =>
      exact object?_write_of_ne _ _ _ _ _ fun same written =>
        apart same (congrArg some written.symm)

theorem Served.refused {k l : Cluster} {r : Request} {answer : Except StoreError r.Answer}
    (served : k.Served r answer l) : l.refused = k.refused := by
  cases served with
  | failed | got | gotIn | listed | alreadyGone => rfl
  | created | replaced | deleted | patched | patchedStatus =>
      exact funext fun c => refused_write _ _ _ _ _ c

theorem Served.clock {k l : Cluster} {r : Request} {answer : Except StoreError r.Answer}
    (served : k.Served r answer l) : l.clock = k.clock := by
  cases served with
  | failed | got | gotIn | listed | alreadyGone => rfl
  | created | replaced | deleted | patched | patchedStatus => exact clock_write ..

theorem served_create (k : Cluster) (c : Collection) (object : c.Object) :
    k.Served (.create c object) (k.serve (.create c object)).1 (k.serve (.create c object)).2 := by
  simp only [serve, Store.create]
  rcases (k.store c).check_cases .create (Resource.name object) with ok | ⟨why, e, error⟩
  · rw [ok]
    cases found : (k.store c).get? (Resource.name object) with
    | none => exact .created c object _ found
    | some old => exact .failed _ (Or.inr (by simp [Unfit, object?, found]))
  · rw [error]
    exact .failed _ (Or.inl why)

theorem served_replace (k : Cluster) (c : Collection) (name : String) (object : c.Object) :
    k.Served (.replace c name object) (k.serve (.replace c name object)).1
      (k.serve (.replace c name object)).2 := by
  simp only [serve, Store.replace, Store.existing]
  rcases (k.store c).check_cases .replace name with ok | ⟨why, e, error⟩
  · rw [ok]
    cases found : (k.store c).get? name with
    | none => exact .failed _ (Or.inr (by simp [Unfit, object?, found]))
    | some old =>
        by_cases stale : (Resource.metadata object).resourceVersion.isSome ∧
            (Resource.metadata object).resourceVersion ≠ (Resource.metadata old).resourceVersion
        · have unfit : k.Unfit (.replace c name object) := by
            intro other present
            obtain rfl : old = other := Option.some.inj (found.symm.trans present)
            exact stale.2
          simp only [bind, Except.bind, if_pos stale]
          exact .failed _ (Or.inr unfit)
        · simp only [bind, Except.bind, if_neg stale]
          exact .replaced c name object old _ found
  · rw [error]
    exact .failed _ (Or.inl why)

theorem served_delete (k : Cluster) (c : Collection) (name : String) :
    k.Served (.delete c name) (k.serve (.delete c name)).1 (k.serve (.delete c name)).2 := by
  simp only [serve, Store.delete]
  rcases (k.store c).check_cases .delete name with ok | ⟨why, e, error⟩
  · rw [ok]
    cases found : (k.store c).get? name with
    | none =>
        have unchanged : k.setStore c (k.store c) = k := by cases c <;> rfl
        have gone := Served.alreadyGone (k := k) c name found
        simpa [commit, bind, Except.bind, pure, Except.pure, Except.map, unchanged] using gone
    | some old => exact .deleted c name old found
  · rw [error]
    exact .failed _ (Or.inl why)

theorem served_patch (k : Cluster) (c : Collection) (name : String) (change : Json) :
    k.Served (.patch c name change) (k.serve (.patch c name change)).1
      (k.serve (.patch c name change)).2 := by
  simp only [serve, Store.patch, Store.patched, Store.existing]
  rcases (k.store c).check_cases .patch name with ok | ⟨why, e, error⟩
  · rw [ok]
    cases found : (k.store c).get? name with
    | none => exact .failed _ (Or.inr (by simp [Unfit, object?, found]))
    | some old =>
        cases read : (decode (Json.merge (encode old) change) : Option c.Object) with
        | none =>
            have unfit : k.Unfit (.patch c name change) := by
              intro other present
              obtain rfl : old = other := Option.some.inj (found.symm.trans present)
              exact read
            simp only [bind, Except.bind, read]
            exact .failed _ (Or.inr unfit)
        | some new =>
            simp only [bind, Except.bind, read]
            exact .patched c name change old new _ found read
  · rw [error]
    exact .failed _ (Or.inl why)

theorem served_patchStatus (k : Cluster) (c : Collection) (name : String) (change : Json) :
    k.Served (.patchStatus c name change) (k.serve (.patchStatus c name change)).1
      (k.serve (.patchStatus c name change)).2 := by
  simp only [serve, Store.patchStatus, Store.patched, Store.existing]
  rcases (k.store c).check_cases .patchStatus name with ok | ⟨why, e, error⟩
  · rw [ok]
    cases found : (k.store c).get? name with
    | none => exact .failed _ (Or.inr (by simp [Unfit, object?, found]))
    | some old =>
        cases read : (decode (Json.merge (encode old)
            (.object [("status", change.field "status")])) : Option c.Object) with
        | none =>
            have unfit : k.Unfit (.patchStatus c name change) := by
              intro other present
              obtain rfl : old = other := Option.some.inj (found.symm.trans present)
              exact read
            simp only [bind, Except.bind, read]
            exact .failed _ (Or.inr unfit)
        | some new =>
            simp only [bind, Except.bind, read]
            exact .patchedStatus c name change old new _ found read
  · rw [error]
    exact .failed _ (Or.inl why)

/-- These are all the cases. -/
theorem served (k : Cluster) (r : Request) : k.Served r (k.serve r).1 (k.serve r).2 := by
  cases r with
  | get c name =>
      simp only [serve, Store.get]
      rcases (k.store c).check_cases .get name with ok | ⟨why, e, error⟩
      · rw [ok]
        exact .got c name
      · rw [error]
        exact .failed _ (Or.inl why)
  | getIn c «namespace» name =>
      simp only [serve, Store.get]
      rcases (k.store c).check_cases .get name with ok | ⟨why, e, error⟩
      · rw [ok]
        exact .gotIn c «namespace» name _
      · rw [error]
        exact .failed _ (Or.inl why)
  | list c =>
      simp only [serve, Store.list]
      rcases (k.store c).check_cases .list "" with ok | ⟨why, e, error⟩
      · rw [ok]
        exact .listed c
      · rw [error]
        exact .failed _ (Or.inl why)
  | create c object => exact k.served_create c object
  | replace c name object => exact k.served_replace c name object
  | delete c name => exact k.served_delete c name
  | patch c name change => exact k.served_patch c name change
  | patchStatus c name change => exact k.served_patchStatus c name change

end Cluster

end NfsStorage

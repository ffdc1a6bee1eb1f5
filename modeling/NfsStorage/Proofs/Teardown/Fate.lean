import NfsStorage.Proofs.Store.Listing
import NfsStorage.Teardown

/-!
# What becomes of an object

A step of the teardown lets an object stay as it is, frees it of its finalizers or makes it go. Which
of these it is depends on the object and on what its own server refuses, and so does what the step
has to report. Whatever was refused before, an object that is left comes to the same in the end.
-/

namespace NfsStorage

namespace Resource

variable {K : Type} [Resource K]

/-- An object that nothing holds any more, under its own name. -/
def freed (object : K) : K :=
  withMetadata object { metadata object with name := some (name object), finalizers := none }

/-- An object apart from its version. -/
def unversioned (object : K) : K :=
  withMetadata object { metadata object with resourceVersion := none }

variable [LawfulResource K]

@[simp]
theorem metadata_freed (object : K) :
    metadata (freed object) =
      { metadata object with name := some (name object), finalizers := none } :=
  metadata_withMetadata _ _

@[simp]
theorem unversioned_withVersion (object : K) (version : Nat) :
    unversioned (Store.withVersion object version) = unversioned object := by
  simp [unversioned, Store.withVersion]

end Resource

namespace Teardown

inductive Fate where
  | stays | freed | goes
deriving DecidableEq, Repr

/-- What is found in the place of an object after its fate. -/
def Fate.Met {K : Type} [Resource K] (object : K) : Fate → Option K → Prop
  | stays, found => found = some object
  | freed, found => ∃ version, found = some (Store.withVersion (Resource.freed object) version)
  | goes, found => found = none

def Error.cause : Error → StoreError
  | list _ cause | clearFinalizers _ _ cause | delete _ _ cause => cause

namespace Step

variable (s : Step)

/-- The fate of an object that a step takes. It is left alone while its finalizers cannot be
cleared; else it goes if the step deletes it, or if its deletion was asked for before. -/
def fateOf (refused : Verb → Option Nat) (object : s.collection.Object) : Fate :=
  let held := !(Resource.metadata object).finalizerList.isEmpty
  if held && (refused .patch).isSome then .stays
  else if s.deletes && (refused .delete).isNone then .goes
  else if !held then .stays
  else if Resource.isDeleting object then .goes
  else .freed

def fate (refused : Verb → Option Nat) (object : s.collection.Object) : Fate :=
  if (refused .list).isNone && s.takes object then s.fateOf refused object else .stays

def undeleted (refused : Verb → Option Nat) (name : String) : List Error :=
  match s.deletes, refused .delete with
  | true, some code => [.delete s.kind name (.api (Verb.delete.refusal code name))]
  | _, _ => []

def failuresOf (refused : Verb → Option Nat) (object : s.collection.Object) : List Error :=
  let name := Resource.name object
  match (Resource.metadata object).finalizerList, refused .patch with
  | _ :: _, some code => [.clearFinalizers s.kind name (.api (Verb.patch.refusal code name))]
  | _, _ => s.undeleted refused name

def failures (store : Store s.collection.Object) : List Error :=
  match store.refused .list with
  | some code => [.list s.kind (.api (Verb.list.refusal code ""))]
  | none => (store.objects.values.filter s.takes).flatMap (s.failuresOf store.refused)

/-- Every object of a store met with its fate, and none is new. -/
def Done (before after : Store s.collection.Object) : Prop :=
  ∀ name, match before.get? name with
    | none => after.get? name = none
    | some object => (s.fate before.refused object).Met object (after.get? name)

/-- What remains of an object once nothing is refused, apart from its version. -/
def remains (object : s.collection.Object) : Option s.collection.Object :=
  match s.fate (fun _ => none) object with
  | .stays => some (Resource.unversioned object)
  | .freed => some (Resource.unversioned (Resource.freed object))
  | .goes => none

/-- The objects of a step are read back as they were written, and what a step takes does not go by
the metadata. -/
structure Fair : Prop where
  lawful : LawfulResource s.collection.Object
  takes : ∀ object m, s.takes (Resource.withMetadata object m) = s.takes object

theorem fair_of_mem {s : Step} (listed : s ∈ steps) : s.Fair := by
  simp only [steps, List.mem_cons, List.not_mem_nil, or_false] at listed
  rcases listed with rfl | rfl | rfl | rfl | rfl
  all_goals exact ⟨inferInstance, fun _ _ => rfl⟩

section Remains

variable {s} {refused : Verb → Option Nat} {object : s.collection.Object}

theorem fate_eq_stays_of_not_takes (leaves : s.takes object = false) :
    s.fate refused object = .stays := by
  simp [fate, leaves]

theorem fate_calm (takes : s.takes object = true) :
    s.fate (fun _ => none) object =
      if s.deletes then .goes
      else if (Resource.metadata object).finalizerList.isEmpty then .stays
      else if Resource.isDeleting object then .goes
      else .freed := by
  simp [fate, fateOf, takes]

theorem freed_of_fate (fate : s.fate refused object = .freed) :
    s.takes object = true ∧ (Resource.metadata object).finalizerList.isEmpty = false ∧
      Resource.isDeleting object = false := by
  simp only [Step.fate, fateOf] at fate
  grind

theorem goes_of_fate (fate : s.fate refused object = .goes) :
    s.fate (fun _ => none) object = .goes := by
  simp only [Step.fate, fateOf] at fate ⊢
  grind

/-- After whatever failures, what is left of an object will come to what it would have come to. -/
theorem bind_remains_of_met (fair : s.Fair) {found : Option s.collection.Object}
    (met : (s.fate refused object).Met object found) : found.bind s.remains = s.remains object := by
  have := fair.lawful
  cases fate : s.fate refused object with
  | stays =>
      rw [fate] at met
      obtain rfl : found = some object := met
      rfl
  | goes =>
      rw [fate] at met
      obtain rfl : found = none := met
      rw [remains, goes_of_fate fate]
      rfl
  | freed =>
      rw [fate] at met
      obtain ⟨version, rfl⟩ := met
      obtain ⟨takes, held, alive⟩ := freed_of_fate fate
      have takesFreed : s.takes (Store.withVersion (Resource.freed object) version) = true := by
        rw [Store.withVersion, fair.takes, Resource.freed, fair.takes, takes]
      have bare : (Resource.metadata (Store.withVersion (Resource.freed object) version)
          ).finalizerList.isEmpty = true := by
        simp [Store.withVersion, Metadata.finalizerList]
      rw [Option.bind_some, remains, remains, fate_calm takesFreed, fate_calm takes, held, alive,
        bare]
      cases s.deletes <;> simp

/-- Without failures, what is left of an object is what remains of it. -/
theorem map_unversioned_of_met [LawfulResource s.collection.Object]
    {found : Option s.collection.Object}
    (met : (s.fate (fun _ => none) object).Met object found) :
    found.map Resource.unversioned = s.remains object := by
  rw [remains]
  cases fate : s.fate (fun _ => none) object with
  | stays =>
      rw [fate] at met
      obtain rfl : found = some object := met
      rfl
  | goes =>
      rw [fate] at met
      obtain rfl : found = none := met
      rfl
  | freed =>
      rw [fate] at met
      obtain ⟨version, rfl⟩ := met
      exact congrArg some (Resource.unversioned_withVersion _ _)

/-- Without failures, a step leaves nothing that it would have to take in hand. -/
theorem cleared_of_met (fair : s.Fair) {found : s.collection.Object}
    (met : (s.fate (fun _ => none) object).Met object (some found))
    (takes : s.takes found = true) :
    s.deletes = false ∧ (Resource.metadata found).finalizerList = [] ∧
      (Store.isReleased object = false → Resource.isDeleting found = false) := by
  have := fair.lawful
  cases fate : s.fate (fun _ => none) object with
  | stays =>
      rw [fate] at met
      obtain rfl := Option.some.inj met
      rw [fate_calm takes] at fate
      have bare : (Resource.metadata found).finalizerList.isEmpty = true ∧ s.deletes = false := by
        grind
      refine ⟨bare.2, List.isEmpty_iff.mp bare.1, fun lasts => ?_⟩
      rwa [Store.isReleased, bare.1, Bool.and_true] at lasts
  | goes =>
      rw [fate] at met
      cases met
  | freed =>
      rw [fate] at met
      obtain ⟨version, made⟩ := met
      obtain rfl := Option.some.inj made
      obtain ⟨takes, -, alive⟩ := freed_of_fate fate
      rw [fate_calm takes] at fate
      refine ⟨by grind, by simp [Store.withVersion, Metadata.finalizerList], fun _ => ?_⟩
      rw [Resource.isDeleting, Store.withVersion, Resource.metadata_withMetadata,
        Resource.metadata_freed]
      exact alive

end Remains

section Failures

variable {s} {store : Store s.collection.Object}

theorem exists_of_mem_failures {kind name : String}
    {cause : StoreError} (reported : .clearFinalizers kind name cause ∈ s.failures store) :
    kind = s.kind ∧ ∃ object ∈ store.objects.values, Resource.name object = name ∧
      s.fate store.refused object = .stays := by
  rw [failures] at reported
  split at reported
  next => cases List.mem_singleton.mp reported
  next serves =>
    obtain ⟨object, taken, failed⟩ := List.mem_flatMap.mp reported
    obtain ⟨listed, takes⟩ := List.mem_filter.mp taken
    simp only [failuresOf] at failed
    split at failed
    next first rest code held refused =>
      cases List.mem_singleton.mp failed
      refine ⟨rfl, object, listed, rfl, ?_⟩
      simp [fate, fateOf, serves, takes, held, refused]
    next =>
      rw [undeleted] at failed
      split at failed
      next => cases List.mem_singleton.mp failed
      next => cases failed

theorem failures_calm (calm : store.refused = fun _ => none) :
    s.failures store = [] := by
  rw [failures, calm]
  refine List.flatMap_eq_nil_iff.mpr fun object _ => ?_
  simp only [failuresOf, undeleted]
  cases (Resource.metadata object).finalizerList <;> cases s.deletes <;> rfl

end Failures

end Step

end Teardown

end NfsStorage

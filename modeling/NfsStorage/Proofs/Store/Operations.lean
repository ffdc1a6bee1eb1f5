import NfsStorage.Proofs.Store.Verdict
import NfsStorage.Proofs.Store.Versioned

/-!
# Operations on a store

Clients ask a store for one operation after the other, in any order, and on the way its server is
told to refuse a verb or to refuse nothing any more. `Performed` lists what an operation can come
to; what is proved about whole runs of operations looks at a single one through it.
-/

namespace NfsStorage

namespace Store

/-- An operation on a store. A deletion comes with the time of the server's clock; by `refuse` and
`heal` the server is told which calls to refuse. -/
inductive Operation (K : Type) where
  | get (name : String)
  | list
  | create (object : K)
  | replace (name : String) (object : K)
  | delete (now : Time) (name : String)
  | patch (name : String) (change : Json)
  | patchStatus (name : String) (change : Json)
  | refuse (verb : Verb) (code : Nat)
  | heal

variable {K : Type} [Resource K]

/-- The answer to a write and the store after it, which is the old one if the write failed. -/
def conclude (s : Store K) :
    Except StoreError (K × Store K) → Except StoreError (List K) × Store K
  | .ok (object, s') => (.ok [object], s')
  | .error e => (.error e, s)

/-- Carry out an operation, which is answered with the objects that it shows to the client. -/
def perform (s : Store K) : Operation K → Except StoreError (List K) × Store K
  | .get name => ((s.get name).map Option.toList, s)
  | .list => (s.list, s)
  | .create object => s.conclude (s.create object)
  | .replace name object => s.conclude (s.replace name object)
  | .delete now name =>
    match s.delete now name with
    | .ok s' => (.ok [], s')
    | .error e => (.error e, s)
  | .patch name change => s.conclude (s.patch name change)
  | .patchStatus name change => s.conclude (s.patchStatus name change)
  | .refuse verb code => (.ok [], s.refuse verb code)
  | .heal => (.ok [], s.heal)

def after (s : Store K) (operations : List (Operation K)) : Store K :=
  operations.foldl (fun s operation => (s.perform operation).2) s

theorem after_cons (s : Store K) (operation : Operation K) (rest : List (Operation K)) :
    s.after (operation :: rest) = (s.perform operation).2.after rest := rfl

theorem after_append (s : Store K) (earlier later : List (Operation K)) :
    s.after (earlier ++ later) = (s.after earlier).after later :=
  List.foldl_append

theorem after_induction {property : Store K → Prop} {operations : List (Operation K)}
    (step : ∀ s, ∀ operation ∈ operations, property s → property (s.perform operation).2)
    {s : Store K} (start : property s) : property (s.after operations) := by
  induction operations generalizing s with
  | nil => exact start
  | cons operation rest inductionHypothesis =>
      exact inductionHypothesis
        (fun s later membership => step s later (List.mem_cons_of_mem _ membership))
        (step s operation (List.mem_cons_self ..) start)

namespace Operation

def writes? : Operation K → Option (Verb × String)
  | get _ | list | refuse _ _ | heal => none
  | create object => some (.create, Resource.name object)
  | replace name _ => some (.replace, name)
  | delete _ name => some (.delete, name)
  | patch name _ => some (.patch, name)
  | patchStatus name _ => some (.patchStatus, name)

/-- The object that an operation writes in the place of what it finds under a name. -/
inductive Writes : Operation K → Verb → String → Option K → K → Prop where
  | create (object : K) :
      Writes (.create object) .create (Resource.name object) none
        (setDeletion (Resource.settled object) none)
  | replace (name : String) (object old : K)
      (current : ∀ version, (Resource.metadata object).resourceVersion = some version →
        (Resource.metadata old).resourceVersion = some version) :
      Writes (.replace name object) .replace name (some old)
        (setDeletion (Resource.settled object) (Resource.metadata old).deletionTimestamp)
  | delete (now : Time) (name : String) (old : K) :
      Writes (.delete now name) .delete name (some old) (asked now old)
  | patch (name : String) (change : Json) (old new : K)
      (read : decode (Json.merge (encode old) change) = some new) :
      Writes (.patch name change) .patch name (some old) new
  | patchStatus (name : String) (change : Json) (old new : K)
      (read : decode (Json.merge (encode old)
        (.object [("status", change.field "status")])) = some new) :
      Writes (.patchStatus name change) .patchStatus name (some old) new

theorem Writes.writes?_eq {operation : Operation K} {verb : Verb} {name : String}
    {found : Option K} {object : K} (writes : operation.Writes verb name found object) :
    operation.writes? = some (verb, name) := by
  cases writes <;> rfl

end Operation

/-- What an operation comes to, with its answer and the store after it. -/
inductive Performed (s : Store K) (operation : Operation K) :
    Except StoreError (List K) → Store K → Prop where
  | failed (e : StoreError) : Performed s operation (.error e) s
  | looked (shown : List K) (stored : ∀ object ∈ shown, ∃ name, s.get? name = some object)
      (idle : operation.writes? = none) : Performed s operation (.ok shown) s
  | alreadyGone (now : Time) (name : String) (same : operation = .delete now name)
      (absent : s.get? name = none) : Performed s operation (.ok []) s
  | governed (refused : Verb → Option Nat) (idle : operation.writes? = none) :
      Performed s operation (.ok []) { s with refused }
  | wrote (verb : Verb) (name : String) (object : K) (shown : List K)
      (writes : operation.Writes verb name (s.get? name) object)
      (answered : ∀ given ∈ shown, given = s.stamped name object) :
      Performed s operation (.ok shown) (s.put verb name object).2

theorem performed_settle (s : Store K) {operation : Operation K} {verb : Verb} {name : String}
    {outcome : Except StoreError K}
    (writes : ∀ object, outcome = .ok object →
      operation.Writes verb name (s.get? name) object) :
    s.Performed operation (s.conclude (s.settle verb name outcome)).1
      (s.conclude (s.settle verb name outcome)).2 := by
  rw [settle]
  cases s.check verb name with
  | error e => exact .failed e
  | ok _ =>
      cases outcome with
      | error e => exact .failed e
      | ok object =>
          refine .wrote verb name object _ (writes object rfl) fun given membership => ?_
          exact List.mem_singleton.mp membership

theorem writes_of_creation {object written : K} {found : Option K}
    (made : creation object found = .ok written) :
    (Operation.create object).Writes .create (Resource.name object) found written := by
  cases found with
  | none =>
      obtain rfl := Except.ok.inj made
      exact .create object
  | some old => cases made

theorem writes_of_replacement {name : String} {object written : K} {found : Option K}
    (made : replacement name object found = .ok written) :
    (Operation.replace name object).Writes .replace name found written := by
  cases found with
  | none => cases made
  | some old =>
      rw [replacement] at made
      split at made
      next => cases made
      next current =>
        obtain rfl := Except.ok.inj made
        refine .replace name object old fun version carried => ?_
        rw [carried] at current
        exact (Decidable.not_not.mp fun other => current ⟨rfl, other⟩).symm

theorem exists_of_patching {name : String} {change : Json} {written : K} {found : Option K}
    (made : patching name change found = .ok written) :
    ∃ old, found = some old ∧ decode (Json.merge (encode old) change) = some written := by
  cases found with
  | none => cases made
  | some old =>
      rw [patching] at made
      split at made
      next read =>
        obtain rfl := Except.ok.inj made
        exact ⟨old, rfl, read⟩
      next => cases made

theorem performed_delete (s : Store K) (now : Time) (name : String) :
    s.Performed (.delete now name) (s.perform (.delete now name)).1
      (s.perform (.delete now name)).2 := by
  rw [perform, delete]
  cases s.check .delete name with
  | error e => exact .failed e
  | ok _ =>
      cases found : s.get? name with
      | none => exact .alreadyGone now name rfl found
      | some old =>
          refine .wrote .delete name (asked now old) [] ?_ (by simp)
          rw [found]
          exact .delete now name old

theorem performed (s : Store K) (operation : Operation K) :
    s.Performed operation (s.perform operation).1 (s.perform operation).2 := by
  cases operation with
  | get name =>
      rw [perform, get]
      cases s.check .get name with
      | error e => exact .failed e
      | ok _ =>
          refine .looked (s.get? name).toList (fun object shown => ?_) rfl
          exact ⟨name, Option.mem_toList.mp shown⟩
  | list =>
      rw [perform, list]
      cases s.check .list "" with
      | error e => exact .failed e
      | ok _ =>
          exact .looked s.objects.values (fun object shown => Dict.mem_values_iff.mp shown) rfl
  | create object =>
      rw [perform, create_eq]
      exact s.performed_settle fun _ => writes_of_creation
  | replace name object =>
      rw [perform, replace_eq]
      exact s.performed_settle fun _ => writes_of_replacement
  | delete now name => exact s.performed_delete now name
  | patch name change =>
      have settled : s.patch name change =
          s.settle .patch name (patching name change (s.get? name)) := by
        rw [patch, patched_eq, settle]
      rw [perform, settled]
      refine s.performed_settle fun new made => ?_
      obtain ⟨old, found, read⟩ := exists_of_patching made
      rw [found]
      exact .patch name change old new read
  | patchStatus name change =>
      have settled : s.patchStatus name change = s.settle .patchStatus name
          (patching name (.object [("status", change.field "status")]) (s.get? name)) := by
        rw [patchStatus, patched_eq, settle]
      rw [perform, settled]
      refine s.performed_settle fun new made => ?_
      obtain ⟨old, found, read⟩ := exists_of_patching made
      rw [found]
      exact .patchStatus name change old new read
  | refuse verb code => exact .governed _ rfl
  | heal => exact .governed _ rfl

theorem performed_of_ok {s : Store K} {operation : Operation K} {shown : List K}
    (answer : (s.perform operation).1 = .ok shown) :
    s.Performed operation (.ok shown) (s.perform operation).2 :=
  answer ▸ s.performed operation

end Store

end NfsStorage

import NfsStorage.Proofs.Store.Served

/-!
# What a request comes to

Whether a request succeeds and what it writes depends on the calls that the server refuses, on the
object that the request is about and on the time. Nothing else in the cluster has a say.
-/

namespace NfsStorage

namespace Store

variable {K : Type} [Resource K]

/-- What a store writes to create an object, given what has its name. -/
def creation (object : K) : Option K → Except StoreError K
  | none => .ok (setDeletion (Resource.settled object) none)
  | some _ => .error (.api (.alreadyExists (Resource.name object)))

def replacement (name : String) (object : K) : Option K → Except StoreError K
  | none => .error (.api (.notFound name))
  | some old =>
    let expected := (Resource.metadata object).resourceVersion
    if expected.isSome ∧ expected ≠ (Resource.metadata old).resourceVersion then
      .error (.api (.modified name))
    else .ok (setDeletion (Resource.settled object) (Resource.metadata old).deletionTimestamp)

def patching (name : String) (patch : Json) : Option K → Except StoreError K
  | none => .error (.api (.notFound name))
  | some old =>
    match decode (Json.merge (encode old) patch) with
    | some new => .ok new
    | none => .error .undecodable

def settle (s : Store K) (verb : Verb) (name : String) (outcome : Except StoreError K) :
    Except StoreError (K × Store K) := do
  s.check verb name
  let object ← outcome
  return s.put verb name object

theorem exists_of_settle {s s' : Store K} {verb : Verb} {name : String}
    {outcome : Except StoreError K} {answer : K}
    (made : s.settle verb name outcome = .ok (answer, s')) :
    ∃ object, outcome = .ok object ∧ answer = s.stamped name object ∧
      s' = (s.put verb name object).2 := by
  rw [settle] at made
  cases allowed : s.check verb name with
  | error e =>
      rw [allowed] at made
      cases made
  | ok _ =>
      rw [allowed] at made
      cases outcome with
      | error e => cases made
      | ok object =>
          obtain ⟨rfl, rfl⟩ := Prod.mk.inj (Except.ok.inj made)
          exact ⟨object, rfl, rfl, rfl⟩

variable (s : Store K)

theorem create_eq (object : K) :
    s.create object = s.settle .create (Resource.name object)
      (creation object (s.get? (Resource.name object))) := by
  simp only [create, settle]
  cases s.get? (Resource.name object) <;> rfl

theorem replace_eq (name : String) (object : K) :
    s.replace name object = s.settle .replace name (replacement name object (s.get? name)) := by
  simp only [replace, settle, existing]
  cases s.get? name with
  | none => rfl
  | some old =>
      by_cases stale : (Resource.metadata object).resourceVersion.isSome ∧
          (Resource.metadata object).resourceVersion ≠ (Resource.metadata old).resourceVersion
      · simp only [replacement, bind, Except.bind, if_pos stale]
        rfl
      · simp only [replacement, bind, Except.bind, if_neg stale]

theorem patched_eq (name : String) (patch : Json) :
    s.patched name patch = patching name patch (s.get? name) := by
  simp only [patched, existing, patching]
  cases s.get? name with
  | none => rfl
  | some old =>
      simp only [bind, Except.bind]
      cases (decode (Json.merge (encode old) patch) : Option K) <;> rfl

end Store

namespace Request

/-- The name of the object that a request is about. -/
def subject : Request → String
  | get _ name | getIn _ _ name | replace _ name _ | delete _ name | patch _ name _
  | patchStatus _ name _ => name
  | create _ object => Resource.name object
  | list _ => ""

/-- What a request comes to that the server does not refuse: a failure, or what is written in the
place of the object that the request is about, if anything is. -/
def verdict : (r : Request) → (now : Time) → Option r.collection.Object →
    Except StoreError (Option r.collection.Object)
  | get .., _, _ | getIn .., _, _ | list .., _, _ => .ok none
  | create _ object, _, found => (Store.creation object found).map some
  | replace _ name object, _, found => (Store.replacement name object found).map some
  | delete _ _, now, found => .ok (found.map (Store.asked now))
  | patch _ name change, _, found => (Store.patching name change found).map some
  | patchStatus _ name change, _, found =>
    (Store.patching name (.object [("status", change.field "status")]) found).map some

end Request

namespace Cluster

variable (k : Cluster)

def effect (r : Request) : Except StoreError Unit × Cluster :=
  ((k.serve r).1.map fun _ => (), (k.serve r).2)

def carryOut (c : Collection) (verb : Verb) (name : String)
    (verdict : Except StoreError (Option c.Object)) : Except StoreError Unit × Cluster :=
  match (k.store c).check verb name, verdict with
  | .error e, _ | .ok (), .error e => (.error e, k)
  | .ok (), .ok none => (.ok (), k)
  | .ok (), .ok (some object) => (.ok (), k.write c verb name object)

theorem setStore_store (c : Collection) : k.setStore c (k.store c) = k := by
  cases c <;> rfl

theorem carryOut_none (c : Collection) (verb : Verb) (name : String) :
    k.carryOut c verb name (.ok none) = ((k.store c).check verb name, k) := by
  unfold carryOut
  cases (k.store c).check verb name <;> rfl

theorem carryOut_settle (c : Collection) (verb : Verb) (name : String)
    (outcome : Except StoreError c.Object) :
    let result := k.commit c ((k.store c).settle verb name outcome)
    (result.1.map fun _ => (), result.2) = k.carryOut c verb name (outcome.map some) := by
  unfold Store.settle carryOut
  cases (k.store c).check verb name with
  | error e => rfl
  | ok _ => cases outcome <;> rfl

theorem effect_eq (r : Request) :
    k.effect r = k.carryOut r.collection r.verb r.subject
      (r.verdict k.clock (k.object? r.collection r.subject)) := by
  cases r with
  | get c name =>
      refine Eq.trans ?_ (k.carryOut_none c .get name).symm
      rw [effect, serve, Store.get]
      cases (k.store c).check .get name <;> rfl
  | getIn c «namespace» name =>
      refine Eq.trans ?_ (k.carryOut_none c .get name).symm
      rw [effect, serve, Store.get]
      cases (k.store c).check .get name <;> rfl
  | list c =>
      refine Eq.trans ?_ (k.carryOut_none c .list "").symm
      rw [effect, serve, Store.list]
      cases (k.store c).check .list "" <;> rfl
  | create c object =>
      rw [effect, serve, Store.create_eq]
      exact k.carryOut_settle c _ _ _
  | replace c name object =>
      rw [effect, serve, Store.replace_eq]
      exact k.carryOut_settle c _ _ _
  | delete c name =>
      change _ = k.carryOut c .delete name (.ok (((k.store c).get? name).map _))
      rw [effect, serve, Store.delete]
      unfold carryOut
      cases (k.store c).check .delete name with
      | error e => rfl
      | ok _ =>
          cases (k.store c).get? name with
          | none => exact congrArg (Prod.mk (Except.ok ())) (k.setStore_store c)
          | some old => rfl
  | patch c name change =>
      rw [effect, serve, Store.patch, Store.patched_eq]
      exact k.carryOut_settle c _ _ _
  | patchStatus c name change =>
      rw [effect, serve, Store.patchStatus, Store.patched_eq]
      exact k.carryOut_settle c _ _ _

section Serve

variable {k : Cluster} {r : Request}

theorem serve_of_refused {code : Nat} (refused : k.refused r.collection r.verb = some code) :
    k.serve r = (.error (.api (r.verb.refusal code r.subject)), k) := by
  have refused : (k.store r.collection).refused r.verb = some code := refused
  have came := k.effect_eq r
  simp only [carryOut, Store.check, refused, effect, Prod.mk.injEq] at came
  obtain ⟨answered, same⟩ := came
  cases answer : (k.serve r).1 with
  | ok a =>
      rw [answer] at answered
      exact nomatch answered
  | error e =>
      rw [answer] at answered
      obtain rfl := Except.error.inj answered
      exact Prod.ext answer same

theorem serve_of_verdict (serves : k.refused r.collection r.verb = none)
    (written : Option r.collection.Object)
    (does : r.verdict k.clock (k.object? r.collection r.subject) = .ok written) :
    ∃ answer, k.serve r = (.ok answer,
      written.elim k (k.write r.collection r.verb r.subject)) := by
  have serves : (k.store r.collection).refused r.verb = none := serves
  have came : k.effect r = (.ok (), written.elim k (k.write r.collection r.verb r.subject)) := by
    rw [effect_eq, does]
    simp only [carryOut, Store.check, serves]
    cases written <;> rfl
  obtain ⟨answered, after⟩ := Prod.mk.inj came
  cases answer : (k.serve r).1 with
  | ok a => exact ⟨a, Prod.ext answer after⟩
  | error e =>
      rw [answer] at answered
      exact nomatch answered

section Finalizers

variable {c : Collection} [LawfulResource c.Object] {name : String}

theorem serve_delete_of_bare (serves : k.refused c .delete = none)
    (bare : ∀ object, k.object? c name = some object →
      (Resource.metadata object).finalizerList = []) :
    (k.serve (.delete c name)).1 = .ok () ∧ (k.serve (.delete c name)).2.object? c name = none := by
  obtain ⟨⟨⟩, served⟩ := serve_of_verdict (r := .delete c name) serves _ rfl
  rw [served]
  refine ⟨rfl, ?_⟩
  change (((k.object? c name).map (Store.asked k.clock)).elim k
    (k.write c .delete name)).object? c name = none
  cases found : k.object? c name with
  | none => exact found
  | some object =>
      change (k.write c .delete name (Store.asked k.clock object)).object? c name = none
      rw [object?_write_self, Store.isReleased_stamped, Store.isReleased_asked (bare object found),
        if_pos rfl]

theorem serve_finalizersPatch (serves : k.refused c .patch = none) {object : c.Object}
    (found : k.object? c name = some object) (timed : (Resource.metadata object).Timed)
    (finalizers : List String) :
    ∃ answer, k.serve (.patch c name (finalizersPatch finalizers)) =
      (.ok answer, k.write c .patch name (Resource.heldBy object finalizers)) := by
  refine serve_of_verdict (r := .patch c name (finalizersPatch finalizers)) serves
    (some (Resource.heldBy object finalizers)) ?_
  change (Store.patching name _ (k.object? c name)).map some = _
  rw [found, Store.patching, Resource.decode_finalizersPatch timed]
  rfl

end Finalizers

end Serve

end Cluster

end NfsStorage

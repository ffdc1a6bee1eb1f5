import NfsStorage.Proofs.Store.Served

/-!
# Passes that succeed

A pass that is run alone and succeeds has succeeded in each of its parts. Taken apart in this way it
tells what was read on the way and what it was read from.
-/

namespace NfsStorage

namespace Cluster

variable {k l : Cluster} {c : Collection}

theorem serve_get (k : Cluster) (c : Collection) (name : String) :
    k.serve (.get c name) = (.ok (k.object? c name), k) ∧ k.refused c .get = none ∨
      k.refused c .get ≠ none ∧ ∃ e, k.serve (.get c name) = (.error e, k) := by
  simp only [serve, Store.get, refused, Store.check]
  cases (k.store c).refused .get with
  | none => exact Or.inl ⟨rfl, rfl⟩
  | some code => exact Or.inr ⟨Option.some_ne_none _, _, rfl⟩

theorem serve_list (k : Cluster) (c : Collection) :
    k.serve (.list c) = (.ok (k.store c).objects.values, k) ∧ k.refused c .list = none ∨
      k.refused c .list ≠ none ∧ ∃ e, k.serve (.list c) = (.error e, k) := by
  simp only [serve, Store.list, refused, Store.check]
  cases (k.store c).refused .list with
  | none => exact Or.inl ⟨rfl, rfl⟩
  | some code => exact Or.inr ⟨Option.some_ne_none _, _, rfl⟩

theorem serve_get_eq_ok_iff {name : String} {found : Option c.Object} :
    k.serve (.get c name) = (.ok found, l) ↔
      k.refused c .get = none ∧ found = k.object? c name ∧ l = k := by
  rcases k.serve_get c name with ⟨served, serves⟩ | ⟨refuses, e, served⟩
  · rw [served, Prod.mk.injEq, Except.ok.injEq]
    constructor
    · rintro ⟨rfl, rfl⟩
      exact ⟨serves, rfl, rfl⟩
    · rintro ⟨-, rfl, rfl⟩
      exact ⟨rfl, rfl⟩
  · rw [served]
    constructor
    · exact fun failed => nomatch failed
    · exact fun ⟨serves, _⟩ => absurd serves refuses

theorem serve_getIn_eq_ok_iff {«namespace» name : String} {found : Option c.Object} :
    k.serve (.getIn c «namespace» name) = (.ok found, l) ↔
      k.refused c .get = none ∧
        found = (k.object? c name).filter (fun object =>
          (Resource.metadata object).namespace.getD "" = «namespace») ∧ l = k := by
  simp only [serve, Store.get, refused, Store.check]
  cases (k.store c).refused .get with
  | none =>
      simp only [bind, Except.bind, pure, Except.pure, Except.map, Prod.mk.injEq, Except.ok.injEq,
        true_and]
      rw [eq_comm, @eq_comm _ k]
      rfl
  | some code => simp [bind, Except.bind, Except.map]

theorem serve_list_eq_ok_iff {objects : List c.Object} :
    k.serve (.list c) = (.ok objects, l) ↔
      k.refused c .list = none ∧ objects = (k.store c).objects.values ∧ l = k := by
  simp only [serve, Store.list, refused, Store.check]
  cases (k.store c).refused .list with
  | none =>
      simp only [bind, Except.bind, pure, Except.pure, Prod.mk.injEq, Except.ok.injEq, true_and]
      rw [eq_comm, @eq_comm _ k]
  | some code => simp [bind, Except.bind]

theorem serve_delete_eq_ok_iff {name : String} :
    (∃ l, k.serve (.delete c name) = (.ok (), l)) ↔ k.refused c .delete = none := by
  simp only [serve, Store.delete, refused, Store.check]
  cases (k.store c).refused .delete with
  | none =>
      refine ⟨fun _ => rfl, fun _ => ?_⟩
      cases (k.store c).get? name with
      | none => simp [commit, bind, Except.bind, pure, Except.pure, Except.map]
      | some object => simp [commit, bind, Except.bind, pure, Except.pure, Except.map]
  | some code => simp [commit, bind, Except.bind, Except.map]

theorem Served.store_of_ne {r : Request} {answer : Except StoreError r.Answer}
    (served : k.Served r answer l) (elsewhere : c ≠ r.collection) : l.store c = k.store c := by
  cases served with
  | failed | got | gotIn | listed | alreadyGone => rfl
  | created | replaced | deleted | patched | patchedStatus =>
      exact store_setStore_of_ne _ _ elsewhere

end Cluster

namespace Pass

variable {α β ε : Type} {k l m : Cluster}

/-- Run alone, the pass ends with an answer and not with an error. -/
def Succeeds (x : Pass ε α) (k : Cluster) (a : α) (l : Cluster) : Prop :=
  (ExceptT.run x).run .direct k = (.ok a, l)

@[simp]
theorem succeeds_pure {a b : α} : Succeeds (pure a : Pass ε α) k b l ↔ b = a ∧ l = k := by
  change (Except.ok a, k) = (Except.ok b, l) ↔ _
  rw [Prod.mk.injEq, Except.ok.injEq, eq_comm, @eq_comm _ k]

theorem succeeds_lift {result : Except ε α} {a : α} :
    Succeeds (ExceptT.mk (pure result) : Pass ε α) k a l ↔ result = .ok a ∧ l = k := by
  change (result, k) = (Except.ok a, l) ↔ _
  rw [Prod.mk.injEq, @eq_comm _ k]

theorem not_succeeds_throw {e : ε} {a : α} : ¬ Succeeds (throw e : Pass ε α) k a l :=
  fun thrown => nomatch thrown

theorem run_bind (x : Pass ε α) (f : α → Pass ε β) (k : Cluster) :
    (ExceptT.run (x >>= f)).run .direct k =
      (ExceptT.bindCont f ((ExceptT.run x).run .direct k).1).run .direct
        ((ExceptT.run x).run .direct k).2 := Program.run_bind _ _ _ _

theorem run_lift_bind (p : Program α) (f : α → Pass ε β) :
    ExceptT.run ((monadLift p : Pass ε α) >>= f) = p >>= fun a => ExceptT.run (f a) := by
  change (p.bind fun a => .done (.ok a)).bind (ExceptT.bindCont f) =
    p.bind fun a => ExceptT.run (f a)
  induction p with
  | done a => rfl
  | request r next inductionHypothesis =>
      exact congrArg (Program.request r) (funext inductionHypothesis)
  | sleep milliseconds next inductionHypothesis =>
      exact congrArg (Program.sleep milliseconds) inductionHypothesis

theorem Succeeds.run_bind {x : Pass ε α} {f : α → Pass ε β} {a : α} (first : Succeeds x k a l) :
    (ExceptT.run (x >>= f)).run .direct k = (ExceptT.run (f a)).run .direct l := by
  rw [Pass.run_bind, show (ExceptT.run x).run .direct k = (.ok a, l) from first]
  rfl

theorem succeeds_bind {x : Pass ε α} {f : α → Pass ε β} {b : β} :
    Succeeds (x >>= f) k b m ↔ ∃ a l, Succeeds x k a l ∧ Succeeds (f a) l b m := by
  unfold Succeeds
  rw [run_bind]
  generalize (ExceptT.run x).run .direct k = first
  obtain ⟨result, l⟩ := first
  cases result with
  | ok a =>
      constructor
      · exact fun rest => ⟨a, l, rfl, rest⟩
      · rintro ⟨a', l', same, rest⟩
        obtain ⟨answered, rfl⟩ := Prod.mk.inj same
        obtain rfl := Except.ok.inj answered
        exact rest
  | error e =>
      constructor
      · exact fun failed => nomatch failed
      · rintro ⟨a', l', same, -⟩
        exact nomatch same

theorem succeeds_request {r : Request} {failure : StoreError → ε} {a : r.Answer} :
    Succeeds (Pass.request r failure) k a l ↔ k.serve r = (.ok a, l) := by
  change ((k.serve r).1.mapError failure, (k.serve r).2) = _ ↔ _
  generalize k.serve r = served
  obtain ⟨answer, m⟩ := served
  cases answer with
  | ok given => simp [Except.mapError_ok]
  | error e => simp [Except.mapError_error]

theorem succeeds_get {c : Collection} {name : String} {failure : StoreError → ε}
    {found : Option c.Object} :
    Succeeds (Pass.request (.get c name) failure) k found l ↔
      k.refused c .get = none ∧ found = k.object? c name ∧ l = k :=
  succeeds_request.trans Cluster.serve_get_eq_ok_iff

theorem succeeds_getIn {c : Collection} {«namespace» name : String} {failure : StoreError → ε}
    {found : Option c.Object} :
    Succeeds (Pass.request (.getIn c «namespace» name) failure) k found l ↔
      k.refused c .get = none ∧
        found = (k.object? c name).filter (fun object =>
          (Resource.metadata object).namespace.getD "" = «namespace») ∧ l = k :=
  succeeds_request.trans Cluster.serve_getIn_eq_ok_iff

theorem succeeds_list {c : Collection} {failure : StoreError → ε} {objects : List c.Object} :
    Succeeds (Pass.request (.list c) failure) k objects l ↔
      k.refused c .list = none ∧ objects = (k.store c).objects.values ∧ l = k :=
  succeeds_request.trans Cluster.serve_list_eq_ok_iff

end Pass

end NfsStorage

import NfsStorage.Proofs.Store.History

/-!
# What becomes of a cluster

A client that has looked at an object knows its version. Until the client writes, others may have
asked for anything, and the server may have refused other calls. The object is then still the one
that was looked at, or its version is gone from its name for good.
-/

namespace NfsStorage

namespace Store

variable {c : Collection} {s : Store c.Object}

/-- A name has what it had, or its version is gone. -/
def Follows (s : Store c.Object) (name : String) (object : c.Object) (version : Nat) : Prop :=
  s.get? name = some object ∨ s.Superseded name version

theorem Follows.put {name : String} {object : c.Object} {version : Nat}
    (follows : s.Follows name object version) (versioned : s.Versioned)
    (given : version ≤ s.version) (verb : Verb) (target : String) (written : c.Object) :
    (s.put verb target written).2.Follows name object version := by
  rcases follows with same | superseded
  · by_cases here : target = name
    · subst here
      exact Or.inr (superseded_put versioned given verb target written)
    · exact Or.inl ((get?_put_of_ne _ _ _ (Ne.symm here)).trans same)
  · exact Or.inr (superseded.put verb target written)

theorem Follows.withRefusals {name : String} {object : c.Object} {version : Nat}
    (follows : s.Follows name object version) (refused : Verb → Option Nat) :
    Follows { s with refused } name object version :=
  follows.imp_right fun superseded =>
    ⟨superseded.versioned.of_objects id (Nat.le_refl _), superseded.given, superseded.gone⟩

end Store

namespace Cluster

variable {k l : Cluster} {c : Collection} {name : String}

/-- Requests of anybody lead from one cluster to the other, whatever the server refused and whenever
they came. -/
inductive LeadsTo (k : Cluster) : Cluster → Prop where
  | refl : LeadsTo k k
  | served {l : Cluster} (r : Request) : LeadsTo k l → LeadsTo k (l.serve r).2
  | refusing {l : Cluster} (c : Collection) (refused : Verb → Option Nat) :
      LeadsTo k l → LeadsTo k (l.withRefusals c refused)
  | ticked {l : Cluster} {clock : Time} (valid : clock.Valid) :
      LeadsTo k l → LeadsTo k { l with clock }

theorem LeadsTo.trans {m : Cluster} (first : k.LeadsTo l) (rest : l.LeadsTo m) : k.LeadsTo m := by
  induction rest with
  | refl => exact first
  | served r _ inductionHypothesis => exact inductionHypothesis.served r
  | refusing c refused _ inductionHypothesis => exact inductionHypothesis.refusing c refused
  | ticked valid _ inductionHypothesis => exact inductionHypothesis.ticked valid

theorem LeadsTo.reachable (leads : k.LeadsTo l) (reachable : k.Reachable) : l.Reachable := by
  induction leads with
  | refl => exact reachable
  | served r _ inductionHypothesis => exact inductionHypothesis.served r
  | refusing c refused _ inductionHypothesis => exact inductionHypothesis.refusing c refused
  | ticked valid _ inductionHypothesis => exact inductionHypothesis.ticked valid

/-- Requests to other stores and reads leave a store as it is, and a write puts an object in it. -/
theorem Served.store_cases {r : Request} {answer : Except StoreError r.Answer}
    (served : k.Served r answer l) (c : Collection) :
    l.store c = k.store c ∨
      ∃ verb name object, l.store c = ((k.store c).put verb name object).2 := by
  have written : ∀ (d : Collection) verb name object,
      (k.write d verb name object).store c = k.store c ∨
        ∃ verb' name' object', (k.write d verb name object).store c =
          ((k.store c).put verb' name' object').2 := by
    intro d verb name object
    by_cases same : c = d
    · subst same
      exact Or.inr ⟨verb, name, object, store_setStore _ _ _⟩
    · exact Or.inl (store_write_of_ne _ _ _ _ same)
  cases served with
  | failed | got | gotIn | listed | alreadyGone => exact Or.inl rfl
  | created | replaced | deleted | patched | patchedStatus => exact written _ _ _ _

/-- What was looked at is there still, or its version is gone. -/
theorem LeadsTo.follows (leads : k.LeadsTo l) (reachable : k.Reachable) {object : c.Object}
    {version : Nat} (found : k.object? c name = some object)
    (given : version ≤ (k.store c).version) :
    (l.store c).Follows name object version ∧ version ≤ (l.store c).version := by
  -- The version has been given, so no write that comes later can give it again.
  induction leads with
  | refl => exact ⟨Or.inl found, given⟩
  | @served l r leads inductionHypothesis =>
      obtain ⟨follows, given⟩ := inductionHypothesis
      rcases (l.served r).store_cases c with same | ⟨verb, target, written, same⟩
      · rw [same]
        exact ⟨follows, given⟩
      · rw [same]
        exact ⟨follows.put ((leads.reachable reachable).versioned c) given verb target written,
          Nat.le_succ_of_le given⟩
  | @refusing l d refused _ inductionHypothesis =>
      rw [withRefusals]
      by_cases same : c = d
      · subst same
        rw [store_setStore]
        exact ⟨inductionHypothesis.1.withRefusals refused, inductionHypothesis.2⟩
      · rwa [store_setStore_of_ne _ _ same]
  | ticked valid _ inductionHypothesis =>
      cases c <;> exact inductionHypothesis

/-- An object that is not the one that was looked at has another version. -/
theorem LeadsTo.version_ne (leads : k.LeadsTo l) (reachable : k.Reachable) {seen object : c.Object}
    (found : k.object? c name = some seen) (changed : l.object? c name ≠ some seen)
    (present : l.object? c name = some object) :
    (Resource.metadata object).resourceVersion ≠ (Resource.metadata seen).resourceVersion := by
  obtain ⟨version, given, carried⟩ := (reachable.versioned c).versioned found
  rcases (leads.follows reachable found given).1 with same | superseded
  · exact absurd same changed
  · rw [carried]
    exact superseded.gone object present

end Cluster

end NfsStorage

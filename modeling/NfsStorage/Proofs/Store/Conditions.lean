import NfsStorage.Proofs.Store.Reachable

/-!
# Conditions of service

The calls that the servers refuse, and the time: under which conditions a program works on a cluster
is apart from what the cluster holds.
-/

namespace NfsStorage

/-- What a pass meets: the requests that the server refuses, and the time. -/
structure Conditions where
  refused : Collection → Verb → Option Nat
  clock : Time
  valid : clock.Valid

def Conditions.calm (conditions : Conditions) : Conditions :=
  { conditions with refused := fun _ _ => none }

namespace Cluster

def under (k : Cluster) (conditions : Conditions) : Cluster :=
  let refusing := Collection.all.foldl (fun k c => k.withRefusals c (conditions.refused c)) k
  { refusing with clock := conditions.clock }

section Under

variable (k : Cluster) (conditions : Conditions)

theorem store_under (c : Collection) :
    (k.under conditions).store c = { k.store c with refused := conditions.refused c } := by
  cases c <;> rfl

@[simp]
theorem refused_under : (k.under conditions).refused = conditions.refused := by
  funext c
  rw [refused, store_under]

@[simp]
theorem object?_under (c : Collection) (name : String) :
    (k.under conditions).object? c name = k.object? c name := by
  rw [object?, store_under]
  rfl

end Under

theorem Sound.under {k : Cluster} (sound : k.Sound) (conditions : Conditions) :
    (k.under conditions).Sound :=
  sound.of_same conditions.valid fun c _ => k.object?_under conditions c

theorem NoneReleased.under {k : Cluster} (lasting : k.NoneReleased) (conditions : Conditions) :
    (k.under conditions).NoneReleased := by
  intro c name object present
  rw [object?_under] at present
  exact lasting c name object present

theorem Reachable.under {k : Cluster} (reachable : k.Reachable) (conditions : Conditions) :
    (k.under conditions).Reachable := by
  have refusing : ∀ (collections : List Collection) {k : Cluster}, k.Reachable →
      (collections.foldl (fun k c => k.withRefusals c (conditions.refused c)) k).Reachable := by
    intro collections
    induction collections with
    | nil => exact fun reachable => reachable
    | cons c rest inductionHypothesis =>
        exact fun reachable => inductionHypothesis (.refusing c _ reachable)
  exact .ticked conditions.valid (refusing _ reachable)

end Cluster

end NfsStorage

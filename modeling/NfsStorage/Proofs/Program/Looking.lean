import NfsStorage.Proofs.Program.Success

/-!
# Programs that only look

A program that is run alone may find nothing to do. It then comes to its result by reads, and leaves
the cluster as it was.
-/

namespace NfsStorage

namespace Program

variable {α β : Type} {k : Cluster}

def requests : Program α → Cluster → List Request
  | .done _, _ => []
  | .request r next, k => r :: (next (k.serve r).1).requests (k.serve r).2
  | .sleep _ next, k => next.requests k

theorem requests_bind (p : Program α) (f : α → Program β) (k : Cluster) :
    (p >>= f).requests k =
      p.requests k ++ (f (p.run .direct k).1).requests (p.run .direct k).2 := by
  change (p.bind f).requests k = _
  induction p generalizing k with
  | done a => rfl
  | request r next inductionHypothesis => exact congrArg (r :: ·) (inductionHypothesis _ _)
  | sleep milliseconds next inductionHypothesis => exact inductionHypothesis k

/-- Run alone, the program comes to a result and only looks. -/
structure Looks (p : Program α) (k : Cluster) (a : α) : Prop where
  run : p.run .direct k = (a, k)
  reads : ∀ r ∈ p.requests k, r.writes? = none

theorem Looks.pure (a : α) (k : Cluster) : Looks (pure a) k a := ⟨rfl, fun _ none => nomatch none⟩

theorem Looks.bind {p : Program α} {f : α → Program β} {a : α} {b : β} (first : p.Looks k a)
    (rest : (f a).Looks k b) : (p >>= f).Looks k b := by
  constructor
  · rw [run_bind, first.run]
    exact rest.run
  · intro r sent
    rw [requests_bind, first.run] at sent
    rcases List.mem_append.mp sent with earlier | later
    · exact first.reads r earlier
    · exact rest.reads r later

end Program

namespace Pass

variable {α β ε : Type} {k : Cluster}

def Looks (x : Pass ε α) (k : Cluster) (a : α) : Prop := Program.Looks (ExceptT.run x) k (.ok a)

theorem Looks.pure (a : α) (k : Cluster) : Looks (pure a : Pass ε α) k a := Program.Looks.pure _ _

theorem Looks.bind {x : Pass ε α} {f : α → Pass ε β} {a : α} {b : β} (first : Looks x k a)
    (rest : Looks (f a) k b) : Looks (x >>= f) k b := Program.Looks.bind first rest

theorem looks_get {c : Collection} {name : String} {failure : StoreError → ε}
    (serves : k.refused c .get = none) :
    Looks (Pass.request (.get c name) failure) k (k.object? c name) := by
  refine ⟨succeeds_get.mpr ⟨serves, rfl, rfl⟩, ?_⟩
  intro r sent
  obtain rfl := List.mem_singleton.mp sent
  rfl

end Pass

end NfsStorage

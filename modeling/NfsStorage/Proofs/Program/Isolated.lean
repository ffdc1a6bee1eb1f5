import NfsStorage.Proofs.Program.Asking
import NfsStorage.Proofs.Program.Upholds

/-!
# Programs that keep to one store

What a request is answered with, and what it makes of its store, is a matter of that store and of
the time. So a program that asks nothing of other stores comes to the same end whatever they hold
and whatever they refuse.
-/

namespace NfsStorage

theorem Cluster.serve_congr {k l : Cluster} {r : Request}
    (same : l.store r.collection = k.store r.collection) (clock : l.clock = k.clock) :
    (l.serve r).1 = (k.serve r).1 ∧
      (l.serve r).2.store r.collection = (k.serve r).2.store r.collection := by
  have commits {c : Collection} {α : Type} {result : Except StoreError (α × Store c.Object)}
      (same : l.store c = k.store c) : (l.commit c result).1 = (k.commit c result).1 ∧
        (l.commit c result).2.store c = (k.commit c result).2.store c := by
    cases result with
    | ok written => exact ⟨rfl, by rw [commit, commit, store_setStore, store_setStore]⟩
    | error e => exact ⟨rfl, same⟩
  cases r with
  | get c name | getIn c «namespace» name | list c =>
      have same : l.store c = k.store c := same
      refine ⟨?_, same⟩
      simp only [serve, same]
  | create c object | replace c name object | patch c name change | patchStatus c name change =>
      have same : l.store c = k.store c := same
      simp only [serve, same]
      exact commits same
  | delete c name =>
      have same : l.store c = k.store c := same
      simp only [serve, same, clock]
      exact commits same

namespace Program

variable {α : Type} {p : Program α} {k l : Cluster} {c : Collection}

theorem clock_run (p : Program α) (k : Cluster) : (p.run .direct k).2.clock = k.clock :=
  run_of_served (fun l => l.clock = k.clock) (fun same served => served.clock.trans same) p rfl

/-- From clusters that have its store in common, a program comes to the same end. -/
theorem Asks.run_congr (asks : p.Asks (fun r => r.collection = c) k)
    (same : l.store c = k.store c) (clock : l.clock = k.clock) :
    (p.run .direct l).1 = (p.run .direct k).1 ∧
      (p.run .direct l).2.store c = (p.run .direct k).2.store c := by
  induction p generalizing k l with
  | done a => exact ⟨rfl, same⟩
  | request r next inductionHypothesis =>
      obtain rfl : r.collection = c := asks r (List.mem_cons_self ..)
      obtain ⟨answers, stores⟩ := Cluster.serve_congr same clock
      change ((next (l.serve r).1).run .direct (l.serve r).2).1 = _ ∧
        ((next (l.serve r).1).run .direct (l.serve r).2).2.store _ = _
      rw [answers]
      exact inductionHypothesis _ (fun r' later => asks r' (List.mem_cons_of_mem _ later)) stores
        ((l.served r).clock.trans (clock.trans (k.served r).clock.symm))
  | sleep milliseconds next inductionHypothesis => exact inductionHypothesis asks same clock

end Program

end NfsStorage

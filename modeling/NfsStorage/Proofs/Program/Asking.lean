import NfsStorage.Proofs.Program.Footprint
import NfsStorage.Proofs.Program.Looking

/-!
# What a program asks for

A program that is run alone from a cluster sends a list of requests. `Asks` says that all of them are
allowed. It is put together along the program as the run goes: what is asked for later may depend on
what was read before.
-/

namespace NfsStorage

theorem Cluster.Served.eq_of_reads {k l : Cluster} {r : Request}
    {answer : Except StoreError r.Answer} (served : k.Served r answer l)
    (reads : r.writes? = none) : l = k := by
  cases served with
  | failed | got | gotIn | listed | alreadyGone => rfl
  | created | replaced | deleted | patched | patchedStatus => cases reads

namespace Program

variable {α β : Type} {allowed weaker : Request → Prop} {k : Cluster}

/-- Run alone, the program sends allowed requests only. -/
def Asks (allowed : Request → Prop) (p : Program α) (k : Cluster) : Prop :=
  ∀ r ∈ p.requests k, allowed r

theorem Asks.mono {p : Program α} (asks : p.Asks allowed k)
    (implied : ∀ r, allowed r → weaker r) : p.Asks weaker k :=
  fun r sent => implied r (asks r sent)

theorem Asks.bind {p : Program α} {f : α → Program β} (first : p.Asks allowed k)
    (rest : (f (p.run .direct k).1).Asks allowed (p.run .direct k).2) :
    (p >>= f).Asks allowed k := by
  intro r sent
  rw [requests_bind] at sent
  rcases List.mem_append.mp sent with earlier | later
  · exact first r earlier
  · exact rest r later

/-- What every allowed request keeps the program keeps. -/
theorem Asks.run_induction {property : Cluster → Prop} {p : Program α}
    (step : ∀ k r, allowed r → property k → property (k.serve r).2) (asks : p.Asks allowed k)
    (start : property k) : property (p.run .direct k).2 := by
  induction p generalizing k with
  | done a => exact start
  | request r next inductionHypothesis =>
      refine inductionHypothesis _ (fun r' later => asks r' (List.mem_cons_of_mem _ later)) ?_
      exact step k r (asks r (List.mem_cons_self ..)) start
  | sleep milliseconds next inductionHypothesis => exact inductionHypothesis asks start

theorem Asks.store_run {c : Collection} {p : Program α}
    (asks : p.Asks (fun r => r.collection = c → r.writes? = none) k) :
    (p.run .direct k).2.store c = k.store c := by
  refine asks.run_induction (fun l r reads (same : l.store c = k.store c) => ?_) rfl
  have served := l.served r
  by_cases here : r.collection = c
  · rw [served.eq_of_reads (reads here), same]
  · rw [served.store_of_ne (Ne.symm here), same]

theorem Asks.object?_run {c : Collection} {name : String} {p : Program α}
    (asks : p.Asks (Request.Avoids c name) k) :
    (p.run .direct k).2.object? c name = k.object? c name := by
  refine asks.run_induction (fun l r avoids (same : l.object? c name = k.object? c name) => ?_) rfl
  exact ((l.served r).object? avoids).trans same

theorem Asks.upholds {guarantee other : Cluster → Cluster → Prop} {post : α → Cluster → Prop}
    {p : Program α} (asks : p.Asks allowed k)
    (step : ∀ k r, allowed r → guarantee k (k.serve r).2) (upheld : p.Upholds Eq other post k) :
    p.Upholds Eq guarantee post k := by
  induction p generalizing k with
  | done a => exact upheld
  | request r next inductionHypothesis =>
      rintro l rfl
      exact ⟨step k r (asks r (List.mem_cons_self ..)), inductionHypothesis _
        (fun r' later => asks r' (List.mem_cons_of_mem _ later)) (upheld k rfl).2⟩
  | sleep milliseconds next inductionHypothesis => exact inductionHypothesis asks upheld

theorem Asks.run_of_reads {p : Program α} (asks : p.Asks (fun r => r.writes? = none) k) :
    (p.run .direct k).2 = k := by
  refine asks.run_induction (fun l r reads (same : l = k) => ?_) rfl
  exact ((l.served r).eq_of_reads reads).trans same

end Program

namespace Pass

variable {α β ε : Type} {allowed weaker : Request → Prop} {k : Cluster}

def Asks (allowed : Request → Prop) (x : Pass ε α) (k : Cluster) : Prop :=
  Program.Asks allowed (ExceptT.run x) k

namespace Asks

theorem pure (a : α) : Asks allowed (pure a : Pass ε α) k := fun _ sent => nomatch sent

theorem bind {x : Pass ε α} {f : α → Pass ε β} (first : Asks allowed x k)
    (rest : ∀ a l, Succeeds x k a l → Asks allowed (f a) l) : Asks allowed (x >>= f) k := by
  apply Program.Asks.bind first
  generalize ran : (ExceptT.run x).run .direct k = ended
  obtain ⟨result, l⟩ := ended
  cases result with
  | ok a => exact rest a l ran
  | error e => exact fun _ sent => nomatch sent

/-- As long as an object is not written, it is there for what comes after. -/
theorem bind_avoiding {c : Collection} {name : String} {x : Pass ε α} {f : α → Pass ε β}
    (first : Asks (Request.Avoids c name) x k)
    (rest : ∀ a l, l.object? c name = k.object? c name →
      Asks (Request.Avoids c name) (f a) l) : Asks (Request.Avoids c name) (x >>= f) k := by
  refine bind first fun a l succeeds => rest a l ?_
  have same := Program.Asks.object?_run first
  rwa [show (ExceptT.run x).run .direct k = (.ok a, l) from succeeds] at same

theorem request {r : Request} (failure : StoreError → ε) (isAllowed : allowed r) :
    Asks allowed (Pass.request r failure) k := by
  intro r' sent
  obtain rfl := List.mem_singleton.mp sent
  exact isAllowed

theorem request_then {r : Request} {failure : StoreError → ε} {x : Pass ε α}
    (isAllowed : allowed r) (rest : ∀ l, Asks allowed x l) :
    Asks allowed (do let _ ← Pass.request r failure; x) k :=
  bind (request failure isAllowed) fun _ l _ => rest l

end Asks

end Pass

end NfsStorage

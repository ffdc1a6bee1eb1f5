import NfsStorage.Proofs.Store.Served

/-!
# Programs among others

A program that works on a cluster is seldom alone with it: between two of its requests others may
write. `Program.Upholds` says what a program does as long as the others keep to what it relies on:
each of its own requests keeps to a guarantee, and where it ends its outcome is as promised. With
nobody else at work this speaks of `Program.run`, and with others it speaks of a program in the
middle of its work, because it stays true whatever they do.
-/

namespace NfsStorage

variable {α β ε : Type} {rely guarantee : Cluster → Cluster → Prop}

namespace Program

/-- From a cluster on, and relying on the others, every request of the program keeps to the
guarantee, and what the program ends with is as `post` says. -/
def Upholds (rely guarantee : Cluster → Cluster → Prop) (post : α → Cluster → Prop) :
    Program α → Cluster → Prop
  | done a, k => post a k
  | request r next, k => ∀ l, rely k l →
      guarantee l (l.serve r).2 ∧
        (next (l.serve r).1).Upholds rely guarantee post (l.serve r).2
  | sleep _ next, k => next.Upholds rely guarantee post k

namespace Upholds

variable {post post' : α → Cluster → Prop} {p : Program α} {k l : Cluster}

theorem bind {next : β → Cluster → Prop} {f : α → Program β}
    (first : p.Upholds rely guarantee (fun a l => (f a).Upholds rely guarantee next l) k) :
    (p >>= f).Upholds rely guarantee next k := by
  change (p.bind f).Upholds rely guarantee next k
  induction p generalizing k with
  | done a => exact first
  | request r continuation inductionHypothesis =>
      intro l others
      obtain ⟨kept, rest⟩ := first l others
      exact ⟨kept, inductionHypothesis _ rest⟩
  | sleep milliseconds continuation inductionHypothesis => exact inductionHypothesis first

theorem mono (upheld : p.Upholds rely guarantee post k)
    (weaker : ∀ a l, post a l → post' a l) : p.Upholds rely guarantee post' k := by
  induction p generalizing k with
  | done a => exact weaker a k upheld
  | request r next inductionHypothesis =>
      intro l others
      obtain ⟨kept, rest⟩ := upheld l others
      exact ⟨kept, inductionHypothesis _ rest⟩
  | sleep milliseconds next inductionHypothesis => exact inductionHypothesis upheld

theorem discard {promise : Cluster → Prop} (upheld : p.Upholds rely guarantee post k)
    (weaker : ∀ a l, post a l → promise l) :
    (Functor.discard p).Upholds rely guarantee (fun _ l => promise l) k :=
  bind (upheld.mono weaker)

theorem of_rely (transitive : ∀ {k l m}, rely k l → rely l m → rely k m)
    (stable : ∀ {a k l}, post a k → rely k l → post a l)
    (upheld : p.Upholds rely guarantee post k) (others : rely k l) :
    p.Upholds rely guarantee post l := by
  induction p with
  | done a => exact stable upheld others
  | request r next inductionHypothesis =>
      exact fun m later => upheld m (transitive others later)
  | sleep milliseconds next inductionHypothesis => exact inductionHypothesis upheld

theorem run (upheld : p.Upholds Eq guarantee post k) :
    post (p.run .direct k).1 (p.run .direct k).2 := by
  induction p generalizing k with
  | done a => exact upheld
  | request r next inductionHypothesis => exact inductionHypothesis _ (upheld k rfl).2
  | sleep milliseconds next inductionHypothesis => exact inductionHypothesis upheld

theorem run_guarantee (reflexive : ∀ k, guarantee k k)
    (transitive : ∀ {k l m}, guarantee k l → guarantee l m → guarantee k m)
    (upheld : p.Upholds Eq guarantee post k) : guarantee k (p.run .direct k).2 := by
  induction p generalizing k with
  | done a => exact reflexive k
  | request r next inductionHypothesis =>
      obtain ⟨kept, rest⟩ := upheld k rfl
      exact transitive kept (inductionHypothesis _ rest)
  | sleep milliseconds next inductionHypothesis => exact inductionHypothesis upheld

end Upholds

/-- What stays true through every request stays true through a program. -/
theorem run_of_served (invariant : Cluster → Prop)
    (step : ∀ {k l : Cluster} {r : Request} {answer : Except StoreError r.Answer},
      invariant k → k.Served r answer l → invariant l)
    (p : Program α) {k : Cluster} (holds : invariant k) : invariant (p.run .direct k).2 := by
  induction p generalizing k with
  | done a => exact holds
  | request r next inductionHypothesis => exact inductionHypothesis _ (step holds (k.served r))
  | sleep milliseconds next inductionHypothesis => exact inductionHypothesis holds

theorem refused_run (p : Program α) (k : Cluster) : (p.run .direct k).2.refused = k.refused :=
  run_of_served (fun l => l.refused = k.refused)
    (fun same served => served.refused.trans same) p rfl

/-- A program that runs from one cluster to another, with others at work between its requests. -/
inductive RunsAmong (others : Cluster → Cluster → Prop) :
    Program α → Cluster → α → Cluster → Prop where
  | done (a : α) (k : Cluster) : RunsAmong others (.done a) k a k
  | request {r : Request} {next : Except StoreError r.Answer → Program α} {k l m : Cluster} {a : α}
      (meanwhile : others k l) :
      RunsAmong others (next (l.serve r).1) (l.serve r).2 a m →
      RunsAmong others (.request r next) k a m
  | sleep {milliseconds : Nat} {next : Program α} {k m : Cluster} {a : α} :
      RunsAmong others next k a m → RunsAmong others (.sleep milliseconds next) k a m

theorem runsAmong_run {others : Cluster → Cluster → Prop} (nothing : ∀ k, others k k)
    (p : Program α) (k : Cluster) :
    p.RunsAmong others k (p.run .direct k).1 (p.run .direct k).2 := by
  induction p generalizing k with
  | done a => exact .done a k
  | request r next inductionHypothesis => exact .request (nothing k) (inductionHypothesis _ _)
  | sleep milliseconds next inductionHypothesis => exact .sleep (inductionHypothesis k)

theorem Upholds.runsAmong {post : α → Cluster → Prop} {p : Program α} {k m : Cluster} {a : α}
    (upheld : p.Upholds rely guarantee post k) (runs : p.RunsAmong rely k a m) : post a m := by
  induction runs with
  | done a k => exact upheld
  | request meanwhile _ inductionHypothesis => exact inductionHypothesis (upheld _ meanwhile).2
  | sleep _ inductionHypothesis => exact inductionHypothesis upheld

end Program

namespace Pass

/-- The outcome of a pass is as `ok` says if it succeeds, and as `failed` says if it fails. -/
def outcome (ok : α → Cluster → Prop) (failed : ε → Cluster → Prop) :
    Except ε α → Cluster → Prop
  | .ok a, k => ok a k
  | .error e, k => failed e k

@[simp]
theorem outcome_same (promise : Cluster → Prop) (result : Except ε α) (k : Cluster) :
    outcome (fun _ l => promise l) (fun _ l => promise l) result k ↔ promise k := by
  cases result <;> exact Iff.rfl

def Upholds (rely guarantee : Cluster → Cluster → Prop) (ok : α → Cluster → Prop)
    (failed : ε → Cluster → Prop) (x : Pass ε α) (k : Cluster) : Prop :=
  Program.Upholds rely guarantee (outcome ok failed) (ExceptT.run x) k

namespace Upholds

variable {ok ok' : α → Cluster → Prop} {failed failed' : ε → Cluster → Prop} {k : Cluster}

theorem pure {a : α} (promised : ok a k) :
    Upholds rely guarantee ok failed (pure a : Pass ε α) k := promised

theorem bind {next : β → Cluster → Prop} {x : Pass ε α} {f : α → Pass ε β}
    (first : Upholds rely guarantee
      (fun a l => Upholds rely guarantee next failed (f a) l) failed x k) :
    Upholds rely guarantee next failed (x >>= f) k := by
  apply Program.Upholds.bind
  apply Program.Upholds.mono first
  intro result l promised
  cases result with
  | ok a => exact promised
  | error e => exact promised

theorem consequence {x : Pass ε α} (upheld : Upholds rely guarantee ok failed x k)
    (weaker : ∀ a l, ok a l → ok' a l) (weakerFailed : ∀ e l, failed e l → failed' e l) :
    Upholds rely guarantee ok' failed' x k := by
  apply Program.Upholds.mono upheld
  intro result l promised
  cases result with
  | ok a => exact weaker a l promised
  | error e => exact weakerFailed e l promised

theorem mono {x : Pass ε α} (upheld : Upholds rely guarantee ok failed x k)
    (weaker : ∀ a l, ok a l → ok' a l) : Upholds rely guarantee ok' failed x k :=
  upheld.consequence weaker fun _ _ promised => promised

theorem lift {p : Program α} (upheld : p.Upholds rely guarantee ok k) :
    Upholds rely guarantee ok failed (monadLift p : Pass ε α) k :=
  Program.Upholds.bind (Program.Upholds.mono upheld fun _ _ promised => promised)

/-- It is enough to look at each way in which a request may be served. -/
theorem request {r : Request} {failure : StoreError → ε} {ok : r.Answer → Cluster → Prop}
    (each : ∀ l, rely k l → ∀ answer m, l.Served r answer m →
      guarantee l m ∧ outcome ok failed (answer.mapError failure) m) :
    Upholds rely guarantee ok failed (Pass.request r failure) k := by
  intro l others
  exact each l others _ _ (l.served r)

end Upholds

end Pass

end NfsStorage

import NfsStorage.Proofs.Program.Upholds
import NfsStorage.Proofs.Store.Reachable

/-!
# What a program sends

The requests of a program depend on the answers that it gets. `Program.Sends` says that all of them
are allowed, whatever the answers, as long as what is found under a name has that name. Whoever
knows what the allowed requests may do to a cluster then knows what the program does to it.
-/

namespace NfsStorage

/-- What is found under a name has that name, in the stores that the controllers write. -/
def Request.Credible : (r : Request) → Except StoreError r.Answer → Prop
  | .get c name, .ok (some object) => c.isManaged = true → Resource.name object = name
  | _, _ => True

/-- The request writes no object of this name. -/
def Request.Avoids (c : Collection) (name : String) (r : Request) : Prop :=
  c = r.collection → r.writes? ≠ some name

theorem Request.avoids_of_reads {c : Collection} {name : String} {r : Request}
    (reads : r.writes? = none) : r.Avoids c name :=
  fun _ written => nomatch reads.symm.trans written

theorem Cluster.Served.credible {k l : Cluster} {r : Request} {answer : Except StoreError r.Answer}
    (served : k.Served r answer l) (sound : k.Sound) : r.Credible answer := by
  cases served with
  | failed error why => cases r <;> trivial
  | got c name =>
      cases found : k.object? c name with
      | none => trivial
      | some object => exact fun managed => (sound.tidy managed).named found
  | gotIn | listed | created | replaced | alreadyGone | deleted | patched | patchedStatus => trivial

namespace Program

variable {α β : Type} {allowed : Request → Prop} {p : Program α}

/-- The program sends allowed requests only, and ends as promised. -/
def Sends (allowed : Request → Prop) (ended : α → Prop) : Program α → Prop
  | .done a => ended a
  | .request r next =>
    allowed r ∧ ∀ answer, r.Credible answer → (next answer).Sends allowed ended
  | .sleep _ next => next.Sends allowed ended

namespace Sends

variable {ended : α → Prop}

theorem bind {f : α → Program β} {finished : β → Prop}
    (first : p.Sends allowed fun a => (f a).Sends allowed finished) :
    (p >>= f).Sends allowed finished := by
  change (p.bind f).Sends allowed finished
  induction p with
  | done a => exact first
  | request r next inductionHypothesis =>
      exact ⟨first.1, fun answer credible => inductionHypothesis answer (first.2 answer credible)⟩
  | sleep milliseconds next inductionHypothesis => exact inductionHypothesis first

theorem mono (sends : p.Sends allowed ended) {weaker : α → Prop}
    (implied : ∀ a, ended a → weaker a) : p.Sends allowed weaker := by
  induction p with
  | done a => exact implied a sends
  | request r next inductionHypothesis =>
      exact ⟨sends.1, fun answer credible => inductionHypothesis answer (sends.2 answer credible)⟩
  | sleep milliseconds next inductionHypothesis => exact inductionHypothesis sends

theorem weaken {weaker : Request → Prop} (sends : p.Sends allowed ended)
    (implied : ∀ r, allowed r → weaker r) : p.Sends weaker ended := by
  induction p with
  | done a => exact sends
  | request r next inductionHypothesis =>
      exact ⟨implied r sends.1, fun answer credible =>
        inductionHypothesis answer (sends.2 answer credible)⟩
  | sleep milliseconds next inductionHypothesis => exact inductionHypothesis sends

theorem call {r : Request} {ended : Except StoreError r.Answer → Prop} (isAllowed : allowed r)
    (answered : ∀ answer, ended answer) : (Program.call r).Sends allowed ended :=
  ⟨isAllowed, fun answer _ => answered answer⟩

theorem discard (sends : p.Sends allowed ended) :
    (Functor.discard p).Sends allowed fun _ => True :=
  bind (sends.mono fun _ _ => trivial)

/-- What every allowed request does to a cluster the program does with each of its own, as long as
the cluster stays as the requests need it. -/
theorem upholds {rely guarantee : Cluster → Cluster → Prop} (sends : p.Sends allowed ended)
    (invariant : Cluster → Prop) (sound : ∀ {k}, invariant k → k.Sound)
    (stable : ∀ {k l}, invariant k → rely k l → invariant l)
    (step : ∀ {k l r answer}, invariant k → allowed r → k.Served r answer l →
      invariant l ∧ guarantee k l) {k : Cluster} (holds : invariant k) :
    p.Upholds rely guarantee (fun a l => ended a ∧ invariant l) k := by
  induction p generalizing k with
  | done a => exact ⟨sends, holds⟩
  | request r next inductionHypothesis =>
      intro l others
      have holds := stable holds others
      have served := l.served r
      obtain ⟨kept, done⟩ := step holds sends.1 served
      exact ⟨done, inductionHypothesis _ (sends.2 _ (served.credible (sound holds))) kept⟩
  | sleep milliseconds next inductionHypothesis => exact inductionHypothesis sends holds

theorem object?_run {c : Collection} {name : String} (sends : p.Sends (Request.Avoids c name) ended)
    {k : Cluster} (sound : k.Sound) : (p.run .direct k).2.object? c name = k.object? c name := by
  induction p generalizing k with
  | done a => rfl
  | request r next inductionHypothesis =>
      have served := k.served r
      have rest := inductionHypothesis _ (sends.2 _ (served.credible sound)) (sound.served served)
      exact rest.trans (served.object? sends.1)
  | sleep milliseconds next inductionHypothesis => exact inductionHypothesis sends sound

end Sends

end Program

namespace Pass

variable {α β ε : Type} {allowed : Request → Prop}

def Sends (allowed : Request → Prop) (ok : α → Prop) (x : Pass ε α) : Prop :=
  Program.Sends allowed (fun result => ∀ a, result = .ok a → ok a) (ExceptT.run x)

namespace Sends

variable {ok : α → Prop}

theorem pure {a : α} (promised : ok a) : Sends allowed ok (pure a : Pass ε α) := by
  rintro _ ⟨⟩
  exact promised

theorem bind {x : Pass ε α} {f : α → Pass ε β} {next : β → Prop}
    (first : Sends allowed (fun a => Sends allowed next (f a)) x) :
    Sends allowed next (x >>= f) := by
  apply Program.Sends.bind
  apply Program.Sends.mono first
  intro result promised
  cases result with
  | ok a => exact promised a rfl
  | error e => exact fun _ failed => nomatch failed

theorem mono {x : Pass ε α} (sends : Sends allowed ok x) {weaker : α → Prop}
    (implied : ∀ a, ok a → weaker a) : Sends allowed weaker x :=
  Program.Sends.mono sends fun _ promised a same => implied a (promised a same)

theorem weaken {x : Pass ε α} {weaker : Request → Prop} (sends : Sends allowed ok x)
    (implied : ∀ r, allowed r → weaker r) : Sends weaker ok x :=
  Program.Sends.weaken sends implied

theorem request {r : Request} {failure : StoreError → ε} {ok : r.Answer → Prop}
    (isAllowed : allowed r) (answered : ∀ a, r.Credible (.ok a) → ok a) :
    Sends allowed ok (Pass.request r failure) := by
  refine ⟨isAllowed, fun answer credible => ?_⟩
  cases answer with
  | ok a =>
      rintro _ ⟨⟩
      exact answered a credible
  | error e => exact fun _ failed => nomatch failed

theorem request_then {r : Request} {failure : StoreError → ε} {x : Pass ε α}
    (isAllowed : allowed r) (rest : Sends allowed ok x) :
    Sends allowed ok (do let _ ← Pass.request r failure; x) :=
  bind (request isAllowed fun _ _ => rest)

end Sends

end Pass

end NfsStorage

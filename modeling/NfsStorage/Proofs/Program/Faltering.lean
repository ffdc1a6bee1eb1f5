import NfsStorage.Proofs.Program.Asking

/-!
# Programs with a call that fails

Any call of a program may fail, whatever the server would have made of it, and a call that fails
changes nothing. `Program.falter` runs a program alone and has one of its calls fail.
`Program.Withstands` says what a program comes to whichever of its calls fail, and be it all of
them; so it is proved along the program, without counting calls.
-/

namespace NfsStorage

namespace Program

variable {α β : Type} {e : StoreError}

/-- Run a program alone. So many calls are served before the one that fails, if there is one that is
to fail; all calls after it are served. -/
def falter (e : StoreError) : Program α → Option Nat → Cluster → α × Option Nat × Cluster
  | .done a, left, k => (a, left, k)
  | .request _ next, some 0, k => (next (.error e)).falter e none k
  | .request r next, some (left + 1), k => (next (k.serve r).1).falter e (some left) (k.serve r).2
  | .request r next, none, k => (next (k.serve r).1).falter e none (k.serve r).2
  | .sleep _ next, left, k => next.falter e left k

theorem falter_none (p : Program α) (k : Cluster) :
    p.falter e none k = ((p.run .direct k).1, none, (p.run .direct k).2) := by
  induction p generalizing k with
  | done a => rfl
  | request r next inductionHypothesis => exact inductionHypothesis _ _
  | sleep milliseconds next inductionHypothesis => exact inductionHypothesis k

theorem falter_bind (p : Program α) (f : α → Program β) (left : Option Nat) (k : Cluster) :
    (p >>= f).falter e left k =
      (f (p.falter e left k).1).falter e (p.falter e left k).2.1 (p.falter e left k).2.2 := by
  change (p.bind f).falter e left k = _
  induction p generalizing left k with
  | done a => rfl
  | request r next inductionHypothesis =>
      cases left with
      | none => exact inductionHypothesis _ _ _
      | some left =>
          cases left with
          | zero => exact inductionHypothesis _ _ _
          | succ left => exact inductionHypothesis _ _ _
  | sleep milliseconds next inductionHypothesis => exact inductionHypothesis _ _

theorem falter_call_bind (r : Request) (f : Except StoreError r.Answer → Program α) (left : Nat)
    (k : Cluster) : (call r >>= f).falter e (some (left + 1)) k =
      (f (k.serve r).1).falter e (some left) (k.serve r).2 := rfl

/-- Each call of the program is served or fails, and in any case the outcome is as promised. -/
def Withstands (post : α → Cluster → Prop) : Program α → Cluster → Prop
  | .done a, k => post a k
  | .request r next, k => (next (k.serve r).1).Withstands post (k.serve r).2 ∧
      ∀ e, (next (.error e)).Withstands post k
  | .sleep _ next, k => next.Withstands post k

namespace Withstands

variable {post weaker : α → Cluster → Prop} {p : Program α} {k : Cluster}

theorem bind {f : α → Program β} {promise : β → Cluster → Prop}
    (first : p.Withstands (fun a l => (f a).Withstands promise l) k) :
    (p >>= f).Withstands promise k := by
  change (p.bind f).Withstands promise k
  induction p generalizing k with
  | done a => exact first
  | request r next inductionHypothesis =>
      exact ⟨inductionHypothesis _ first.1, fun e => inductionHypothesis _ (first.2 e)⟩
  | sleep milliseconds next inductionHypothesis => exact inductionHypothesis first

theorem mono (withstands : p.Withstands post k) (implied : ∀ a l, post a l → weaker a l) :
    p.Withstands weaker k := by
  induction p generalizing k with
  | done a => exact implied a k withstands
  | request r next inductionHypothesis =>
      exact ⟨inductionHypothesis _ withstands.1, fun e => inductionHypothesis _ (withstands.2 e)⟩
  | sleep milliseconds next inductionHypothesis => exact inductionHypothesis withstands

theorem call_bind {r : Request} {f : Except StoreError r.Answer → Program β}
    {promise : β → Cluster → Prop}
    (served : (f (k.serve r).1).Withstands promise (k.serve r).2)
    (failed : ∀ e, (f (.error e)).Withstands promise k) :
    (Program.call r >>= f).Withstands promise k :=
  ⟨served, failed⟩

theorem falter (withstands : p.Withstands post k) (e : StoreError) (left : Option Nat) :
    post (p.falter e left k).1 (p.falter e left k).2.2 := by
  induction p generalizing left k with
  | done a => exact withstands
  | request r next inductionHypothesis =>
      cases left with
      | none => exact inductionHypothesis _ withstands.1 none
      | some left =>
          cases left with
          | zero => exact inductionHypothesis _ (withstands.2 e) none
          | succ left => exact inductionHypothesis _ withstands.1 (some left)
  | sleep milliseconds next inductionHypothesis => exact inductionHypothesis withstands left

theorem run (withstands : p.Withstands post k) : post (p.run .direct k).1 (p.run .direct k).2 := by
  have ended := withstands.falter (.api (.notFound "")) none
  rwa [falter_none] at ended

end Withstands

/-- What every request keeps the program keeps, whichever of its calls fails. -/
theorem falter_induction {property : Cluster → Prop}
    (step : ∀ k r, property k → property (k.serve r).2) (p : Program α) (e : StoreError)
    (left : Option Nat) {k : Cluster} (start : property k) : property (p.falter e left k).2.2 := by
  induction p generalizing left k with
  | done a => exact start
  | request r next inductionHypothesis =>
      match left with
      | none => exact inductionHypothesis _ _ (step k r start)
      | some 0 => exact inductionHypothesis _ _ start
      | some (left + 1) => exact inductionHypothesis _ _ (step k r start)
  | sleep milliseconds next inductionHypothesis => exact inductionHypothesis _ start

end Program

namespace Pass

variable {α β ε : Type} {k : Cluster}

/-- Each call of the pass is served or fails, and in any case the outcome is as promised. -/
def Withstands (post : Except ε α → Cluster → Prop) (x : Pass ε α) (k : Cluster) : Prop :=
  Program.Withstands post (ExceptT.run x) k

theorem Withstands.bind {x : Pass ε α} {f : α → Pass ε β} {promise : Except ε β → Cluster → Prop}
    (first : Withstands (fun result l => match result with
      | .ok a => Withstands promise (f a) l
      | .error cause => promise (.error cause) l) x k) : Withstands promise (x >>= f) k := by
  apply Program.Withstands.bind
  apply Program.Withstands.mono first
  intro result l came
  cases result with
  | ok a => exact came
  | error cause => exact came

/-- Where the first part of a pass comes to its answer, the rest goes on from there. -/
theorem falter_bind_of_ok {x : Pass ε α} {f : α → Pass ε β} {e : StoreError}
    {left more : Option Nat} {l : Cluster} {a : α}
    (first : (ExceptT.run x).falter e left k = (.ok a, more, l)) :
    (ExceptT.run (x >>= f)).falter e left k = (ExceptT.run (f a)).falter e more l := by
  refine (Program.falter_bind (ExceptT.run x) (ExceptT.bindCont f) left k).trans ?_
  rw [first]
  rfl

theorem falter_bind_of_error {x : Pass ε α} {f : α → Pass ε β} {e : StoreError}
    {left more : Option Nat} {l : Cluster} {cause : ε}
    (first : (ExceptT.run x).falter e left k = (.error cause, more, l)) :
    (ExceptT.run (x >>= f)).falter e left k = (.error cause, more, l) := by
  refine (Program.falter_bind (ExceptT.run x) (ExceptT.bindCont f) left k).trans ?_
  rw [first]
  rfl

theorem Succeeds.falter {x : Pass ε α} {a : α} {l : Cluster} (succeeds : Succeeds x k a l)
    (e : StoreError) : (ExceptT.run x).falter e none k = (.ok a, none, l) := by
  rw [Program.falter_none, show (ExceptT.run x).run .direct k = (.ok a, l) from succeeds]

theorem falter_request (r : Request) (failure : StoreError → ε) (e : StoreError)
    (left : Option Nat) (k : Cluster) :
    (ExceptT.run (Pass.request r failure)).falter e left k = (.error (failure e), none, k) ∨
      ∃ more, left = more.map (· + 1) ∧
        (ExceptT.run (Pass.request r failure)).falter e left k =
          ((k.serve r).1.mapError failure, more, (k.serve r).2) :=
  match left with
  | none => Or.inr ⟨none, rfl, rfl⟩
  | some 0 => Or.inl rfl
  | some (more + 1) => Or.inr ⟨some more, rfl, rfl⟩

/-- A pass that has something to read ends there, or goes on with what was read. -/
theorem falter_read_bind {r : Request} (reads : r.writes? = none) (failure : StoreError → ε)
    (f : r.Answer → Pass ε β) (e : StoreError) (left : Option Nat) (k : Cluster) :
    (∃ cause more, (ExceptT.run (Pass.request r failure >>= f)).falter e left k =
        (.error cause, more, k)) ∨
      ∃ a more, left = more.map (· + 1) ∧ k.serve r = (.ok a, k) ∧
        (ExceptT.run (Pass.request r failure >>= f)).falter e left k =
          (ExceptT.run (f a)).falter e more k := by
  have stays : (k.serve r).2 = k := (k.served r).eq_of_reads reads
  rcases falter_request r failure e left k with failed | ⟨more, counts, asked⟩
  · exact Or.inl ⟨failure e, none, falter_bind_of_error failed⟩
  · rw [stays] at asked
    cases answer : (k.serve r).1 with
    | ok a =>
        rw [answer] at asked
        exact Or.inr ⟨a, more, counts, Prod.ext answer stays, falter_bind_of_ok asked⟩
    | error cause =>
        rw [answer] at asked
        exact Or.inl ⟨failure cause, more, falter_bind_of_error asked⟩

end Pass

end NfsStorage

import NfsStorage.Proofs.Program.Upholds
import NfsStorage.Proofs.Store.Reachable

/-!
# Two programs at once

Two programs at work on one cluster send their requests in any order in which each keeps to its own,
while the clock goes on. If either relies on no more than the other guarantees, both come to the
ends that are promised of them.
-/

namespace NfsStorage.Program

variable {α β : Type}

/-- Two programs run to their ends, the requests of one among those of the other. -/
inductive Interleaved : Program α → Program β → Cluster → α → β → Cluster → Prop where
  | done (a : α) (b : β) (k : Cluster) : Interleaved (.done a) (.done b) k a b k
  | first {r : Request} {next : Except StoreError r.Answer → Program α} {q : Program β}
      {k m : Cluster} {a : α} {b : β} :
      Interleaved (next (k.serve r).1) q (k.serve r).2 a b m →
      Interleaved (.request r next) q k a b m
  | second {r : Request} {p : Program α} {next : Except StoreError r.Answer → Program β}
      {k m : Cluster} {a : α} {b : β} :
      Interleaved p (next (k.serve r).1) (k.serve r).2 a b m →
      Interleaved p (.request r next) k a b m
  | firstSleeps {milliseconds : Nat} {p : Program α} {q : Program β} {k m : Cluster} {a : α}
      {b : β} : Interleaved p q k a b m → Interleaved (.sleep milliseconds p) q k a b m
  | secondSleeps {milliseconds : Nat} {p : Program α} {q : Program β} {k m : Cluster} {a : α}
      {b : β} : Interleaved p q k a b m → Interleaved p (.sleep milliseconds q) k a b m
  | ticked {p : Program α} {q : Program β} {k m : Cluster} {a : α} {b : β} {clock : Time}
      (valid : clock.Valid) :
      Interleaved p q { k with clock } a b m → Interleaved p q k a b m

def sequence (p : Program α) (q : Program β) (k : Cluster) : α × β × Cluster :=
  let (a, l) := p.run .direct k
  let (b, m) := q.run .direct l
  (a, b, m)

/-- Programs that take turns, `true` for the first, until the turns are used up or a program is at
its end; then one after the other. -/
def takeTurns : List Bool → Program α → Program β → Cluster → α × β × Cluster
  | true :: turns, .request r next, q, k => takeTurns turns (next (k.serve r).1) q (k.serve r).2
  | false :: turns, p, .request r next, k => takeTurns turns p (next (k.serve r).1) (k.serve r).2
  | _, p, q, k => sequence p q k

theorem interleaved_sequence (p : Program α) (q : Program β) (k : Cluster) :
    let (a, b, m) := sequence p q k
    Interleaved p q k a b m := by
  induction p generalizing k with
  | done a =>
      induction q generalizing k with
      | done b => exact .done a b k
      | request r next inductionHypothesis => exact .second (inductionHypothesis _ _)
      | sleep milliseconds next inductionHypothesis => exact .secondSleeps (inductionHypothesis k)
  | request r next inductionHypothesis => exact .first (inductionHypothesis _ _)
  | sleep milliseconds next inductionHypothesis => exact .firstSleeps (inductionHypothesis k)

theorem interleaved_takeTurns (turns : List Bool) (p : Program α) (q : Program β) (k : Cluster) :
    let (a, b, m) := takeTurns turns p q k
    Interleaved p q k a b m := by
  fun_induction takeTurns turns p q k with
  | case1 turns r next q k inductionHypothesis => exact .first inductionHypothesis
  | case2 turns p r next k inductionHypothesis => exact .second inductionHypothesis
  | case3 => exact interleaved_sequence _ _ _

/-- What a program may rely on while another is at work: it bears repetition, and the clock. -/
structure Lasting (rely : Cluster → Cluster → Prop) : Prop where
  refl : ∀ k, rely k k
  trans : ∀ {k l m}, rely k l → rely l m → rely k m
  ticked : ∀ (k : Cluster) {clock : Time}, clock.Valid → rely k { k with clock }

namespace Upholds

variable {rely rely' guarantee : Cluster → Cluster → Prop} {post post' : α → Cluster → Prop}
  {p : Program α} {k : Cluster}

theorem rely_mono (upheld : p.Upholds rely guarantee post k)
    (narrower : ∀ {k l}, rely' k l → rely k l) : p.Upholds rely' guarantee post k := by
  induction p generalizing k with
  | done a => exact upheld
  | request r next inductionHypothesis =>
      intro l others
      obtain ⟨kept, rest⟩ := upheld l (narrower others)
      exact ⟨kept, inductionHypothesis _ rest⟩
  | sleep milliseconds next inductionHypothesis => exact inductionHypothesis upheld

theorem and (first : p.Upholds rely guarantee post k)
    (second : p.Upholds rely (fun _ _ => True) post' k) :
    p.Upholds rely guarantee (fun a l => post a l ∧ post' a l) k := by
  induction p generalizing k with
  | done a => exact ⟨first, second⟩
  | request r next inductionHypothesis =>
      intro l others
      obtain ⟨kept, rest⟩ := first l others
      exact ⟨kept, inductionHypothesis _ rest (second l others).2⟩
  | sleep milliseconds next inductionHypothesis => exact inductionHypothesis first second

/-- What either program relies on the other guarantees. -/
theorem interleaved {q : Program β} {post' : β → Cluster → Prop} {m : Cluster} {a : α} {b : β}
    (first : p.Upholds rely guarantee post k) (second : q.Upholds guarantee rely post' k)
    (lasting : Lasting rely) (lasting' : Lasting guarantee)
    (stable : ∀ {a k l}, post a k → rely k l → post a l)
    (stable' : ∀ {b k l}, post' b k → guarantee k l → post' b l)
    (interleaved : Interleaved p q k a b m) : post a m ∧ post' b m := by
  induction interleaved with
  | done a b k => exact ⟨first, second⟩
  | @first r next q k m a b _ inductionHypothesis =>
      obtain ⟨kept, rest⟩ := first k (lasting.refl k)
      exact inductionHypothesis rest (second.of_rely lasting'.trans stable' kept)
  | @second r p next k m a b _ inductionHypothesis =>
      obtain ⟨kept, rest⟩ := second k (lasting'.refl k)
      exact inductionHypothesis (first.of_rely lasting.trans stable kept) rest
  | firstSleeps _ inductionHypothesis => exact inductionHypothesis first second
  | secondSleeps _ inductionHypothesis => exact inductionHypothesis first second
  | ticked valid _ inductionHypothesis =>
      exact inductionHypothesis (first.of_rely lasting.trans stable (lasting.ticked _ valid))
        (second.of_rely lasting'.trans stable' (lasting'.ticked _ valid))

end Upholds

end NfsStorage.Program

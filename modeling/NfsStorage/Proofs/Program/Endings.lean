import NfsStorage.Store.Program

/-!
# How a program may end

What a program comes to if nothing is known of the answers to its requests: they may be those of a
cluster that others write in between, or failures of any kind.
-/

namespace NfsStorage

/-- With some answers to its requests a program comes to an end. -/
inductive Program.MayEnd {α : Type} : Program α → α → Prop where
  | done (a : α) : MayEnd (.done a) a
  | request {r : Request} {next : Except StoreError r.Answer → Program α} {a : α}
      (answer : Except StoreError r.Answer) : MayEnd (next answer) a → MayEnd (.request r next) a
  | sleep {milliseconds : Nat} {next : Program α} {a : α} :
      MayEnd next a → MayEnd (.sleep milliseconds next) a

theorem exists_of_mayEnd_bind {α β : Type} {p : Program α} {f : α → Program β} {b : β}
    (ends : (p >>= f).MayEnd b) : ∃ a, p.MayEnd a ∧ (f a).MayEnd b := by
  change (p.bind f).MayEnd b at ends
  induction p with
  | done a => exact ⟨a, .done a, ends⟩
  | request r next inductionHypothesis =>
      cases ends with
      | request answer rest =>
          obtain ⟨a, first, second⟩ := inductionHypothesis answer rest
          exact ⟨a, .request answer first, second⟩
  | sleep milliseconds next inductionHypothesis =>
      cases ends with
      | sleep rest =>
          obtain ⟨a, first, second⟩ := inductionHypothesis rest
          exact ⟨a, .sleep first, second⟩

theorem mayEnd_run {α : Type} {route : Route} (p : Program α) (k : Cluster) :
    p.MayEnd (p.run route k).1 := by
  induction p generalizing k with
  | done a => exact .done a
  | request r next inductionHypothesis => exact .request _ (inductionHypothesis _ _)
  | sleep milliseconds next inductionHypothesis => exact .sleep (inductionHypothesis k)

theorem exists_answer_of_mayEnd {ε : Type} {r : Request} {failure : StoreError → ε}
    {result : Except ε r.Answer} (ends : (Pass.request r failure).run.MayEnd result) :
    ∃ answer : Except StoreError r.Answer, result = answer.mapError failure := by
  cases ends with
  | request answer rest =>
      cases rest
      exact ⟨answer, rfl⟩

end NfsStorage

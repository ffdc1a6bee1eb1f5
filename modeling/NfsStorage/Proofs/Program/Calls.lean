import NfsStorage.Proofs.Program.Success
import NfsStorage.Proofs.Program.Upholds

/-!
# The calls of a program

A program that is run alone makes one call after the other, each in the cluster that the call before
left. What goes wrong on the way is in the answers to its calls. Most passes end at the first call
that fails and say why; they report all that went wrong.
-/

namespace NfsStorage

namespace Program

variable {α β : Type}

/-- A request, and the cluster that it came to. -/
structure Call where
  request : Request
  before : Cluster

namespace Call

def answer (c : Call) : Except StoreError c.request.Answer := (c.before.serve c.request).1

def after (c : Call) : Cluster := (c.before.serve c.request).2

def fault? (c : Call) : Option StoreError :=
  match c.answer with
  | .ok _ => none
  | .error e => some e

end Call

def calls : Program α → Cluster → List Call
  | .done _, _ => []
  | .request r next, k => ⟨r, k⟩ :: (next (k.serve r).1).calls (k.serve r).2
  | .sleep _ next, k => next.calls k

def faults (p : Program α) (k : Cluster) : List StoreError := (p.calls k).filterMap Call.fault?

theorem calls_bind (p : Program α) (f : α → Program β) (k : Cluster) :
    (p >>= f).calls k = p.calls k ++ (f (p.run .direct k).1).calls (p.run .direct k).2 := by
  change (p.bind f).calls k = _
  induction p generalizing k with
  | done a => rfl
  | request r next inductionHypothesis => exact congrArg (⟨r, k⟩ :: ·) (inductionHypothesis _ _)
  | sleep milliseconds next inductionHypothesis => exact inductionHypothesis k

theorem faults_bind (p : Program α) (f : α → Program β) (k : Cluster) :
    (p >>= f).faults k = p.faults k ++ (f (p.run .direct k).1).faults (p.run .direct k).2 := by
  rw [faults, calls_bind, List.filterMap_append]
  rfl

@[simp]
theorem faults_pure (a : α) (k : Cluster) : (pure a : Program α).faults k = [] := rfl

theorem faults_call_bind_of_ok {r : Request} {f : Except StoreError r.Answer → Program α}
    {k : Cluster} {a : r.Answer} (answered : (k.serve r).1 = .ok a) :
    (call r >>= f).faults k = (f (.ok a)).faults (k.serve r).2 := by
  have fault : (⟨r, k⟩ : Call).fault? = none := by
    rw [Call.fault?, Call.answer, answered]
  rw [← answered]
  exact List.filterMap_cons_none fault

theorem faults_call_bind_of_error {r : Request} {f : Except StoreError r.Answer → Program α}
    {k : Cluster} {e : StoreError} (answered : (k.serve r).1 = .error e) :
    (call r >>= f).faults k = e :: (f (.error e)).faults (k.serve r).2 := by
  have fault : (⟨r, k⟩ : Call).fault? = some e := by
    rw [Call.fault?, Call.answer, answered]
  rw [← answered]
  exact List.filterMap_cons_some fault

/-- Every call keeps to what the program keeps to. -/
theorem Upholds.of_mem_calls {guarantee : Cluster → Cluster → Prop} {post : α → Cluster → Prop}
    {p : Program α} {k : Cluster} (upheld : p.Upholds Eq guarantee post k) {c : Call}
    (made : c ∈ p.calls k) : guarantee c.before c.after := by
  induction p generalizing k with
  | done a => exact nomatch made
  | request r next inductionHypothesis =>
      obtain ⟨kept, rest⟩ := upheld k rfl
      rcases List.mem_cons.mp made with rfl | later
      · exact kept
      · exact inductionHypothesis _ rest later
  | sleep milliseconds next inductionHypothesis => exact inductionHypothesis upheld made

end Program

namespace Pass

variable {α β ε : Type} {causes : ε → List StoreError} {k : Cluster}

theorem run_request (r : Request) (failure : StoreError → ε) (k : Cluster) :
    (ExceptT.run (request r failure)).run .direct k =
      ((k.serve r).1.mapError failure, (k.serve r).2) := rfl

/-- What a pass tells by its result: nothing if it succeeded, and else what its error names. -/
def told {β : Type} (causes : ε → List β) : Except ε α → List β
  | .ok _ => []
  | .error e => causes e

/-- Of what goes wrong the pass tells all. -/
def Reports (causes : ε → List StoreError) (x : Pass ε α) (k : Cluster) : Prop :=
  (ExceptT.run x).faults k = told causes ((ExceptT.run x).run .direct k).1

namespace Reports

theorem pure (a : α) : Reports causes (pure a : Pass ε α) k := rfl

theorem throw {e : ε} (uncaused : causes e = []) : Reports causes (throw e : Pass ε α) k :=
  uncaused.symm

theorem request {r : Request} {failure : StoreError → ε}
    (caused : ∀ e, causes (failure e) = [e]) : Reports causes (Pass.request r failure) k := by
  rw [Reports, run_request]
  cases answered : (k.serve r).1 with
  | ok a => exact Program.faults_call_bind_of_ok answered
  | error e => exact (Program.faults_call_bind_of_error answered).trans (caused e).symm

theorem bind {x : Pass ε α} {f : α → Pass ε β} (first : Reports causes x k)
    (rest : ∀ a l, Succeeds x k a l → Reports causes (f a) l) : Reports causes (x >>= f) k := by
  unfold Reports at first ⊢
  rw [Pass.run_bind]
  change Program.faults (Bind.bind (ExceptT.run x) (ExceptT.bindCont f)) k = _
  rw [Program.faults_bind, first]
  have ended : (ExceptT.run x).run .direct k =
    (((ExceptT.run x).run .direct k).1, ((ExceptT.run x).run .direct k).2) := rfl
  generalize ((ExceptT.run x).run .direct k).2 = l at ended ⊢
  generalize ((ExceptT.run x).run .direct k).1 = result at ended ⊢
  cases result with
  | ok a => exact rest a l ended
  | error e => exact List.append_nil _

theorem request_then {r : Request} {failure : StoreError → ε} {x : Pass ε α}
    (caused : ∀ e, causes (failure e) = [e]) (rest : ∀ l, Reports causes x l) :
    Reports causes (do let _ ← Pass.request r failure; x) k :=
  bind (request caused) fun _ l _ => rest l

end Reports

end Pass

end NfsStorage

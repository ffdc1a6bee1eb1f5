import NfsStorage.Proofs.Declaration.Contention
import NfsStorage.Proofs.Declaration.Release

/-!
# Finalizers of others

Others may hold a declaration as well as the module does. A pass sets the whole list of finalizers,
from the copy of the declaration that it has read, and names no version. So it undoes what others
have done to the list since then.
-/

namespace NfsStorage

open Program (Call)
open Pass (Recorded)

/-- The finalizers by which others than the module hold the declaration. -/
def Declaration.otherFinalizers (d : Declaration) : List String :=
  d.metadata.finalizerList.filter (· ≠ Names.finalizer)

/-- Nobody holds a declaration that is not there. -/
def Cluster.otherFinalizers (k : Cluster) (n : String) : List String :=
  (k.object? .declarations n).elim [] fun d : Declaration => d.otherFinalizers

def Request.SetsFinalizers (n : String) (r : Request) : Prop :=
  ∃ finalizers, r = .patch .declarations n (finalizersPatch finalizers)

theorem Request.not_setsFinalizers {n : String} {r : Request}
    (other : r.collection ≠ .declarations ∨ r.verb ≠ .patch) : ¬ r.SetsFinalizers n := by
  rintro ⟨finalizers, rfl⟩
  exact other.elim (absurd rfl) (absurd rfl)

namespace Declaration

theorem filter_revised (d : Declaration) :
    d.revised.filter (· ≠ Names.finalizer) = d.otherFinalizers := by
  unfold revised otherFinalizers
  split
  next => simp only [List.filter_filter, Bool.and_self]
  next => simp

theorem otherFinalizers_of_isReleased {d : Declaration} (released : Store.isReleased d = true) :
    d.otherFinalizers = [] := by
  have none : d.metadata.finalizerList = [] :=
    List.isEmpty_iff.mp (Bool.and_eq_true_iff.mp released).2
  rw [otherFinalizers, none]
  rfl

end Declaration

section Calls

variable {k : Cluster} {n : String} {d : Declaration}

theorem Request.Serves.eq_of_setsFinalizers {r : Request} (serves : r.Serves d)
    (sets : r.SetsFinalizers n) : r = .patch .declarations d.name (finalizersPatch d.revised) := by
  cases serves with
  | configured => exact absurd sets (Request.not_setsFinalizers (Or.inl nofun))
  | held => rfl
  | told => exact absurd sets (Request.not_setsFinalizers (Or.inr nofun))
  | derived kind concerns =>
      refine absurd sets (Request.not_setsFinalizers (Or.inl ?_))
      exact concerns.collection ▸ kind.collection_ne_declarations

theorem otherFinalizers_of_object? {old : Declaration}
    (found : k.object? .declarations n = some old) : k.otherFinalizers n = old.otherFinalizers :=
  congrArg (Option.elim · [] Declaration.otherFinalizers) found

theorem otherFinalizers_write (k : Cluster) (verb : Verb) (n : String) (d : Declaration) :
    (k.write .declarations verb n d).otherFinalizers n = d.otherFinalizers := by
  rw [Cluster.otherFinalizers, Cluster.object?_write_self, Store.isReleased_stamped]
  split
  next released => exact (Declaration.otherFinalizers_of_isReleased released).symm
  next => rfl

/-- Of the requests of a pass only the one that sets finalizers has to do with those of others. -/
theorem otherFinalizers_of_serves {call : Call} (reachable : call.before.Reachable)
    (serves : call.request.Serves d) (elsewise : ¬ call.request.SetsFinalizers d.name) :
    call.after.otherFinalizers d.name = call.before.otherFinalizers d.name := by
  have served := call.served
  generalize call.answer = answer at served
  generalize call.after = after at served ⊢
  obtain ⟨r, before⟩ := call
  cases serves with
  | configured => rw [served.eq_of_reads rfl]
  | held => exact absurd ⟨_, rfl⟩ elsewise
  | told phase reason =>
      rcases served.of_statusPatch reachable.sound with ⟨-, rfl⟩ | ⟨old, _, -, found, -, rfl⟩
      · rfl
      · -- If the declaration goes with its status, nobody has held it before either.
        rw [otherFinalizers_write, otherFinalizers_of_object? found]
        rfl
  | derived kind concerns =>
      have same : after.object? .declarations d.name = before.object? .declarations d.name :=
        served.object? fun here =>
          absurd (here.trans concerns.collection) kind.collection_ne_declarations.symm
      rw [Cluster.otherFinalizers, same, Cluster.otherFinalizers]

/-- Others hold the declaration by what they are given in the list, whatever was in it before. -/
theorem otherFinalizers_of_patch {call : Call} {finalizers : List String}
    (reachable : call.before.Reachable)
    (sets : call.request = .patch .declarations n (finalizersPatch finalizers))
    (succeeds : call.fault? = none) :
    call.after.otherFinalizers n = finalizers.filter (· ≠ Names.finalizer) := by
  obtain ⟨r, before⟩ := call
  obtain rfl : r = _ := sets
  obtain ⟨written, answered⟩ := Call.fault?_eq_none_iff.mp succeeds
  rcases (Call.served _).of_finalizersPatch (reachable.sound.tidy (c := .declarations) rfl) with
    ⟨⟨e, failed⟩, -⟩ | ⟨old, _, -, -, -, same⟩
  · exact nomatch answered.symm.trans failed
  · rw [same, otherFinalizers_write, Declaration.otherFinalizers]
    exact congrArg _ (Resource.finalizerList_heldBy old finalizers)

end Calls

/-- A call of a pass that sets finalizers undoes what others have done to them since the pass has
read the declaration: if it succeeds, they hold the declaration by what they held it by then. All
other calls, and those that fail, leave the finalizers of others as they are. -/
theorem finalizers_set_back (op : Operator) {n : String} {k m : Cluster} {calls : List Call}
    {result : Except DeclarationPass.Error Next} (reachable : k.Reachable)
    (runs : Recorded (DeclarationPass.reconcile op n) k calls result m) :
    ∀ earlier call later, calls = earlier ++ call :: later →
      (¬ call.request.SetsFinalizers n ∨ call.fault? ≠ none →
        call.after.otherFinalizers n = call.before.otherFinalizers n) ∧
      (call.request.SetsFinalizers n →
        ∃ d, (∃ read ∈ earlier, read.Saw .declarations n (some d)) ∧
          call.request = .patch .declarations n (finalizersPatch d.revised) ∧
          (call.fault? = none → call.after.otherFinalizers n = d.otherFinalizers)) := by
  rintro earlier call later rfl
  have made : call ∈ earlier ++ call :: later := List.mem_append_right _ (List.mem_cons_self ..)
  have there : call.before.Reachable := (Program.Recorded.reachable runs reachable).2 call made
  rcases recorded_reconcile reachable runs with
    get | ⟨d, read, between, rfl, saw, rfl, visited, follows⟩
  · have same : call.after = call.before := call.served.eq_of_reads (by rw [get]; rfl)
    have reads : ¬ call.request.SetsFinalizers n := by
      rw [get]
      exact Request.not_setsFinalizers (Or.inr nofun)
    exact ⟨fun _ => same ▸ rfl, fun sets => absurd sets reads⟩
  · have serves : call.request.Serves d :=
      (Program.Sends.recorded (serves_reconcileFound op d) follows visited).2 call
        (List.mem_append_right _ (List.mem_cons_self ..))
    constructor
    · rintro (elsewise | fails)
      · exact otherFinalizers_of_serves there serves elsewise
      · rw [call.after_of_fault fails]
    · intro sets
      have revised : call.request = .patch .declarations d.name (finalizersPatch d.revised) :=
        serves.eq_of_setsFinalizers sets
      refine ⟨d, ⟨read, List.mem_cons_self .., saw⟩, revised, fun succeeds => ?_⟩
      rw [otherFinalizers_of_patch there revised succeeds, d.filter_revised]

def unheld : Cluster :=
  Cluster.setStore {} .declarations
    (Store.ofList [{ sharing with metadata := { name := some "a" } }])

theorem reachable_unheld : unheld.Reachable := .filledAlive .declarations rfl .empty

/-- A pass over a declaration whose finalizers others set once the pass has read it. -/
def overtaken (finalizers : List String) (k : Cluster) :
    List Call × Except DeclarationPass.Error Next × Cluster :=
  (DeclarationPass.reconcile {} "a").run.interrupted
    [[], [.patch .declarations "a" (finalizersPatch finalizers)]] k

/-- The pass takes its own hold from a list that was empty, and others lose theirs. -/
theorem finalizers_set_back_unheld :
    ∃ call ∈ (overtaken ["example.com/other"] unheld).1, ∃ d : Declaration,
      call.request = .patch .declarations "a" (finalizersPatch d.revised) ∧
      d.otherFinalizers = [] ∧ call.before.otherFinalizers "a" = ["example.com/other"] ∧
      call.after.otherFinalizers "a" = [] := by
  obtain ⟨call, made, held, lost⟩ : ∃ call ∈ (overtaken ["example.com/other"] unheld).1,
      call.before.otherFinalizers "a" = ["example.com/other"] ∧
        call.after.otherFinalizers "a" = [] := by
    decide +kernel
  obtain ⟨earlier, later, split⟩ := List.append_of_mem made
  obtain ⟨leaves, sets⟩ := finalizers_set_back {} reachable_unheld
    (Program.recorded_interrupted _ _ unheld) earlier call later split
  -- The finalizers of others have changed, and only one call of a pass does that.
  have changed : call.after.otherFinalizers "a" ≠ call.before.otherFinalizers "a" := by
    rw [held, lost]
    exact nofun
  have set : call.request.SetsFinalizers "a" :=
    Classical.byContradiction fun elsewise => changed (leaves (Or.inl elsewise))
  have succeeds : call.fault? = none :=
    Classical.byContradiction fun fails => changed (leaves (Or.inr fails))
  obtain ⟨d, -, revised, back⟩ := sets set
  exact ⟨call, made, d, revised, (back succeeds).symm.trans lost, held, lost⟩

/-- Others take hold of a declaration and lose it again, or let go of one and hold it again, and no
pass tells of it. -/
theorem finalizers_of_others_lost :
    let taking := overtaken ["example.com/other"] unheld
    let leaving := overtaken [Names.finalizer] departing
    (taking.2.1.isOk = true ∧
      (∃ call ∈ taking.1, call.before.otherFinalizers "a" = ["example.com/other"]) ∧
      taking.2.2.otherFinalizers "a" = []) ∧
      leaving.2.1.isOk = true ∧
      (∃ call ∈ leaving.1, call.before.otherFinalizers "a" = []) ∧
      leaving.2.2.otherFinalizers "a" = ["example.com/hold"] := by
  decide +kernel

end NfsStorage

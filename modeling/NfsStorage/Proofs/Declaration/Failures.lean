import NfsStorage.Proofs.Declaration.Requests
import NfsStorage.Proofs.Program.Calls

/-!
# What a pass over a declaration tells of its failures

A pass stops at the first call that fails, but for the status, which it tries to write all the same.
So its error tells of one failure or of two, and these are all that there were: a pass succeeds just
when each of its calls does.
-/

namespace NfsStorage.DeclarationPass

def Error.causes : Error → List StoreError
  | .reconcileAndStatus reconcile status => reconcile.causes ++ status.causes
  | e => e.cause?.toList

theorem Error.causes_ne_nil (e : Error) : e.causes ≠ [] := by
  induction e with
  | reconcileAndStatus reconcile status told _ =>
      exact fun none => told (List.append_eq_nil_iff.mp none).1
  | getDeclaration | updateFinalizers | getModuleConfig | getDerived | applyDerived
  | updateStatus => exact List.cons_ne_nil _ _

theorem told_eq_nil_iff {α : Type} {result : Except Error α} :
    Pass.told Error.causes result = [] ↔ ∃ a, result = .ok a := by
  cases result with
  | ok a => exact ⟨fun _ => ⟨a, rfl⟩, fun _ => rfl⟩
  | error e =>
      constructor
      · exact fun none => absurd none e.causes_ne_nil
      · exact fun ⟨a, same⟩ => nomatch same

theorem told_joinResults (op : Operator) (result : Except Error Outcome)
    (written : Except Error Unit) :
    Pass.told Error.causes (joinResults op result written) =
      Pass.told Error.causes result ++ Pass.told Error.causes written := by
  cases result with
  | ok outcome => cases written <;> rfl
  | error e =>
      cases written with
      | ok _ => exact (List.append_nil _).symm
      | error status => rfl

theorem Error.causes_eq {e : Error} {cause : StoreError} (caused : e.cause? = some cause) :
    e.causes = [cause] := by
  cases e with
  | reconcileAndStatus => cases caused
  | getDeclaration | updateFinalizers | getModuleConfig | getDerived | applyDerived
  | updateStatus =>
      obtain rfl := Option.some.inj caused
      rfl

open Pass (Reports)

/-- The pass tells of all its failures. -/
abbrev Tells {α : Type} (x : Pass Error α) (k : Cluster) : Prop := Reports Error.causes x k

theorem byParts_tells {allowed : Request → Prop} : ByParts (fun _ => Tells) allowed :=
  ⟨fun a => Reports.pure a, Reports.bind,
    fun _ caused => Reports.request fun e => Error.causes_eq (caused e)⟩

theorem faults_reconcileFound (op : Operator) (d : Declaration) (k : Cluster) :
    (reconcileFound op d).faults k =
      Pass.told Error.causes ((reconcileFound op d).run .direct k).1 := by
  have parts : ByParts (fun _ => Tells) (Request.Tends op d (Due op d k)) := byParts_tells
  have worked : Tells (if d.isDeleting then release op d else converge op d) k := parts.work
  unfold Tells Reports at worked
  unfold reconcileFound
  rw [Program.faults_bind, Program.run_bind, worked]
  generalize Program.run .direct _ k = ended
  obtain ⟨result, l⟩ := ended
  simp only
  cases statusAfter result with
  | none => exact (told_joinResults op result (.ok ())).symm
  | some status =>
      have told : Tells (updateStatus d status) l := parts.updateStatus status
      unfold Tells Reports at told
      rw [Program.faults_bind, Program.run_bind, told, Program.faults_pure, List.append_nil]
      exact (told_joinResults op result _).symm

theorem tells_reconcile (op : Operator) (n : String) (k : Cluster) :
    Tells (reconcile op n) k := by
  unfold reconcile
  refine Reports.bind (Reports.request fun _ => rfl) fun found l _ => ?_
  cases found with
  | none => exact Reports.pure _
  | some d => exact faults_reconcileFound op d l

/-- A pass over a declaration succeeds just when none of its calls fails. -/
theorem faults_reconcile_eq_nil_iff (op : Operator) (n : String) (k : Cluster) :
    (reconcile op n).run.faults k = [] ↔
      ∃ next, ((reconcile op n).run.run .direct k).1 = .ok next := by
  have told : (reconcile op n).run.faults k = _ := tells_reconcile op n k
  rw [told]
  exact told_eq_nil_iff

end NfsStorage.DeclarationPass

import NfsStorage.Admission.Decision
import NfsStorage.Proofs.Declaration.Outlook
import NfsStorage.Proofs.Program.Success
import NfsStorage.Proofs.Store.Verdict

/-!
# Reviewed writes

Declarations and the configuration of the module are created and updated under review: a write goes
through if the verdict on it, found from the stores at that moment, is that it may, and comes to
nothing otherwise. `Step` says what can happen to a cluster under review, and the verdicts are told
from what is in the cluster.
-/

namespace NfsStorage

namespace Cluster

/-- The object that a write puts under review, and the operation that it is reviewed as. A patch is
reviewed by what it makes of the object in place. -/
inductive Submits (k : Cluster) (c : Collection) :
    Request → Admission.Operation → c.Object → Prop where
  | create (object : c.Object) : Submits k c (.create c object) .create object
  | replace (name : String) (object : c.Object) :
      Submits k c (.replace c name object) .update object
  | patch (name : String) (change : Json) (old object : c.Object)
      (found : k.object? c name = some old)
      (read : decode (Json.merge (encode old) change) = some object) :
      Submits k c (.patch c name change) .update object
  | patchStatus (name : String) (change : Json) (old object : c.Object)
      (found : k.object? c name = some old)
      (read : decode (Json.merge (encode old)
        (.object [("status", change.field "status")])) = some object) :
      Submits k c (.patchStatus c name change) .update object

/-- Somebody asked for the deletion of the object under a name. -/
def deletes (k : Cluster) (c : Collection) (name : String) : Bool :=
  (k.object? c name).any Resource.isDeleting

/-- The object under review says that it is to go only if the one in place is to go. -/
def Honest (k : Cluster) (c : Collection) (r : Request) (object : c.Object) : Prop :=
  Resource.isDeleting object = true → k.deletes c r.subject = true

/-- The requests that are not reviewed: all that only look, all on other kinds of objects and on the
configurations of other modules, deletions of declarations, and the patches by which a controller
holds a declaration, lets it go or tells its status. -/
inductive Exempt : Request → Prop where
  | reads {r : Request} (reads : r.writes? = none) : Exempt r
  | elsewhere {r : Request} (declarations : r.collection ≠ .declarations)
      (moduleConfigs : r.collection ≠ .moduleConfigs) : Exempt r
  | otherModule {r : Request} (collection : r.collection = .moduleConfigs)
      (other : r.writes? ≠ some ModuleConfig.singleton) : Exempt r
  | delete (name : String) : Exempt (.delete .declarations name)
  | finalizers (name : String) (finalizers : List String) :
      Exempt (.patch .declarations name (finalizersPatch finalizers))
  | status (name : String) (change : Json) : Exempt (.patchStatus .declarations name change)

/-- What happens to a cluster under review, where `tls` says whether RPC with TLS is compiled in. The
configuration of the module is never deleted. -/
inductive Step (tls : Bool) (k : Cluster) : Cluster → Prop where
  | declare {r : Request} {operation : Admission.Operation} {d : Declaration} (uid : String)
      (submits : k.Submits .declarations r operation d) (honest : k.Honest .declarations r d) :
      Step tls k (if ((Admission.admitDeclaration tls ⟨uid, operation, some d⟩).run .direct k).1 =
        .allowed then (k.serve r).2 else k)
  | configure {r : Request} {operation : Admission.Operation} {config : ModuleConfig} (uid : String)
      (submits : k.Submits .moduleConfigs r operation config)
      (honest : k.Honest .moduleConfigs r config) (ours : r.subject = ModuleConfig.singleton)
      (named : config.name = ModuleConfig.singleton) :
      Step tls k (if ((Admission.admitModuleConfig tls ⟨uid, operation, some config⟩).run
        .direct k).1 = .allowed then (k.serve r).2 else k)
  | serve {r : Request} (exempt : Exempt r) : Step tls k (k.serve r).2
  | refuse (c : Collection) (refused : Verb → Option Nat) : Step tls k (k.withRefusals c refused)
  | tick (clock : Time) : Step tls k { k with clock }

/-- The clusters that come about under review, from any that holds no declarations and no
configurations. -/
inductive Governed (tls : Bool) : Cluster → Prop where
  | start {k : Cluster} (noDeclarations : ∀ name, k.object? .declarations name = none)
      (noConfigs : ∀ name, k.object? .moduleConfigs name = none) : Governed tls k
  | step {k l : Cluster} (governed : Governed tls k) (step : Step tls k l) : Governed tls l

variable {k : Cluster} {c : Collection} {r : Request} {operation : Admission.Operation}
  {object : c.Object}

/-- If a reviewed write goes through, it leaves the object that was reviewed, or its settled form
with the deletion of the object in place. -/
theorem Submits.serve_cases (submits : k.Submits c r operation object) :
    (k.serve r).2 = k ∨ ∃ verb new, (k.serve r).2 = k.write c verb r.subject new ∧
      (new = object ∨ ∃ time, new = Store.setDeletion (Resource.settled object) time ∧
        time.isSome = k.deletes c r.subject) := by
  have served := k.served r
  generalize (k.serve r).1 = answer at served
  generalize (k.serve r).2 = l at served
  cases submits with
  | create =>
      cases served with
      | failed => exact Or.inl rfl
      | created _ _ _ absent =>
          refine Or.inr ⟨_, _, rfl, Or.inr ⟨none, rfl, ?_⟩⟩
          change false = (k.object? c (Resource.name object)).any Resource.isDeleting
          rw [absent, Option.any_none]
  | replace name =>
      cases served with
      | failed => exact Or.inl rfl
      | replaced _ _ _ old _ found =>
          refine Or.inr ⟨_, _, rfl, Or.inr ⟨_, rfl, ?_⟩⟩
          change _ = (k.object? c name).any Resource.isDeleting
          rw [found, Option.any_some]
          rfl
  | patch name change old object found read =>
      cases served with
      | failed => exact Or.inl rfl
      | patched _ _ _ before new _ foundToo readToo =>
          obtain rfl := Option.some.inj (found.symm.trans foundToo)
          obtain rfl := Option.some.inj (read.symm.trans readToo)
          exact Or.inr ⟨_, _, rfl, Or.inl rfl⟩
  | patchStatus name change old object found read =>
      cases served with
      | failed => exact Or.inl rfl
      | patchedStatus _ _ _ before new _ foundToo readToo =>
          obtain rfl := Option.some.inj (found.symm.trans foundToo)
          obtain rfl := Option.some.inj (read.symm.trans readToo)
          exact Or.inr ⟨_, _, rfl, Or.inl rfl⟩

theorem Submits.operation_ne_delete (submits : k.Submits c r operation object) :
    operation ≠ .delete := by
  cases submits <;> exact nofun

end Cluster

namespace Admission

variable {tls : Bool} {k : Cluster} {uid : String} {operation : Operation}

theorem objectToJudge?_eq {K : Type} [Resource K] {object : K} (write : operation ≠ .delete)
    (staying : Resource.isDeleting object = false) :
    objectToJudge? ⟨uid, operation, some object⟩ = some object := by
  have kept : (some object).filter (fun object : K => !Resource.isDeleting object) = some object := by
    rw [Option.filter_some, staying, Bool.not_false, if_pos rfl]
  cases operation <;> first | exact kept | exact absurd rfl write

theorem judge_eq_allowed_iff {config : ModuleConfig} {d : Declaration} :
    judge tls config d = .allowed ↔ config.validate tls d = .ok () := by
  rw [judge]
  cases config.validate tls d with
  | ok _ => exact iff_of_true rfl rfl
  | error _ => exact iff_of_false nofun nofun

theorem judgeAll_eq_allowed_iff {config : ModuleConfig} {declarations : List Declaration} :
    judgeAll tls config declarations = .allowed ↔
      ∀ d ∈ declarations, config.validate tls d = .ok () := by
  induction declarations with
  | nil => exact iff_of_true rfl fun _ membership => absurd membership List.not_mem_nil
  | cons d rest inductionHypothesis =>
      rw [judgeAll, List.forall_mem_cons, ← judge_eq_allowed_iff, ← inductionHypothesis]
      cases judge tls config d with
      | allowed => exact (and_iff_right rfl).symm
      | denied _ => exact iff_of_false nofun nofun

/-- A declaration that stays may be written just if the configuration can be read and accepts it. -/
theorem admitDeclaration_eq_allowed_iff {d : Declaration} (write : operation ≠ .delete)
    (staying : Resource.isDeleting d = false) :
    ((admitDeclaration tls ⟨uid, operation, some d⟩).run .direct k).1 = .allowed ↔
      k.refused .moduleConfigs .get = none ∧ k.config.validate tls d = .ok () := by
  rw [admitDeclaration, objectToJudge?_eq write staying]
  dsimp only
  rw [Program.run_call_bind]
  rcases k.serve_get .moduleConfigs ModuleConfig.singleton with ⟨served, serves⟩ | ⟨refuses, e, served⟩
  · rw [served]
    exact judge_eq_allowed_iff.trans (and_iff_right serves).symm
  · rw [served]
    exact iff_of_false nofun fun allowed => refuses allowed.1

/-- The configuration may be written just if the declarations can be read and it accepts them all. -/
theorem admitModuleConfig_eq_allowed_iff {config : ModuleConfig} (write : operation ≠ .delete)
    (staying : Resource.isDeleting config = false) (named : config.name = ModuleConfig.singleton) :
    ((admitModuleConfig tls ⟨uid, operation, some config⟩).run .direct k).1 = .allowed ↔
      k.refused .declarations .list = none ∧
        ∀ name d, k.object? .declarations name = some d → config.validate tls d = .ok () := by
  rw [admitModuleConfig, objectToJudge?_eq write staying]
  dsimp only
  rw [if_neg (not_not_intro named), Program.run_call_bind]
  rcases k.serve_list .declarations with ⟨served, serves⟩ | ⟨refuses, e, served⟩
  · rw [served]
    refine judgeAll_eq_allowed_iff.trans ⟨fun all => ⟨serves, fun name d found => ?_⟩, ?_⟩
    · exact all d (Dict.mem_values_iff.mpr ⟨name, found⟩)
    · rintro ⟨-, all⟩ d listed
      obtain ⟨name, found⟩ := Dict.mem_values_iff.mp listed
      exact all name d found
  · rw [served]
    exact iff_of_false nofun fun allowed => refuses allowed.1

end Admission

end NfsStorage

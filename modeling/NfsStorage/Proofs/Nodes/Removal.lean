import NfsStorage.Proofs.Nodes.Closure
import NfsStorage.Proofs.Program.Footprint

/-!
# Which nodes a tick unlabels

A tick writes no node but those that its plan changes, however far it comes. So a node that has lost
the label after a tick was to lose it by the plan, also if the tick has failed.
-/

namespace NfsStorage

/-- A tick takes the label of the module from the node. -/
structure NodeTick.Unlabels (op : Operator) (k : Cluster) (name : String) : Prop where
  before : k.Labelled name
  after : ¬ ((tick op).run.run .direct k).2.Labelled name

theorem Program.sends_retryUpTo {α : Type} {allowed : Request → Prop}
    {attempt : Program (Except StoreError α)} {isConflict : StoreError → Bool} {milliseconds : Nat}
    (sends : attempt.Sends allowed fun _ => True) (more : Nat) :
    (retryUpTo (.sleep milliseconds (.done ())) isConflict attempt more).Sends allowed
      fun _ => True := by
  induction more with
  | zero => exact sends
  | succ more inductionHypothesis =>
      refine Sends.bind (sends.mono fun result _ => ?_)
      cases result with
      | ok answer => trivial
      | error e =>
          simp only
          split
          next => exact inductionHypothesis
          next => trivial

namespace NodeTick

open Pass (Sends)

variable {k : Cluster} {op : Operator} {name : String}

abbrev KeepsOff {ε α : Type} (name : String) (x : Pass ε α) : Prop :=
  Sends (Request.Avoids .nodes name) (fun _ => True) x

theorem sends_labelOnce {other : String} (different : other ≠ name) (present : Bool) :
    (labelOnce other present).Sends (Request.Avoids .nodes name) fun _ => True := by
  apply Program.Sends.bind
  refine Program.Sends.call (Request.avoids_of_reads rfl) fun answer => ?_
  cases answer with
  | error e => trivial
  | ok found =>
      cases found with
      | none => trivial
      | some node =>
          simp only
          split
          next => trivial
          next =>
            apply Program.Sends.bind
            exact Program.Sends.call (fun _ written => different (Option.some.inj written))
              fun _ => trivial

theorem keepsOff_setLabels {names : List String} (unlisted : name ∉ names) (present : Bool) :
    KeepsOff name (setLabels present names) := by
  induction names with
  | nil => exact Sends.pure trivial
  | cons first rest inductionHypothesis =>
      obtain ⟨different, unlisted⟩ := not_or.mp (mt List.mem_cons.mpr unlisted)
      apply Sends.bind
      apply Program.Sends.bind
      exact (Program.sends_retryUpTo (sends_labelOnce (Ne.symm different) present) _).mono
        fun _ _ _ _ => inductionHypothesis unlisted

theorem keepsOff_deletePods (pods : List String) : KeepsOff name (deletePods pods) := by
  induction pods with
  | nil => exact Sends.pure trivial
  | cons pod rest inductionHypothesis =>
      exact Sends.request_then (r := .delete .modulePods (nameInReference pod)) nofun
        inductionHypothesis

theorem keepsOff_carryOut {plan : NodePlan.Plan} (notLabelled : name ∉ plan.toLabel)
    (notUnlabelled : name ∉ plan.toUnlabel) : KeepsOff name (do carryOut plan; return plan) := by
  have carried : KeepsOff name (carryOut plan) := by
    apply Sends.bind
    refine (keepsOff_setLabels notLabelled true).mono fun _ _ => ?_
    apply Sends.bind
    exact (keepsOff_setLabels notUnlabelled false).mono fun _ _ => keepsOff_deletePods _
  exact Sends.bind (carried.mono fun _ _ => Sends.pure trivial)

theorem keepsOff_listSnapshots : KeepsOff name listSnapshots := by
  apply Program.Sends.bind
  refine Program.Sends.call (Request.avoids_of_reads rfl) fun answer => ?_
  cases answer with
  | ok snapshots => exact Sends.pure trivial
  | error e => exact fun _ _ => trivial

theorem keepsOff_observe : KeepsOff name observe := by
  have read : ∀ {r : Request} {failure : StoreError → Error} {α : Type}
      {f : r.Answer → Pass Error α}, r.writes? = none → (∀ a, KeepsOff name (f a)) →
        KeepsOff name (Pass.request r failure >>= f) := fun reads rest =>
    Sends.bind (Sends.request (Request.avoids_of_reads reads) fun a _ => rest a)
  apply Sends.bind
  refine keepsOff_listSnapshots.mono fun snapshots _ => ?_
  exact read rfl fun _ => read rfl fun _ => read rfl fun _ => read rfl fun _ => read rfl fun _ =>
    Sends.pure trivial

theorem object?_tick (reachable : k.Reachable)
    (notLabelled : name ∉ (k.observation.plan op.namespace).toLabel)
    (notUnlabelled : name ∉ (k.observation.plan op.namespace).toUnlabel) :
    ((tick op).run.run .direct k).2.object? .nodes name = k.object? .nodes name := by
  have looked : ((ExceptT.run observe).run .direct k).2.object? .nodes name =
      k.object? .nodes name := Program.Sends.object?_run keepsOff_observe reachable.sound
  rw [tick, Pass.run_bind]
  generalize observed : (ExceptT.run observe).run .direct k = ended at looked ⊢
  obtain ⟨result, l⟩ := ended
  cases result with
  | error e => exact looked
  | ok o =>
      obtain ⟨-, rfl, rfl⟩ := succeeds_observe.mp observed
      exact Program.Sends.object?_run (keepsOff_carryOut notLabelled notUnlabelled) reachable.sound

theorem Unlabels.mem_toUnlabel (unlabels : Unlabels op k name) (reachable : k.Reachable) :
    name ∈ (k.observation.plan op.namespace).toUnlabel := by
  refine Decidable.byContradiction fun stays => unlabels.after ?_
  have notLabelled : name ∉ (k.observation.plan op.namespace).toLabel := fun labelled =>
    ((Cluster.mem_toLabel (reachable.versioned _)).mp labelled).2 unlabels.before
  exact (labelled_of_same (object?_tick reachable notLabelled stays)).mpr unlabels.before

end NodeTick

end NfsStorage

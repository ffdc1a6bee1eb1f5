import NfsStorage.Controller.Declaration
import NfsStorage.Controller.ModuleConfig

/-!
The controllers from start to shutdown. Every object that is there at the start is due for a pass at
once, and again when its last pass says so; times are milliseconds since the start.
-/

namespace NfsStorage

/-- The names due for a pass and their times, earliest first. -/
abbrev Agenda := List (Nat × String)

namespace Agenda

/-- A new entry comes after those that are due at the same time. -/
def add (time : Nat) (name : String) : Agenda → Agenda
  | [] => [(time, name)]
  | entry :: rest =>
    if time < entry.1 then (time, name) :: entry :: rest else entry :: add time name rest

def ahead (shutdown : Nat) : Agenda → Nat
  | [] => 0
  | entry :: rest => shutdown - entry.1 + ahead shutdown rest

theorem ahead_add (shutdown time : Nat) (name : String) (agenda : Agenda) :
    ahead shutdown (agenda.add time name) = shutdown - time + ahead shutdown agenda := by
  induction agenda with
  | nil => simp [add, ahead]
  | cons entry rest inductionHypothesis =>
      rw [add]
      split
      · simp [ahead]
      · simp only [ahead, inductionHypothesis]
        omega

/-- Work off an agenda. A visit says after how many milliseconds the name is due again; a delay of
none counts as one. -/
def work {σ : Type} (visit : String → σ → Option Nat × σ) (shutdown : Nat) :
    Agenda → σ → σ
  | [], state => state
  | (time, name) :: rest, state =>
    if time < shutdown then
      match visit name state with
      | (none, state) => work visit shutdown rest state
      | (some delay, state) => work visit shutdown (add (time + max delay 1) name rest) state
    else state
termination_by agenda _ => (ahead shutdown agenda, agenda.length)
decreasing_by
  · refine Prod.Lex.left _ _ ?_
    simp [ahead]
    omega
  · refine Prod.Lex.left _ _ ?_
    rw [ahead_add]
    simp [ahead]
    omega

end Agenda

def Next.delay? : Next → Option Nat
  | .awaitChange => none
  | .requeue milliseconds => some milliseconds

namespace DeclarationPass

/-- A pass with the count of failures beside the cluster. An error calls for another pass after the
delay that the failures in a row ask for. -/
def visit (op : Operator) (route : Route) (name : String) (state : Cluster × Failures) :
    Option Nat × Cluster × Failures :=
  let (result, k) := (reconcile op name).run.run route state.1
  match result with
  | .ok next => (next.delay?, k, state.2.forget name)
  | .error _ =>
    let (delay, failures) := state.2.record name op.requeueInterval
    (some delay, k, failures)

/-- The controller until its shutdown. Objects that carry the mark of the module only call for their
declaration, which is due anyhow if it exists. -/
def control (op : Operator) (shutdown : Nat) (k : Cluster) : Cluster :=
  let agenda := k.declarations.names.map fun name => (0, name)
  (Agenda.work (visit op (.api op.namespace)) shutdown agenda (k, ∅)).1

end DeclarationPass

namespace ModuleConfigPass

/-- Errors call for another pass after the requeue interval. -/
def visit (op : Operator) (route : Route) (name : String) (k : Cluster) : Option Nat × Cluster :=
  let (result, k) := (reconcile op name).run.run route k
  match result with
  | .ok next => (next.delay?, k)
  | .error _ => (some op.requeueInterval, k)

/-- The controller until its shutdown. Only a configuration that exists is due. -/
def control (op : Operator) (shutdown : Nat) (k : Cluster) : Cluster :=
  let names := k.moduleConfigs.names.filter (· = ModuleConfig.singleton)
  let agenda := names.map fun name => (0, name)
  Agenda.work (visit op (.api op.namespace)) shutdown agenda k

end ModuleConfigPass

end NfsStorage

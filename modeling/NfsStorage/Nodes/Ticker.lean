import NfsStorage.Nodes.Tick

/-!
Ticks at regular intervals until a shutdown. Time is counted in milliseconds from the start, and
passes only while a program sleeps.
-/

namespace NfsStorage

/-- Run a program, which is cut off when it would sleep for `budget` milliseconds or longer in all.
A program that ended leaves the rest of its budget. -/
def Program.runWithin {α : Type} (route : Route) :
    Program α → Nat → Cluster → Option (α × Nat) × Cluster
  | .done a, budget, k => (some (a, budget), k)
  | .request r next, budget, k =>
    let (answer, k) := route.send r k
    (next answer).runWithin route budget k
  | .sleep milliseconds next, budget, k =>
    if milliseconds < budget then next.runWithin route (budget - milliseconds) k else (none, k)

namespace NodeTick

/-- A tick that comes more than this many milliseconds late puts off the ticks after it. -/
def lateness : Nat := 5

/-- Ticks from the time that the next one is due. The outcome of a tick changes nothing about the
next one. -/
def ticksFrom (op : Operator) (route : Route) (interval shutdown due now : Nat) (k : Cluster) :
    Cluster :=
  let start := max due now
  if start < shutdown then
    match (tick op).run.runWithin route (shutdown - start) k with
    | (none, k) => k
    | (some (_, left), k) =>
      let next := (if due + lateness < start then start else due) + max interval 1
      ticksFrom op route interval shutdown next (shutdown - left) k
  else k
termination_by shutdown - due
decreasing_by
  split <;> omega

/-- Ticks at the start and once every interval, until the shutdown. -/
def ticks (op : Operator) (route : Route) (interval shutdown : Nat) (k : Cluster) : Cluster :=
  ticksFrom op route interval shutdown 0 0 k

end NodeTick

end NfsStorage

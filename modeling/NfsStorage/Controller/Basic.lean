import NfsStorage.Resource.Names
import NfsStorage.Data.Dict

/-!
What the controllers share: their settings, what they do next, and how long they wait after
failures.
-/

namespace NfsStorage

/-- The settings of a controller. `tls` says whether RPC with TLS is compiled in; the requeue
interval is in milliseconds. -/
structure Operator where
  «namespace» : String := Names.defaultNamespace
  requeueInterval : Nat := 10000
  tls : Bool := true

inductive Next where
  | awaitChange
  | requeue (milliseconds : Nat)
deriving DecidableEq, Repr

/-- The delay after the given failure in a row: one second, doubled with every failure up to the
seventeenth, but never more than `cap`; in milliseconds. -/
def backoffDelay (attempt cap : Nat) : Nat := min (1000 <<< min (attempt - 1) 16) cap

/-- How often each name failed since its last success. -/
abbrev Failures := Dict Nat

namespace Failures

def count (failures : Failures) (name : String) : Nat := (failures.get? name).getD 0

def record (failures : Failures) (name : String) (cap : Nat) : Nat × Failures :=
  let attempt := failures.count name + 1
  (backoffDelay attempt cap, failures.insert name attempt)

def forget (failures : Failures) (name : String) : Failures := failures.erase name

def afterPass {ε α : Type} (failures : Failures) (name : String) : Except ε α → Failures
  | .ok _ => failures.forget name
  | .error _ => failures

end Failures

end NfsStorage

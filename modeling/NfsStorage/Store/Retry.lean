/-!
Trying again after conflicts. An attempt that meets a conflict is made again after a pause, until
the last attempt allowed, whose answer stands.
-/

namespace NfsStorage

def conflictAttempts : Nat := 5

/-- The pause between two attempts, in milliseconds. -/
def conflictPause : Nat := 10

/-- Make an attempt, and after a conflict up to `more` others. -/
def retryUpTo {m : Type → Type} [Monad m] {ε α : Type} (pause : m Unit) (isConflict : ε → Bool)
    (attempt : m (Except ε α)) : Nat → m (Except ε α)
  | 0 => attempt
  | more + 1 => do
    match ← attempt with
    | .ok answer => return .ok answer
    | .error e =>
      if isConflict e then
        pause
        retryUpTo pause isConflict attempt more
      else return .error e

def retryOnConflict {m : Type → Type} [Monad m] {ε α : Type} (pause : Nat → m Unit)
    (isConflict : ε → Bool) (attempt : m (Except ε α)) : m (Except ε α) :=
  retryUpTo (pause conflictPause) isConflict attempt (conflictAttempts - 1)

end NfsStorage

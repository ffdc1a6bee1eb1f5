import NfsStorage.Proofs.Declaration.Status
import NfsStorage.Proofs.Store.Conditions

/-!
# Failures leave no trace

A pass that fails is run again. However often that happens, and wherever the passes stopped, the
first that meets no failure leaves what it would have left in their place: they all keep to the
outlook, and it brings the outlook about.
-/

namespace NfsStorage

namespace Cluster

def passed (op : Operator) (n : String) (k : Cluster) (conditions : Conditions) : Cluster :=
  ((DeclarationPass.reconcile op n).run.run .direct (k.under conditions)).2

@[simp]
theorem outlook_under (k : Cluster) (conditions : Conditions) (op : Operator) (n : String) :
    (k.under conditions).outlook op n = k.outlook op n := by
  simp only [outlook, derived, config, object?_under]

/-- A cluster in which a declaration has to expect the same as in another, and every pass can go
on. -/
structure Ahead (op : Operator) (n : String) (s k : Cluster) : Prop where
  sound : k.Sound
  lasting : k.NoneReleased
  outlook : k.outlook op n = s.outlook op n

variable {op : Operator} {n : String} {s k : Cluster}

/-- Under whatever conditions, a pass keeps to the outlook, and without failures it brings it
about. -/
theorem Ahead.alone (ahead : Ahead op n s k) (conditions : Conditions) :
    Alone op n (fun _ l => l.observed n = l.outlook op n) (fun _ l => l.Refuses)
      (DeclarationPass.reconcile op n) (k.under conditions) :=
  alone_reconcile (ahead.sound.under conditions) fun d found =>
    ahead.lasting.under conditions .declarations n d found

theorem Ahead.passed (ahead : Ahead op n s k) (conditions : Conditions) :
    Ahead op n s (k.passed op n conditions) where
  sound := Program.run_of_served Sound (fun sound served => sound.served served) _
    (ahead.sound.under conditions)
  lasting := Program.run_of_served NoneReleased (fun lasting served => lasting.served served) _
    (ahead.lasting.under conditions)
  outlook := by
    have kept := (ahead.alone conditions).outlook_run
    rw [outlook_under] at kept
    exact kept.trans ahead.outlook

theorem Ahead.attempts (ahead : Ahead op n s k) (attempts : List Conditions) :
    Ahead op n s (attempts.foldl (Cluster.passed op n) k) := by
  induction attempts generalizing k with
  | nil => exact ahead
  | cons first rest inductionHypothesis => exact inductionHypothesis (ahead.passed first)

theorem Ahead.observed_calm (ahead : Ahead op n s k) (conditions : Conditions) :
    (k.passed op n conditions.calm).observed n = s.outlook op n := by
  have later := ahead.passed conditions.calm
  have ended := Program.Upholds.run (ahead.alone conditions.calm)
  have refused : (k.passed op n conditions.calm).refused = conditions.calm.refused :=
    (Program.refused_run _ _).trans (refused_under _ _)
  cases result : ((DeclarationPass.reconcile op n).run.run .direct
      (k.under conditions.calm)).1 with
  | ok next =>
      rw [result] at ended
      exact Eq.trans ended later.outlook
  | error e =>
      rw [result] at ended
      -- A pass fails only where the server refuses something.
      obtain ⟨c, verb, refuses⟩ := ended
      exact absurd (congrFun (congrFun refused c) verb) refuses

end Cluster

/-- After any number of passes that failed as they may, a pass without failures leaves of a
declaration and of its derived objects what it would have left at once. -/
theorem failures_transparent (op : Operator) {s : Cluster} (reachable : s.Reachable)
    (lasting : s.NoneReleased) (n : String) (attempts : List Conditions)
    (last once : Conditions) :
    ((attempts.foldl (Cluster.passed op n) s).passed op n last.calm).observed n =
      (s.passed op n once.calm).observed n := by
  have start : Cluster.Ahead op n s s := ⟨reachable.sound, lasting, rfl⟩
  calc
    _ = s.outlook op n := (start.attempts attempts).observed_calm last
    _ = _ := (start.observed_calm once).symm

def Conditions.refusing (c : Collection) (verb : Verb) : Conditions where
  refused other asked := if other = c ∧ asked = verb then some 500 else none
  clock := ⟨⟨2024, 1, 1⟩, 0, 0, 0, 0⟩
  valid := by decide

/-- A storage class that lost its finalizers in one pass and was deleted in the next is back after
the third, as if the first had gone through. -/
theorem failures_transparent_dated :
    let undeleted := Conditions.refusing .storageClasses .delete
    let uncreated := Conditions.refusing .storageClasses .create
    let attempted := [undeleted, uncreated].foldl (Cluster.passed {} "a") dated
    attempted.object? .storageClasses "a" = none ∧
      (attempted.passed {} "a" uncreated.calm).observed "a" =
        (dated.passed {} "a" undeleted.calm).observed "a" := by
  intro undeleted uncreated attempted
  have lasting : dated.NoneReleased := by
    refine .filled (.filled (k := {}) ?_ .declarations ?_) .storageClasses ?_
    · intro c name object present
      cases c <;> exact nomatch present
    all_goals
      intro object membership
      obtain rfl := List.mem_singleton.mp membership
      rfl
  exact ⟨by decide +kernel, failures_transparent {} reachable_dated lasting "a" _ _ _⟩

end NfsStorage

import Mathlib.Algebra.Group.Nat.Defs
import Mathlib.Data.List.Induction
import NfsStorage.Controller.Agenda
import NfsStorage.Proofs.Program.Endings

/-!
# Delays after failures

A controller counts the failures of every name, and forgets them when a pass over the name succeeds
or finds that the declaration is gone. So the delay after a failure tells how many failures in a row
there were, of that name and of no other, in whatever order passes end and failures are counted.
-/

namespace NfsStorage

section Delay

variable {attempt later cap : Nat}

theorem backoffDelay_le_cap (attempt cap : Nat) : backoffDelay attempt cap ≤ cap :=
  Nat.min_le_right _ _

theorem backoffDelay_mono (more : attempt ≤ later) (cap : Nat) :
    backoffDelay attempt cap ≤ backoffDelay later cap := by
  have exponents : min (attempt - 1) 16 ≤ min (later - 1) 16 := by omega
  have powers : 2 ^ min (attempt - 1) 16 ≤ 2 ^ min (later - 1) 16 :=
    Nat.pow_le_pow_right (by decide) exponents
  rw [backoffDelay, backoffDelay, Nat.shiftLeft_eq, Nat.shiftLeft_eq]
  omega

/-- Up to a cap of as many seconds the bound on the exponent makes no difference. -/
theorem backoffDelay_eq_min_pow (small : cap ≤ 2 ^ 16 * 1000) (attempt : Nat) :
    backoffDelay attempt cap = min cap (2 ^ (attempt - 1) * 1000) := by
  rw [backoffDelay, Nat.shiftLeft_eq]
  rcases Nat.le_total (attempt - 1) 16 with early | late
  · rw [Nat.min_eq_left early, Nat.mul_comm, Nat.min_comm]
  · have reached : 2 ^ 16 ≤ 2 ^ (attempt - 1) := Nat.pow_le_pow_right (by decide) late
    rw [Nat.min_eq_right late]
    omega

end Delay

namespace DeclarationPass

/-- How a pass ends: its declaration could not be read, or is gone, or the pass did its work, with or
without an error, and then wrote the status as far as there was one to write. -/
inductive Ending where
  | unread (cause : StoreError)
  | gone
  | worked (result : Except Error Outcome) (written : Except Error Unit)

namespace Ending

def result (op : Operator) (name : String) : Ending → Except Error Next
  | unread cause => .error (.getDeclaration name cause)
  | gone => .ok .awaitChange
  | worked result written => joinResults op result written

/-- The declaration is gone, or the pass did its work and the status was not left unwritten. -/
def succeeds : Ending → Bool
  | gone | worked (.ok _) (.ok ()) => true
  | unread _ | worked (.ok _) (.error _) | worked (.error _) _ => false

theorem succeeds_iff (op : Operator) (name : String) {ending : Ending} :
    ending.succeeds = true ↔ ∃ next, ending.result op name = .ok next := by
  cases ending with
  | unread cause => exact ⟨nofun, fun ⟨_, same⟩ => nomatch same⟩
  | gone => exact ⟨fun _ => ⟨_, rfl⟩, fun _ => rfl⟩
  | worked result written =>
      rcases result with e | outcome <;> rcases written with status | ⟨⟩
      · exact ⟨nofun, fun ⟨_, same⟩ => nomatch same⟩
      · exact ⟨nofun, fun ⟨_, same⟩ => nomatch same⟩
      · exact ⟨nofun, fun ⟨_, same⟩ => nomatch same⟩
      · exact ⟨fun _ => ⟨_, rfl⟩, fun _ => rfl⟩

end Ending

theorem exists_written_of_mayEnd {op : Operator} {d : Declaration} {result : Except Error Next}
    (ends : (reconcileFound op d).MayEnd result) :
    ∃ worked written, result = joinResults op worked written := by
  obtain ⟨worked, -, rest⟩ := exists_of_mayEnd_bind ends
  cases called : statusAfter worked with
  | none =>
      rw [called] at rest
      cases rest
      exact ⟨worked, .ok (), rfl⟩
  | some status =>
      rw [called] at rest
      obtain ⟨written, -, rest⟩ := exists_of_mayEnd_bind rest
      cases rest
      exact ⟨worked, written, rfl⟩

/-- Whatever the answers to its requests are, a pass ends in one of these ways. -/
theorem exists_ending_of_mayEnd {op : Operator} {name : String} {result : Except Error Next}
    (ends : (reconcile op name).run.MayEnd result) :
    ∃ ending : Ending, ending.result op name = result := by
  obtain ⟨read, asked, rest⟩ := exists_of_mayEnd_bind ends
  obtain ⟨answer, rfl⟩ := exists_answer_of_mayEnd asked
  rcases answer with cause | _ | d
  · cases rest
    exact ⟨.unread cause, rfl⟩
  · cases rest
    exact ⟨.gone, rfl⟩
  · obtain ⟨worked, written, rfl⟩ := exists_written_of_mayEnd rest
    exact ⟨.worked worked written, rfl⟩

/-- What has to do with the count of failures: a pass over a name ends, or a failure of the name is
counted, to know how long to wait. -/
inductive Event where
  | passed (name : String) (ending : Ending)
  | failed (name : String)

namespace Event

def name : Event → String
  | passed name _ | failed name => name

/-- A pass over the name succeeds. -/
def clears (name : String) : Event → Bool
  | passed other ending => other = name && ending.succeeds
  | failed _ => false

def counts (name : String) : Event → Bool
  | passed .. => false
  | failed other => other = name

end Event

def failuresAfterEvent (op : Operator) (failures : Failures) : Event → Failures
  | .passed name ending => failures.afterPass name (ending.result op name)
  | .failed name => (failures.record name op.requeueInterval).2

/-- The failures that a controller has counted after a history, from its start. -/
def failuresAfter (op : Operator) (history : List Event) : Failures :=
  history.foldl (failuresAfterEvent op) ∅

/-- The delay that the next failure of a name is answered with. -/
def delayAfter (op : Operator) (name : String) (history : List Event) : Nat :=
  ((failuresAfter op history).record name op.requeueInterval).1

/-- The failures of a name since a pass over it last succeeded. -/
def failuresInRow (name : String) (history : List Event) : Nat :=
  (history.reverse.takeWhile (!·.clears name)).countP (·.counts name)

section History

variable {op : Operator} {name : String} {event : Event} {history : List Event}

theorem failuresAfter_concat :
    failuresAfter op (history ++ [event]) = failuresAfterEvent op (failuresAfter op history) event := by
  rw [failuresAfter, List.foldl_append]
  rfl

theorem failuresInRow_concat : failuresInRow name (history ++ [event]) =
    if event.clears name then 0
    else if event.counts name then failuresInRow name history + 1
    else failuresInRow name history := by
  rw [failuresInRow, List.reverse_append, List.reverse_singleton, List.singleton_append,
    List.takeWhile_cons]
  cases event.clears name with
  | true => rfl
  | false =>
      rw [Bool.not_false, if_pos rfl, List.countP_cons]
      cases event.counts name <;> rfl

theorem not_clears_of_ne (other : event.name ≠ name) : event.clears name = false := by
  cases event with
  | passed n ending => exact Bool.and_eq_false_imp.mpr fun same => absurd (of_decide_eq_true same) other
  | failed n => rfl

theorem not_counts_of_ne (other : event.name ≠ name) : event.counts name = false := by
  cases event with
  | passed n ending => rfl
  | failed n => exact decide_eq_false other

theorem count_failuresAfterEvent (failures : Failures) :
    (failuresAfterEvent op failures event).count name =
      if event.clears name then 0
      else if event.counts name then failures.count name + 1
      else failures.count name := by
  cases event with
  | passed n ending =>
      cases came : ending.result op n with
      | ok next =>
          have succeeds : ending.succeeds = true := (Ending.succeeds_iff op n).mpr ⟨next, came⟩
          rw [failuresAfterEvent, came, Failures.afterPass, Failures.forget, Failures.count,
            Dict.get?_erase, Event.clears, succeeds, Bool.and_true]
          by_cases here : name = n
          · simp [here]
          · simp [here, Ne.symm here, Event.counts, Failures.count]
      | error e =>
          have fails : ending.succeeds = false := by
            refine Bool.eq_false_iff.mpr fun succeeds => ?_
            obtain ⟨next, same⟩ := (Ending.succeeds_iff op n).mp succeeds
            exact nomatch came.symm.trans same
          rw [failuresAfterEvent, came, Event.clears, fails, Bool.and_false]
          rfl
  | failed n =>
      rw [failuresAfterEvent, Failures.record, Failures.count, Dict.get?_insert]
      by_cases here : name = n
      · simp [here, Event.clears, Event.counts]
      · simp [here, Ne.symm here, Event.clears, Event.counts, Failures.count]

/-- After a whole history, the count of a name is the number of its failures in a row. -/
theorem count_failuresAfter (op : Operator) (name : String) (history : List Event) :
    (failuresAfter op history).count name = failuresInRow name history := by
  induction history using List.reverseRecOn with
  | nil => rfl
  | append_singleton earlier event inductionHypothesis =>
      rw [failuresAfter_concat, count_failuresAfterEvent, inductionHypothesis, failuresInRow_concat]

theorem failuresInRow_filter (name : String) (history : List Event) :
    failuresInRow name (history.filter (·.name = name)) = failuresInRow name history := by
  induction history using List.reverseRecOn with
  | nil => rfl
  | append_singleton earlier event inductionHypothesis =>
      rw [List.filter_append, failuresInRow_concat]
      by_cases here : event.name = name
      · rw [List.filter_cons_of_pos (by simpa using here), List.filter_nil, failuresInRow_concat,
          inductionHypothesis]
      · rw [List.filter_cons_of_neg (by simpa using here), List.filter_nil, List.append_nil,
          inductionHypothesis, not_clears_of_ne here, not_counts_of_ne here]
        rfl

theorem delayAfter_eq (op : Operator) (name : String) (history : List Event) :
    delayAfter op name history =
      backoffDelay (failuresInRow name history + 1) op.requeueInterval := by
  rw [← count_failuresAfter op]
  rfl

end History

/-- When the controller comes to a name, it makes a pass, and counts the failure if that fails. -/
theorem exists_events_of_visit (op : Operator) (history : List Event) (route : Route)
    (name : String) (k : Cluster) :
    let visited := visit op route name (k, failuresAfter op history)
    ∃ ending : Ending, ending.result op name = ((reconcile op name).run.run route k).1 ∧
      visited.2.2 = failuresAfter op
        (history ++ .passed name ending :: if ending.succeeds then [] else [.failed name]) ∧
      (ending.succeeds = false → visited.1 = some (delayAfter op name history)) := by
  intro visited
  have ends : (reconcile op name).run.MayEnd ((reconcile op name).run.run route k).1 :=
    mayEnd_run _ k
  obtain ⟨ending, same⟩ := exists_ending_of_mayEnd ends
  refine ⟨ending, same, ?_⟩
  have known : ending.succeeds = true ↔ ∃ next, ending.result op name = .ok next :=
    Ending.succeeds_iff op name
  rw [same] at known
  rw [List.append_cons, failuresAfter, List.foldl_append, ← failuresAfter, failuresAfter_concat,
    failuresAfterEvent, same]
  simp only [visited, visit]
  generalize (reconcile op name).run.run route k = ended at known ⊢
  obtain ⟨result, l⟩ := ended
  cases result with
  | ok next =>
      have succeeds : ending.succeeds = true := known.mpr ⟨next, rfl⟩
      rw [succeeds]
      exact ⟨rfl, nofun⟩
  | error e =>
      have fails : ending.succeeds = false :=
        Bool.eq_false_iff.mpr fun succeeds => nomatch known.mp succeeds
      rw [fails]
      exact ⟨rfl, fun _ => rfl⟩

/-- In whatever order passes over any names end and their failures are counted, the delay at a
failure goes by how many failures of the name there were since a pass over it last succeeded: it
never exceeds the requeue interval, never falls with their number, and doubles from one second up to
the interval, if that is no more than 2 ^ 16 seconds. What happens to other names does not matter to
it, a pass that returns an error changes no count, and there are no other ways for a pass to end.
Whatever the history, the controller goes on with it when it comes to a name, and waits for this
delay after a pass that fails. -/
theorem backoff_per_name (op : Operator) (name : String) (history : List Event) :
    let attempt := failuresInRow name history + 1
    let delay := delayAfter op name history
    delay ≤ op.requeueInterval ∧
    (∀ other, failuresInRow name other + 1 ≤ attempt → delayAfter op name other ≤ delay) ∧
    (op.requeueInterval ≤ 2 ^ 16 * 1000 →
      delay = min op.requeueInterval (2 ^ (attempt - 1) * 1000)) ∧
    (∀ other : List Event, other.filter (·.name = name) = history.filter (·.name = name) →
      delayAfter op name other = delay) ∧
    (∀ n (ending : Ending) e, ending.result op n = .error e →
      failuresAfter op (history ++ [.passed n ending]) = failuresAfter op history) ∧
    (∀ n result, (reconcile op n).run.MayEnd result →
      ∃ ending : Ending, ending.result op n = result ∧
        (ending.succeeds = true ↔ ∃ next, result = .ok next)) ∧
    ∀ route n k, let visited := visit op route n (k, failuresAfter op history)
      ∃ ending : Ending, ending.result op n = ((reconcile op n).run.run route k).1 ∧
        visited.2.2 = failuresAfter op
          (history ++ .passed n ending :: if ending.succeeds then [] else [.failed n]) ∧
        (ending.succeeds = false → visited.1 = some (delayAfter op n history)) := by
  intro attempt delay
  have delay_eq : delay = backoffDelay attempt op.requeueInterval := delayAfter_eq op name history
  refine ⟨?_, fun other fewer => ?_, fun small => ?_, fun other same => ?_,
    fun n ending e failed => ?_, fun n result ends => ?_, exists_events_of_visit op history⟩
  · rw [delay_eq]
    exact backoffDelay_le_cap _ _
  · rw [delay_eq, delayAfter_eq]
    exact backoffDelay_mono fewer _
  · rw [delay_eq]
    exact backoffDelay_eq_min_pow small attempt
  · rw [delay_eq, delayAfter_eq, ← failuresInRow_filter, same, failuresInRow_filter]
  · rw [failuresAfter_concat, failuresAfterEvent, failed]
    rfl
  · obtain ⟨ending, rfl⟩ := exists_ending_of_mayEnd ends
    exact ⟨ending, rfl, Ending.succeeds_iff op n⟩

/-- The third failure of a name, with a failure and a pass of another name in between, and a pass
that fails because its status cannot be written. -/
theorem backoff_per_name_third :
    let unwritten : Ending :=
      .worked (.ok .created) (.error (.updateStatus "a" .undecodable))
    let history : List Event := [.passed "a" (.unread .undecodable), .failed "a", .failed "b",
      .passed "b" .gone, .passed "a" unwritten, .failed "a", .passed "a" unwritten]
    delayAfter {} "a" history = 4000 ∧ delayAfter {} "a" [] ≤ 4000 ∧
      delayAfter {} "a" (history.filter (·.name = "a")) = 4000 ∧
      ∃ ending : Ending, ending.result {} "a" = ((reconcile {} "a").run.run .direct {}).1 := by
  intro unwritten history
  obtain ⟨-, rises, doubles, alone, -, endings, -⟩ := backoff_per_name {} "a" history
  have row : failuresInRow "a" history = 2 := rfl
  have third : delayAfter {} "a" history = 4000 := by
    rw [doubles (by decide), row]
    rfl
  obtain ⟨ending, same, -⟩ := endings "a" _ (mayEnd_run (reconcile {} "a").run {})
  refine ⟨third, third ▸ rises [] (by decide), third ▸ alone _ ?_, ending, same⟩
  rw [List.filter_filter]
  simp

end DeclarationPass

end NfsStorage

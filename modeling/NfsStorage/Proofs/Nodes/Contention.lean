import NfsStorage.Proofs.Nodes.Closure
import NfsStorage.Proofs.Program.Recorded

/-!
# Labels that are set among other writers

Others may write a node at any time: before an attempt to set its label looks at it, and between the
look and the write. An attempt writes the node only as long as nobody else has written it since the
look, and otherwise meets a conflict. After a conflict the next attempt looks anew.
-/

namespace NfsStorage

namespace Cluster

variable {k l : Cluster}

theorem NodesNamed.served (named : k.NodesNamed) (r : Request) : (k.serve r).2.NodesNamed := by
  intro name node found
  rcases (k.served r).store_cases .nodes with same | ⟨verb, target, object, put⟩
  · rw [object?, same] at found
    exact named name node found
  · rw [object?, put] at found
    by_cases here : name = target
    · subst here
      rw [Store.get?_put_self] at found
      split at found
      next => cases found
      next =>
        obtain rfl := Option.some.inj found
        rfl
    · rw [Store.get?_put_of_ne _ _ _ here] at found
      exact named name node found

theorem LeadsTo.nodesNamed (leads : k.LeadsTo l) (named : k.NodesNamed) : l.NodesNamed := by
  induction leads with
  | refl => exact named
  | served r _ inductionHypothesis => exact inductionHypothesis.served r
  | refusing c refused _ inductionHypothesis =>
      intro name node found
      rw [object?_withRefusals] at found
      exact inductionHypothesis name node found
  | ticked valid _ inductionHypothesis => exact inductionHypothesis

end Cluster

open Program (Call)

/-- The result is that of an update that has met a conflict. -/
def Conflicts {α : Type} (result : Except StoreError α) : Prop :=
  ∃ e, result = .error e ∧ e.isConflict = true

section Retries

variable {α : Type}

/-- An update is made in trials, of which there may be so many at most. All but the last have met
conflicts. The result is that of the last, and it is a conflict only if no trial is left. -/
structure Retried (attempted : List Call → Except StoreError α → Prop) (most : Nat)
    (trials : List (List Call × Except StoreError α)) (result : Except StoreError α) : Prop where
  each : ∀ trial ∈ trials, attempted trial.1 trial.2
  conflicts : ∃ earlier last, trials = earlier ++ [(last, result)] ∧
    ∀ trial ∈ earlier, Conflicts trial.2
  few : trials.length ≤ most
  exhausted : Conflicts result → trials.length = most

variable {attempted : List Call → Except StoreError α → Prop} {most : Nat} {calls : List Call}
  {trials : List (List Call × Except StoreError α)} {result : Except StoreError α}

theorem Retried.single (tried : attempted calls result) (left : 0 < most)
    (stands : Conflicts result → most = 1) : Retried attempted most [(calls, result)] result where
  each := List.forall_mem_singleton.mpr tried
  conflicts := ⟨[], calls, rfl, nofun⟩
  few := left
  exhausted met := (stands met).symm

theorem Retried.cons {met : Except StoreError α} (tried : attempted calls met)
    (conflict : Conflicts met) (rest : Retried attempted most trials result) :
    Retried attempted (most + 1) ((calls, met) :: trials) result where
  each := List.forall_mem_cons.mpr ⟨tried, rest.each⟩
  conflicts := by
    obtain ⟨earlier, last, rfl, conflicts⟩ := rest.conflicts
    exact ⟨(calls, met) :: earlier, last, rfl, List.forall_mem_cons.mpr ⟨conflict, conflicts⟩⟩
  few := Nat.succ_le_succ rest.few
  exhausted met := congrArg Nat.succ (rest.exhausted met)

theorem Retried.imp {weaker : List Call → Except StoreError α → Prop}
    (retried : Retried attempted most trials result)
    (implied : ∀ calls result, attempted calls result → weaker calls result) :
    Retried weaker most trials result :=
  { retried with each := fun trial there => implied _ _ (retried.each trial there) }

/-- Attempts are made as long as they meet conflicts and as any are left. -/
theorem retried_of_recorded {attempt : Program (Except StoreError α)} {milliseconds more : Nat}
    {k m : Cluster} (runs : (retryUpTo (.sleep milliseconds (.done ())) StoreError.isConflict
      attempt more).Recorded k calls result m) :
    ∃ trials, calls = trials.flatMap Prod.fst ∧ Retried
      (fun tried met => ∃ l n, k.LeadsTo l ∧ attempt.Recorded l tried met n) (more + 1) trials
      result := by
  induction more generalizing k calls with
  | zero =>
      exact ⟨[(calls, result)], by simp,
        .single ⟨k, m, .refl, runs⟩ Nat.zero_lt_one fun _ => rfl⟩
  | succ more inductionHypothesis =>
      obtain ⟨met, l, first, rest, rfl, tried, runs⟩ := Program.recorded_bind runs
      -- What is no conflict is handed on.
      have stands (unmet : ¬ Conflicts met)
          (runs : (pure met : Program (Except StoreError α)).Recorded l rest result m) :
          ∃ trials, first ++ rest = trials.flatMap Prod.fst ∧ Retried
            (fun tried met => ∃ l n, k.LeadsTo l ∧ attempt.Recorded l tried met n)
            (more + 1 + 1) trials result := by
        obtain ⟨rfl, rfl, rfl⟩ := Program.recorded_pure runs
        exact ⟨[(first, result)], by simp,
          .single ⟨k, m, .refl, tried⟩ (Nat.succ_pos _) fun met => absurd met unmet⟩
      cases met with
      | ok answer => exact stands nofun runs
      | error e =>
          cases conflict : e.isConflict with
          | false =>
              simp only [conflict, Bool.false_eq_true, if_false] at runs
              refine stands ?_ runs
              rintro ⟨_, ⟨⟩, met⟩
              exact nomatch conflict.symm.trans met
          | true =>
              simp only [conflict, if_true] at runs
              cases runs with
              | sleep runs =>
                  obtain ⟨trials, rfl, retried⟩ := inductionHypothesis runs
                  refine ⟨(first, .error e) :: trials, rfl,
                    .cons ⟨k, l, .refl, tried⟩ ⟨e, rfl, conflict⟩ (retried.imp ?_)⟩
                  rintro _ _ ⟨l', n, leads, later⟩
                  exact ⟨l', n, tried.leadsTo.trans leads, later⟩

end Retries

namespace NodeTick

variable {name : String} {present : Bool}

/-- One attempt to set the label of a node. It ends with the look if that fails, or if there is no
node or its label is as wanted. Otherwise it ends with a write, which may fail. If it does not, then
it comes to the node that was seen, and sets nothing but the label and the version; a node that was
to go and that nothing holds is gone. -/
inductive Attempted (name : String) (present : Bool) :
    List Call → Except StoreError Unit → Prop where
  | unread {l : Cluster} {e : StoreError} (fails : (⟨.get .nodes name, l⟩ : Call).fault? = some e) :
      Attempted name present [⟨.get .nodes name, l⟩] (.error e)
  | settled {l : Cluster} (wanted : ∀ node : Node, l.object? .nodes name = some node →
        hasWantedLabel node present = true) :
      Attempted name present [⟨.get .nodes name, l⟩] (.ok ())
  | refused {l m : Cluster} {node : Node} {e : StoreError}
      (seen : l.object? .nodes name = some node) (unwanted : hasWantedLabel node present = false)
      (fails : (⟨.replace .nodes name (withLabel node present), m⟩ : Call).fault? = some e) :
      Attempted name present
        [⟨.get .nodes name, l⟩, ⟨.replace .nodes name (withLabel node present), m⟩] (.error e)
  | written {l m : Cluster} {node after : Node} (seen : l.object? .nodes name = some node)
      (unwanted : hasWantedLabel node present = false)
      (succeeds : (⟨.replace .nodes name (withLabel node present), m⟩ : Call).fault? = none)
      (current : m.object? .nodes name = some node) (kept : node.SameButLabel after)
      (wanted : hasWantedLabel after present = true)
      (stored : (⟨.replace .nodes name (withLabel node present), m⟩ : Call).after.object?
        .nodes name = if Store.isReleased node then none else some after) :
      Attempted name present
        [⟨.get .nodes name, l⟩, ⟨.replace .nodes name (withLabel node present), m⟩] (.ok ())

theorem hasWantedLabel_withLabel (node : Node) (present : Bool) (version : Nat) :
    hasWantedLabel (Store.withVersion (withLabel node present) version) present = true := by
  have label : (Store.withVersion (withLabel node present) version).metadata.label?
      Names.nodeLabel = if present then some "" else none :=
    (label?_withLabel node present _).trans (if_pos rfl)
  cases present <;> simp [hasWantedLabel, label]

theorem attempted_of_written {l m : Cluster} {node : Node} (reachable : l.Reachable)
    (named : l.NodesNamed) (leads : l.LeadsTo m) (seen : l.object? .nodes name = some node)
    (unwanted : hasWantedLabel node present = false)
    (succeeds : (⟨.replace .nodes name (withLabel node present), m⟩ : Call).fault? = none) :
    Attempted name present
      [⟨.get .nodes name, l⟩, ⟨.replace .nodes name (withLabel node present), m⟩] (.ok ()) := by
  have current : m.object? .nodes name = some node := by
    refine Call.current_of_replaced (c := .nodes) reachable leads seen ?_ succeeds
    rfl
  refine .written seen unwanted succeeds current
    (sameButLabel_withLabel node present ((m.store .nodes).version + 1))
    (hasWantedLabel_withLabel node present _) ?_
  rcases Call.replace_cases m (c := .nodes) name (withLabel node present) with
    ⟨fails, -⟩ | ⟨-, old, found, made⟩
  · exact absurd succeeds fails
  · obtain rfl : node = old := Option.some.inj (current.symm.trans found)
    have stored := object?_write_withLabel m node name present
    rw [named.under_eq seen] at stored
    rw [made]
    exact stored

theorem attempted_of_recorded {k n : Cluster} {calls : List Call} {result : Except StoreError Unit}
    (reachable : k.Reachable) (named : k.NodesNamed)
    (runs : (labelOnce name present).Recorded k calls result n) :
    Attempted name present calls result := by
  obtain ⟨l, rest, leads, rfl, looked⟩ := Program.recorded_call_bind runs
  rcases l.serve_get .nodes name with ⟨got, -⟩ | ⟨-, e, got⟩
  · rw [got] at looked
    cases seen : l.object? .nodes name with
    | none =>
        rw [seen] at looked
        obtain ⟨rfl, rfl, -⟩ := Program.recorded_pure looked
        exact .settled fun node found => nomatch seen.symm.trans found
    | some node =>
        rw [seen] at looked
        cases wanted : hasWantedLabel node present with
        | true =>
            simp only [wanted, if_true] at looked
            obtain ⟨rfl, rfl, -⟩ := Program.recorded_pure looked
            refine .settled fun other found => ?_
            obtain rfl := Option.some.inj (seen.symm.trans found)
            exact wanted
        | false =>
            simp only [wanted, Bool.false_eq_true, if_false] at looked
            obtain ⟨m, rest, others, rfl, wrote⟩ := Program.recorded_call_bind looked
            obtain ⟨rfl, rfl, -⟩ := Program.recorded_pure wrote
            cases answered : (m.serve (.replace .nodes name (withLabel node present))).1 with
            | error e => exact .refused seen wanted (Call.fault?_eq_some_iff.mpr answered)
            | ok after =>
                exact attempted_of_written (leads.reachable reachable) (leads.nodesNamed named)
                  others seen wanted (Call.fault?_eq_none_iff.mpr ⟨after, answered⟩)
  · rw [got] at looked
    obtain ⟨rfl, rfl, -⟩ := Program.recorded_pure looked
    exact .unread (Call.fault?_eq_some_iff.mpr (congrArg Prod.fst got))

/-- Among any writes of others, and however the server answers, setting the label of a node takes
at most five attempts. Another attempt is made only after a conflict, and the result is that of the
last. A write that goes through comes to the node as it was last written by anybody and changes
nothing else of it. A call that succeeds without a write has found no node or the label as
wanted. -/
theorem setLabel_contended {k m : Cluster} {calls : List Call} {result : Except StoreError Unit}
    (reachable : k.Reachable)
    (named : ∀ name (node : Node), k.object? .nodes name = some node → node.metadata.name ≠ none)
    (runs : (setLabel name present).Recorded k calls result m) :
    (∃ trials, calls = trials.flatMap Prod.fst ∧ Retried (Attempted name present) 5 trials result) ∧
      (result = .ok () → (∀ call ∈ calls, call.request.writes? ≠ none → call.fault? ≠ none) →
        ∃ earlier l, calls = earlier ++ [⟨.get .nodes name, l⟩] ∧ ∀ node : Node,
          l.object? .nodes name = some node → hasWantedLabel node present = true) := by
  have named := Cluster.nodesNamed_of_ne_none (reachable.versioned .nodes) named
  obtain ⟨trials, rfl, retried⟩ := retried_of_recorded runs
  have retried : Retried (Attempted name present) 5 trials result := by
    refine retried.imp ?_
    rintro calls result ⟨l, n, leads, tried⟩
    exact attempted_of_recorded (leads.reachable reachable) (leads.nodesNamed named) tried
  refine ⟨⟨trials, rfl, retried⟩, ?_⟩
  rintro rfl unwritten
  obtain ⟨earlier, last, rfl, -⟩ := retried.conflicts
  have ended : Attempted name present last (.ok ()) :=
    retried.each _ (List.mem_append_right _ (List.mem_singleton_self _))
  rw [List.flatMap_append] at unwritten ⊢
  cases ended with
  | @settled l wanted => exact ⟨_, l, rfl, wanted⟩
  | written _ _ succeeds => exact absurd succeeds (unwritten _ (by simp) nofun)

def bare : Cluster :=
  Cluster.setStore {} .nodes (Store.ofList [{ metadata := { name := some "n" } }])

/-- The label is set while somebody else gives the node another one, between the look and the
write of the first attempt. -/
def joint : List Call × Except StoreError Unit × Cluster :=
  (setLabel "n" true).interrupted [[], [.patch .nodes "n" (.object [("metadata",
    .object [("labels", .object [("zone", .string "a")])])])]] bare

/-- The first attempt meets a conflict and the second writes both labels. -/
theorem setLabel_contended_joint :
    joint.2.1.toOption = some () ∧
      joint.1.map Call.fault? = [none, some (.api (.modified "n")), none, none] ∧
      (joint.2.2.object? .nodes "n").bind (·.metadata.labels) =
        some (Dict.ofList [("zone", "a"), (Names.nodeLabel, "")]) ∧
      ∃ trials, joint.1 = trials.flatMap Prod.fst ∧
        Retried (Attempted "n" true) 5 trials joint.2.1 := by
  have reachable : bare.Reachable := .filledAlive .nodes rfl .empty
  have named : ∀ name (node : Node), bare.object? .nodes name = some node →
      node.metadata.name ≠ none := by
    intro name node found
    obtain ⟨given, membership, version, rfl, -⟩ := Store.exists_mem_of_get?_ofList found
    obtain rfl := List.mem_singleton.mp membership
    exact nofun
  have runs : (setLabel "n" true).Recorded bare joint.1 joint.2.1 joint.2.2 :=
    Program.recorded_interrupted (setLabel "n" true) _ bare
  exact ⟨by decide +kernel, by decide +kernel, by decide +kernel,
    (setLabel_contended reachable named runs).1⟩

end NodeTick

end NfsStorage

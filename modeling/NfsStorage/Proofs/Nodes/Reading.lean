import NfsStorage.Proofs.Nodes.Progress

/-!
# Ticks with a call that fails

Any call of a tick may fail. While the tick reads, it ends there and nothing is written; only where
listing the snapshots is answered with 404 it goes on, with no snapshots. Later on it carries out
the beginning of the plan that it has made from what it read.
-/

namespace NfsStorage

open NodePlan (Plan)
open Pass (Succeeds)

theorem Cluster.ServesTicks.of_refused {k l : Cluster} (serves : k.ServesTicks)
    (refused : ∀ c, c ≠ .snapshots → l.refused c = k.refused c)
    (snapshots : ∀ e, (l.serve (.list .snapshots)).1 = .error e → e.isNotFound = true) :
    l.ServesTicks := by
  have still : ∀ {c verb}, k.refused c verb = none → c ≠ .snapshots → l.refused c verb = none :=
    fun serves elsewhere => (congrFun (refused _ elsewhere) _).trans serves
  obtain ⟨⟨lease, declarations, nodes, pods, claims, -⟩, gets, replaces, deletes⟩ := serves
  exact ⟨⟨still lease nofun, still declarations nofun, still nodes nofun, still pods nofun,
    still claims nofun, snapshots⟩, still gets nofun, still replaces nofun, still deletes nofun⟩

namespace NodeTick

variable {e : StoreError} {calls : Nat} {k : Cluster}

/-- The calls by which a tick reads the cluster. -/
def readings : Nat := 6

/-- The call that lists the snapshots is to fail, as if the server did not know of any. -/
def LosesSnapshots (e : StoreError) (calls : Nat) : Prop := calls = 0 ∧ e.isNotFound = true

instance : Decidable (LosesSnapshots e calls) := inferInstanceAs (Decidable (_ ∧ _))

/-- What a tick goes by: where the server does not know of snapshots, there are none. -/
def seen (e : StoreError) (calls : Nat) (k : Cluster) : Cluster :=
  if LosesSnapshots e calls then k.setStore .snapshots {} else k

theorem store_seen {c : Collection} (elsewhere : c ≠ .snapshots) :
    (seen e calls k).store c = k.store c := by
  unfold seen
  split
  next => exact Cluster.store_setStore_of_ne _ _ elsewhere
  next => rfl

theorem object?_seen {c : Collection} (elsewhere : c ≠ .snapshots) (name : String) :
    (seen e calls k).object? c name = k.object? c name := by
  rw [Cluster.object?, store_seen elsewhere]
  rfl

theorem refused_seen {c : Collection} (elsewhere : c ≠ .snapshots) :
    (seen e calls k).refused c = k.refused c := Cluster.refused_congr (store_seen elsewhere)

theorem observation_seen : (seen e calls k).observation =
    { k.observation with snapshots := (seen e calls k).observation.snapshots } := by
  have lease : (seen e calls k).object? .leases snapshotterLease =
      k.object? .leases snapshotterLease := object?_seen (by decide) _
  have declarations : (seen e calls k).store .declarations = k.store .declarations :=
    store_seen (by decide)
  have nodes : (seen e calls k).store .nodes = k.store .nodes :=
    store_seen (by decide)
  have pods : (seen e calls k).store .pods = k.store .pods :=
    store_seen (by decide)
  have claims : (seen e calls k).store .claims = k.store .claims :=
    store_seen (by decide)
  simp only [Cluster.observation, lease, declarations, nodes, pods, claims]

theorem servesTicks_seen (serves : k.ServesTicks) : (seen e calls k).ServesTicks := by
  refine serves.of_refused (fun c elsewhere => refused_seen elsewhere) ?_
  unfold seen
  split
  next => exact nofun
  next => exact serves.snapshots

theorem falter_listSnapshots (e : StoreError) (calls : Nat) (k : Cluster) :
    (∃ cause left, (ExceptT.run listSnapshots).falter e (some calls) k =
        (.error cause, left, k)) ∨
      ∃ left, (LosesSnapshots e calls ∧ left = none ∨ ∃ more, calls = more + 1 ∧ left = some more) ∧
        (∀ e', ((seen e calls k).serve (.list .snapshots)).1 = .error e' → e'.isNotFound = true) ∧
        (ExceptT.run listSnapshots).falter e (some calls) k =
          (.ok (seen e calls k).observation.snapshots, left, k) := by
  cases calls with
  | zero =>
      have failed : (ExceptT.run listSnapshots).falter e (some 0) k =
          (if e.isNotFound then .ok [] else .error (.listSnapshots e), none, k) := rfl
      rw [failed]
      cases absent : e.isNotFound with
      | false => exact Or.inl ⟨_, _, rfl⟩
      | true =>
          have lost : seen e 0 k = k.setStore .snapshots {} := if_pos ⟨rfl, absent⟩
          refine Or.inr ⟨none, Or.inl ⟨⟨rfl, absent⟩, rfl⟩, fun e' refused => ?_, ?_⟩
          · rw [lost] at refused
            cases refused
          · rw [lost]
            rfl
  | succ more =>
      have kept : seen e (more + 1) k = k := if_neg fun lost => nomatch lost.1
      have served : (ExceptT.run listSnapshots).falter e (some (more + 1)) k =
          (((ExceptT.run listSnapshots).run .direct k).1, some more, k) := by
        change (Program.call (.list .snapshots) >>= _).falter e (some (more + 1)) k =
          (((Program.call (.list .snapshots) >>= _).run .direct k).1, some more, k)
        rw [Program.falter_call_bind, Program.run_call_bind]
        cases (k.serve (.list .snapshots)).1 <;> rfl
      rw [served, kept]
      generalize ran : (ExceptT.run listSnapshots).run .direct k = ended
      obtain ⟨result, l⟩ := ended
      cases result with
      | ok snapshots =>
          obtain ⟨known, rfl, -⟩ := succeeds_listSnapshots.mp ran
          exact Or.inr ⟨some more, Or.inr ⟨more, rfl, rfl⟩, known, rfl⟩
      | error cause => exact Or.inl ⟨cause, some more, rfl⟩

/-- A tick fails to read the cluster, or what it goes by is known in full. -/
theorem falter_observe (e : StoreError) (calls : Nat) (k : Cluster) :
    (∃ cause left, (ExceptT.run observe).falter e (some calls) k = (.error cause, left, k)) ∨
      ∃ left, (ExceptT.run observe).falter e (some calls) k =
          (.ok (seen e calls k).observation, left, k) ∧ (seen e calls k).Observable ∧
        (LosesSnapshots e calls ∧ left = none ∨
          ∃ more, calls = more + readings ∧ left = some more) := by
  unfold observe
  rcases falter_listSnapshots e calls k with ⟨_, _, failed⟩ | ⟨left, counts, known, read⟩
  · exact Or.inl ⟨_, _, Pass.falter_bind_of_error failed⟩
  rw [Pass.falter_bind_of_ok read]
  rcases Pass.falter_read_bind (r := .get .leases snapshotterLease) rfl _ _ e left k with
    failed | ⟨lease, left, rfl, got, goesOn⟩
  · exact Or.inl failed
  rw [goesOn]
  rcases Pass.falter_read_bind (r := .list .declarations) rfl _ _ e left k with
    failed | ⟨declarations, left, rfl, listedDeclarations, goesOn⟩
  · exact Or.inl failed
  rw [goesOn]
  rcases Pass.falter_read_bind (r := .list .nodes) rfl _ _ e left k with
    failed | ⟨nodes, left, rfl, listedNodes, goesOn⟩
  · exact Or.inl failed
  rw [goesOn]
  rcases Pass.falter_read_bind (r := .list .pods) rfl _ _ e left k with
    failed | ⟨pods, left, rfl, listedPods, goesOn⟩
  · exact Or.inl failed
  rw [goesOn]
  rcases Pass.falter_read_bind (r := .list .claims) rfl _ _ e left k with
    failed | ⟨claims, left, rfl, listedClaims, goesOn⟩
  · exact Or.inl failed
  rw [goesOn]
  obtain ⟨lease, rfl, -⟩ := Cluster.serve_get_eq_ok_iff.mp got
  obtain ⟨declarations, rfl, -⟩ := Cluster.serve_list_eq_ok_iff.mp listedDeclarations
  obtain ⟨nodes, rfl, -⟩ := Cluster.serve_list_eq_ok_iff.mp listedNodes
  obtain ⟨pods, rfl, -⟩ := Cluster.serve_list_eq_ok_iff.mp listedPods
  obtain ⟨claims, rfl, -⟩ := Cluster.serve_list_eq_ok_iff.mp listedClaims
  refine Or.inr ⟨left, ?_, ?_, ?_⟩
  · rw [observation_seen]
    rfl
  · have reads : ∀ {c verb}, k.refused c verb = none → c ≠ .snapshots →
        (seen e calls k).refused c verb = none :=
      fun serves elsewhere => (congrFun (refused_seen elsewhere) _).trans serves
    exact ⟨reads lease nofun, reads declarations nofun, reads nodes nofun, reads pods nofun,
      reads claims nofun, known⟩
  · rcases counts with ⟨lost, ended⟩ | ⟨more, rfl, counted⟩
    · cases left with
      | none => exact Or.inl ⟨lost, rfl⟩
      | some left => exact nomatch ended
    · cases left with
      | none => exact nomatch counted
      | some left => exact Or.inr ⟨left, by rw [← Option.some.inj counted]; rfl, rfl⟩

theorem falter_observe_of_losesSnapshots (lost : LosesSnapshots e calls)
    (observable : k.Observable) : (ExceptT.run observe).falter e (some calls) k =
      (.ok (seen e calls k).observation, none, k) := by
  obtain ⟨rfl, absent⟩ := lost
  have listed : (ExceptT.run listSnapshots).falter e (some 0) k =
      (if e.isNotFound then .ok [] else .error (.listSnapshots e), none, k) := rfl
  rw [absent, if_pos rfl] at listed
  have none : (seen e 0 k).observation.snapshots = [] := by
    rw [seen, if_pos ⟨rfl, absent⟩]
    rfl
  rw [observe, Pass.falter_bind_of_ok listed, observation_seen, none]
  apply Pass.Succeeds.falter
  refine Pass.succeeds_bind.mpr ⟨_, _, Pass.succeeds_get.mpr ⟨observable.lease, rfl, rfl⟩, ?_⟩
  refine Pass.succeeds_bind.mpr
    ⟨_, _, Pass.succeeds_list.mpr ⟨observable.declarations, rfl, rfl⟩, ?_⟩
  refine Pass.succeeds_bind.mpr ⟨_, _, Pass.succeeds_list.mpr ⟨observable.nodes, rfl, rfl⟩, ?_⟩
  refine Pass.succeeds_bind.mpr ⟨_, _, Pass.succeeds_list.mpr ⟨observable.pods, rfl, rfl⟩, ?_⟩
  refine Pass.succeeds_bind.mpr ⟨_, _, Pass.succeeds_list.mpr ⟨observable.claims, rfl, rfl⟩, ?_⟩
  exact Pass.succeeds_pure.mpr ⟨rfl, rfl⟩

/-- A tick that fails to read the cluster writes nothing. -/
theorem falter_tick_of_unread (op : Operator)
    (unread : calls < readings ∧ ¬ LosesSnapshots e calls ∨ ¬ (seen e calls k).Observable) :
    ∃ cause left, (ExceptT.run (tick op)).falter e (some calls) k = (.error cause, left, k) := by
  rcases falter_observe e calls k with ⟨cause, left, failed⟩ | ⟨left, -, observable, counts⟩
  · exact ⟨cause, left, Pass.falter_bind_of_error failed⟩
  · rcases unread with ⟨early, known⟩ | refused
    · rcases counts with ⟨lost, -⟩ | ⟨more, rfl, -⟩
      · exact absurd lost known
      · exact absurd early (Nat.not_lt.mpr (Nat.le_add_left ..))
    · exact absurd observable refused

/-- Whatever fails, a tick carries out the beginning of its plan. -/
theorem falter_tick (op : Operator) (e : StoreError) (calls : Nat) (k : Cluster) :
    ∃ part, Beginning ((seen e calls k).observation.plan op.namespace) part ∧
      ((ExceptT.run (tick op)).falter e (some calls) k).2.2 = carriedOut part k ∧
      (LosesSnapshots e calls → k.ServesTicks →
        part = (seen e calls k).observation.plan op.namespace) := by
  -- Only one call fails: a tick that has lost the snapshots is past it.
  by_cases whole : LosesSnapshots e calls ∧ k.ServesTicks
  · obtain ⟨lost, serves⟩ := whole
    refine ⟨_, .refl _, ?_, fun _ _ => rfl⟩
    rw [tick, Pass.falter_bind_of_ok (falter_observe_of_losesSnapshots lost serves.toObservable)]
    rw [(succeeds_carryOut_return serves _).falter e]
  · rw [not_and] at whole
    rcases falter_observe e calls k with ⟨cause, left, failed⟩ | ⟨left, observed, -⟩
    · refine ⟨{ toLabel := [], toUnlabel := [], kept := ∅, podsToDelete := [], skipped := [] },
        ?_, ?_, fun lost serves => absurd serves (whole lost)⟩
      · exact ⟨List.nil_prefix, List.nil_prefix, List.nil_prefix, fun filled => absurd rfl filled,
          fun filled => absurd rfl filled⟩
      · rw [tick, Pass.falter_bind_of_error failed]
        rfl
    · rw [tick, Pass.falter_bind_of_ok observed]
      dsimp only
      obtain ⟨part, begins, reached⟩ :=
        Program.Withstands.falter (withstands_carryOut_return _ k) e left
      exact ⟨part, begins, reached, fun lost serves => absurd serves (whole lost)⟩

end NodeTick

end NfsStorage

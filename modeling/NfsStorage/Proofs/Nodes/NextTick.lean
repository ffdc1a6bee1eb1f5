import NfsStorage.Proofs.Nodes.Closure
import NfsStorage.Proofs.Nodes.Selection
import NfsStorage.Proofs.Program.Upholds

/-!
# The labels of nodes come to rest

Unless a selector looks at the label of the module, the tick after one without errors finds no node
to write: what is selected does not depend on the label, and what keeps a node is not touched by the
deletion of pods elsewhere.
-/

namespace NfsStorage

open NodePlan (Plan Observation)
open Pass (Succeeds)

/-- The same cluster at some other time, when some of the pods that a tick was to delete are gone. -/
structure PodsGone (stray : Pod → Bool) (l l' : Cluster) : Prop where
  others : ∀ c, c ≠ .pods → l'.store c = l.store c
  fewer : ∀ name (pod : Pod), l'.object? .pods name = some pod → l.object? .pods name = some pod
  remaining : ∀ name (pod : Pod), l.object? .pods name = some pod → stray pod = false →
    l'.object? .pods name = some pod
  refused : l'.refused .pods = l.refused .pods

namespace NodePlan.Observation

variable {o : Observation} {«namespace» name : String}

theorem isStray_of_kept (kept : name ∈ (o.keptNodes «namespace»).keys) {pod : Pod}
    (bound : nodeOf? pod = some name) : o.isStray «namespace» pod = false := by
  rw [Dict.mem_keys_iff] at kept
  simp [isStray, bound, Dict.contains, kept]

/-- What keeps a node outlasts any change of the nodes and the deletion of stray pods. -/
theorem protection?_ne_none {nodes : List Node} {pods : List Pod}
    (kept : name ∈ (o.keptNodes «namespace»).keys)
    (remaining : ∀ pod ∈ o.pods, o.isStray «namespace» pod = false → pod ∈ pods) :
    { o with nodes, pods : Observation }.protection? «namespace» name ≠ none := by
  have stays : ∀ {pod}, pod ∈ o.pods → nodeOf? pod = some name → pod ∈ pods :=
    fun there bound => remaining _ there (isStray_of_kept kept bound)
  intro free
  refine (mem_keptNodes.mp kept).2 (protection?_eq_none_iff.mpr ?_)
  obtain ⟨noPods, noController, noSkipped⟩ := protection?_eq_none_iff.mp free
  refine ⟨fun pod there bound => noPods pod (stays there bound) bound, ?_, noSkipped⟩
  cases holds : o.holdsController «namespace» name with
  | false => rfl
  | true =>
      simp only [holdsController, Bool.and_eq_true, List.any_eq_true] at holds
      obtain ⟨⟨active, needed⟩, pod, there, ⟨bound, isController⟩⟩ := holds
      have holds : { o with nodes, pods : Observation }.holdsController «namespace» name = true := by
        simp only [holdsController, Bool.and_eq_true, List.any_eq_true]
        exact ⟨⟨active, needed⟩, pod, stays there (of_decide_eq_true bound), bound, isController⟩
      exact absurd holds (by simp [noController])

theorem isStray_of_isStray {nodes : List Node} {pods : List Pod} {pod : Pod}
    (selected : ∀ name ∈ o.selectedNames,
      name ∈ { o with nodes, pods : Observation }.selectedNames)
    (kept : ∀ name ∈ (o.keptNodes «namespace»).keys,
      name ∈ ({ o with nodes, pods : Observation }.keptNodes «namespace»).keys)
    (stray : { o with nodes, pods : Observation }.isStray «namespace» pod = true) :
    o.isStray «namespace» pod = true := by
  rw [isStray, Bool.and_eq_true, Bool.and_eq_true] at stray ⊢
  obtain ⟨⟨inNamespace, elsewhere⟩, removable⟩ := stray
  refine ⟨⟨inNamespace, ?_⟩, removable⟩
  cases bound : nodeOf? pod with
  | none => simp [bound] at elsewhere
  | some node =>
      simp only [Dict.mem_keys_iff] at kept
      simp only [bound, Dict.contains, Bool.not_eq_true', Bool.or_eq_false_iff,
        List.contains_eq_mem, decide_eq_false_iff_not] at elsewhere ⊢
      refine ⟨mt (selected node) elsewhere.1, Bool.eq_false_iff.mpr (mt (kept node) ?_)⟩
      exact Bool.eq_false_iff.mp elsewhere.2

end NodePlan.Observation

namespace Cluster

variable {k l : Cluster} {name : String}

/-- No valid selector of a declaration that stays looks at the label of the module. -/
def Indifferent (k : Cluster) : Prop :=
  ∀ n (d : Declaration), k.object? .declarations n = some d → d.isDeleting = false →
    (∃ conditions, d.nodeSelector.conditions = .ok conditions) →
    ¬ d.nodeSelector.Mentions Names.nodeLabel

theorem serve_list_congr {c : Collection} (same : l.store c = k.store c) :
    (l.serve (.list c)).1 = (k.serve (.list c)).1 := by
  simp only [serve, same]

theorem refused_congr {c : Collection} (same : l.store c = k.store c) :
    l.refused c = k.refused c := by
  simp only [refused, same]

/-- A tick observes but the nodes and the pods anew. -/
theorem observation_eq
    (same : ∀ c, c ≠ .nodes → c ≠ .modulePods → c ≠ .pods → l.store c = k.store c) :
    l.observation =
      { k.observation with nodes := l.observation.nodes, pods := l.observation.pods } := by
  have lease : l.object? .leases NodeTick.snapshotterLease =
      k.object? .leases NodeTick.snapshotterLease := by
    rw [object?, same .leases (by decide) (by decide) (by decide)]
    rfl
  have declarations := same .declarations (by decide) (by decide) (by decide)
  have claims := same .claims (by decide) (by decide) (by decide)
  have snapshots := serve_list_congr (same .snapshots (by decide) (by decide) (by decide))
  simp only [observation, lease, declarations, claims, snapshots]

/-- What is selected does not depend on the label of the module. -/
theorem Indifferent.selected_iff (indifferent : k.Indifferent)
    (declarations : l.store .declarations = k.store .declarations)
    (nodes : ∀ name (node : Node), k.object? .nodes name = some node →
      ∃ after, l.object? .nodes name = some after ∧ ∀ key, key ≠ Names.nodeLabel →
        after.metadata.label? key = node.metadata.label? key)
    (noOthers : ∀ name, k.object? .nodes name = none → l.object? .nodes name = none) :
    l.Selected name ↔ k.Selected name := by
  have declared : ∀ n, l.object? .declarations n = k.object? .declarations n := fun n => by
    rw [object?, declarations]
    rfl
  have selects : ∀ {n} {d : Declaration} {node after : Node},
      k.object? .declarations n = some d → d.isDeleting = false →
      (∀ key, key ≠ Names.nodeLabel →
        after.metadata.label? key = node.metadata.label? key) →
      (d.nodeSelector.selects after.metadata.labels = .ok true ↔
        d.nodeSelector.selects node.metadata.labels = .ok true) := by
    intro n d node after found staying same
    cases parsed : d.nodeSelector.conditions with
    | error e => simp [LabelSelector.selects, parsed, Except.map]
    | ok conditions =>
        rw [LabelSelector.selects_congr parsed (indifferent n d found staying ⟨_, parsed⟩)]
        intro target other
        rw [← Metadata.label?_eq, ← Metadata.label?_eq]
        exact same target other
  unfold Selected
  simp only [declared]
  constructor
  · rintro ⟨after, found, n, d, declaration, staying, selected⟩
    cases before : k.object? .nodes name with
    | none =>
        rw [noOthers name before] at found
        cases found
    | some node =>
        obtain ⟨after', found', same⟩ := nodes name node before
        obtain rfl := Option.some.inj (found.symm.trans found')
        exact ⟨node, rfl, n, d, declaration, staying, (selects declaration staying same).mp selected⟩
  · rintro ⟨node, found, n, d, declaration, staying, selected⟩
    obtain ⟨after, found', same⟩ := nodes name node found
    exact ⟨after, found', n, d, declaration, staying,
      (selects declaration staying same).mpr selected⟩

end Cluster

namespace PodsGone

variable {stray : Pod → Bool} {l l' : Cluster}

theorem refuses (gone : PodsGone stray l l') (c : Collection) : l'.refused c = l.refused c := by
  by_cases same : c = .pods
  · rw [same]
    exact gone.refused
  · exact Cluster.refused_congr (gone.others c same)

theorem mem_of_mem (gone : PodsGone stray l l') {pod : Pod} (there : pod ∈ l'.observation.pods) :
    pod ∈ l.observation.pods := by
  obtain ⟨name, there⟩ := Dict.mem_values_iff.mp there
  exact Dict.mem_values_iff.mpr ⟨name, gone.fewer name pod there⟩

theorem mem_of_not_stray (gone : PodsGone stray l l') {pod : Pod}
    (there : pod ∈ l.observation.pods) (stays : stray pod = false) : pod ∈ l'.observation.pods := by
  obtain ⟨name, there⟩ := Dict.mem_values_iff.mp there
  exact Dict.mem_values_iff.mpr ⟨name, gone.remaining name pod there stays⟩

end PodsGone

namespace NodeTick

variable {op : Operator} {k l l' : Cluster} {plan : Plan}

/-- A tick that plans no change of labels writes no node, and succeeds if it may delete pods. -/
theorem exists_succeeds_tick (observable : k.Observable)
    (noneToLabel : (k.observation.plan op.namespace).toLabel = [])
    (noneToUnlabel : (k.observation.plan op.namespace).toUnlabel = [])
    (serves : (k.observation.plan op.namespace).podsToDelete ≠ [] →
      k.refused .modulePods .delete = none) :
    ∃ m, Succeeds (tick op) k (k.observation.plan op.namespace) m ∧
      m.store .nodes = k.store .nodes := by
  obtain ⟨m, deleted⟩ := exists_succeeds_deletePods serves
  have carried : Succeeds (carryOut (k.observation.plan op.namespace)) k () m := by
    rw [carryOut, noneToLabel, noneToUnlabel]
    refine Pass.succeeds_bind.mpr ⟨(), k, Pass.succeeds_pure.mpr ⟨rfl, rfl⟩, ?_⟩
    exact Pass.succeeds_bind.mpr ⟨(), k, Pass.succeeds_pure.mpr ⟨rfl, rfl⟩, deleted⟩
  refine ⟨m, ?_, (succeeds_deletePods deleted).1 _ nofun⟩
  refine Pass.succeeds_bind.mpr ⟨_, k, succeeds_observe.mpr ⟨observable, rfl, rfl⟩, ?_⟩
  exact Pass.succeeds_bind.mpr ⟨(), m, carried, Pass.succeeds_pure.mpr ⟨rfl, rfl⟩⟩

/-- Some time after a tick the same nodes are selected, the label is where the tick left it, and what
kept a node still does. -/
structure Ensuing (op : Operator) (k l' : Cluster) (plan : Plan) : Prop where
  made : plan = k.observation.plan op.namespace
  before : (k.store .nodes).Versioned
  versioned : (l'.store .nodes).Versioned
  observed : l'.observation =
    { k.observation with nodes := l'.observation.nodes, pods := l'.observation.pods }
  selected : ∀ name, l'.Selected name ↔ k.Selected name
  labelled : ∀ name, l'.Labelled name ↔ k.Selected name ∨ name ∈ plan.kept.keys
  kept : ∀ name ∈ plan.kept.keys, l'.observation.protection? op.namespace name ≠ none

namespace Ensuing

variable (ensuing : Ensuing op k l' plan)
include ensuing

theorem toLabel : (l'.observation.plan op.namespace).toLabel = [] := by
  apply List.eq_nil_iff_forall_not_mem.mpr
  intro name member
  obtain ⟨isSelected, unlabelled⟩ := (Cluster.mem_toLabel ensuing.versioned).mp member
  exact unlabelled ((ensuing.labelled name).mpr (Or.inl ((ensuing.selected name).mp isSelected)))

theorem toUnlabel : (l'.observation.plan op.namespace).toUnlabel = [] := by
  apply List.eq_nil_iff_forall_not_mem.mpr
  intro name member
  obtain ⟨⟨isLabelled, unselected⟩, free⟩ := (Cluster.mem_toUnlabel ensuing.versioned).mp member
  rcases (ensuing.labelled name).mp isLabelled with isSelected | kept
  · exact unselected ((ensuing.selected name).mpr isSelected)
  · exact ensuing.kept name kept free

theorem isStray {pod : Pod} (stray : l'.observation.isStray op.namespace pod = true) :
    k.observation.isStray op.namespace pod = true := by
  rw [ensuing.observed] at stray
  refine Observation.isStray_of_isStray (fun name member => ?_) (fun name member => ?_) stray
  · rw [← ensuing.observed, Cluster.mem_selectedNames ensuing.versioned, ensuing.selected]
    exact (Cluster.mem_selectedNames ensuing.before).mp member
  · have kept : name ∈ plan.kept.keys := ensuing.made ▸ member
    have leftover := (Observation.mem_keptNodes.mp member).1
    have unselected := ((Cluster.mem_leftovers ensuing.before).mp leftover).2
    rw [← ensuing.observed, Observation.mem_keptNodes, Cluster.mem_leftovers ensuing.versioned,
      ensuing.labelled, ensuing.selected]
    exact ⟨⟨Or.inr kept, unselected⟩, ensuing.kept name kept⟩

theorem podsToDelete (fewer : ∀ pod ∈ l'.observation.pods, pod ∈ k.observation.pods)
    (deletes : (l'.observation.plan op.namespace).podsToDelete ≠ []) : plan.podsToDelete ≠ [] := by
  obtain ⟨pod, there⟩ := List.exists_mem_of_ne_nil _ (mt List.map_eq_nil_iff.mpr deletes)
  obtain ⟨there, stray⟩ := List.mem_filter.mp there
  rw [ensuing.made]
  intro none
  have there := List.mem_filter.mpr ⟨fewer pod there, ensuing.isStray stray⟩
  rw [List.map_eq_nil_iff.mp none] at there
  exact nomatch there

end Ensuing

theorem ensuing_of_closed (closed : LabelsClosed k l plan)
    (made : plan = k.observation.plan op.namespace) (indifferent : k.Indifferent)
    (before : (k.store .nodes).Versioned) (versioned : (l'.store .nodes).Versioned)
    (nodes : l'.store .nodes = l.store .nodes)
    (others : ∀ c, c ≠ .nodes → c ≠ .modulePods → c ≠ .pods → l'.store c = k.store c)
    (remaining : ∀ pod ∈ k.observation.pods,
      k.observation.isStray op.namespace pod = false → pod ∈ l'.observation.pods) :
    Ensuing op k l' plan := by
  have object : ∀ name, l'.object? .nodes name = l.object? .nodes name := fun name => by
    rw [Cluster.object?, nodes]
    rfl
  constructor
  · exact made
  · exact before
  · exact versioned
  · exact Cluster.observation_eq others
  · intro name
    have declarations := others .declarations (by decide) (by decide) (by decide)
    refine indifferent.selected_iff declarations (fun name node found => ?_)
      (fun name absent => (object name).trans (closed.noOthers name absent))
    obtain ⟨after, found', same, -⟩ := closed.nodes name node found
    exact ⟨after, (object name).trans found', same.labels⟩
  · exact fun name => (labelled_of_same (object name)).trans (closed.labelled name)
  · intro name kept
    rw [Cluster.observation_eq others]
    rw [made] at kept
    exact Observation.protection?_ne_none kept remaining

/-- A tick without errors leaves the label of the module where it belongs, and changes no node
otherwise. If no selector looks at the label, the tick after it has no node to write. -/
theorem node_labels_close (op : Operator) {k l : Cluster} {plan : Plan} (reachable : k.Reachable)
    (named : ∀ name (node : Node), k.object? .nodes name = some node → node.metadata.name ≠ none)
    (lasting : ∀ name (node : Node), k.object? .nodes name = some node →
      Store.isReleased node = false)
    (ticked : (tick op).run.run .direct k = (.ok plan, l)) :
    LabelsClosed k l plan ∧
      (k.Indifferent → ∀ l', PodsGone (k.observation.isStray op.namespace) l l' →
        ∃ plan' m, (tick op).run.run .direct l' = (.ok plan', m) ∧
          plan'.toLabel = [] ∧ plan'.toUnlabel = [] ∧ m.store .nodes = l'.store .nodes) := by
  have before := reachable.versioned .nodes
  obtain ⟨observable, made, m, relabelled, deleted⟩ :=
    succeeds_tick before lasting ticked
  obtain ⟨untouched, -, serves⟩ := succeeds_deletePods deleted
  have closed := relabelled.closed before (Cluster.nodesNamed_of_ne_none before named) made
    (untouched .nodes nofun)
  refine ⟨closed, fun indifferent l' gone => ?_⟩
  have others : ∀ c, c ≠ .nodes → c ≠ .modulePods → c ≠ .pods → l'.store c = k.store c :=
    fun c notNodes notModulePods notPods => (gone.others c notPods).trans
      ((untouched c notModulePods).trans (relabelled.others c notNodes))
  have pods : l.observation.pods = k.observation.pods :=
    congrArg (·.objects.values) ((untouched .pods nofun).trans (relabelled.others .pods nofun))
  have reached := Cluster.Reachable.run (tick op).run reachable
  have refused := Program.refused_run (tick op).run k
  rw [ticked] at reached refused
  have refuses : ∀ c, l'.refused c = k.refused c := fun c =>
    (gone.refuses c).trans (congrFun refused c)
  have versioned : (l'.store .nodes).Versioned := by
    rw [gone.others .nodes nofun]
    exact reached.versioned .nodes
  have ensuing : Ensuing op k l' plan :=
    ensuing_of_closed closed made indifferent before versioned (gone.others .nodes nofun) others
      fun pod there => gone.mem_of_not_stray (pods ▸ there)
  have fewer : ∀ pod ∈ l'.observation.pods, pod ∈ k.observation.pods :=
    fun pod there => pods ▸ gone.mem_of_mem there
  have reads : ∀ {c verb}, k.refused c verb = none → l'.refused c verb = none :=
    fun serves => by rwa [refuses]
  have observable' : l'.Observable := by
    refine ⟨reads observable.lease, reads observable.declarations, reads observable.nodes,
      reads observable.pods, reads observable.claims, ?_⟩
    rw [Cluster.serve_list_congr (others .snapshots nofun nofun nofun)]
    exact observable.snapshots
  obtain ⟨m', succeeds, nodes⟩ := exists_succeeds_tick observable' ensuing.toLabel ensuing.toUnlabel
    fun deletes => by
      rw [refuses, ← Cluster.refused_congr (relabelled.others .modulePods nofun)]
      exact serves (ensuing.podsToDelete fewer deletes)
  exact ⟨_, m', succeeds, ensuing.toLabel, ensuing.toUnlabel, nodes⟩

def moved : Cluster :=
  let declared := Cluster.setStore {} .declarations (Store.ofList [
    { metadata := { name := some "a" }
      spec :=
        { connection := { host := "host", share := "/share", nfsVersion := .v41 }
          reclaimPolicy := .delete
          volumeBindingMode := .immediate } }])
  declared.setStore .nodes (Store.ofList [
    { metadata :=
        { name := some "new", labels := some (Dict.ofList [("kubernetes.io/os", "linux")]) } },
    { metadata :=
        { name := some "old", labels := some (Dict.ofList [(Names.nodeLabel, "")]) } }])

theorem reachable_moved : moved.Reachable := by
  refine .filled .nodes _ ?_ (.filled .declarations _ ?_ .empty)
  all_goals
    intro object membership
    simp only [List.mem_cons, List.not_mem_nil, or_false] at membership
    rcases membership with rfl | rfl <;> exact nofun

theorem named_moved (name : String) (node : Node) (found : moved.object? .nodes name = some node) :
    node.metadata.name ≠ none ∧ Store.isReleased node = false := by
  obtain ⟨given, membership, version, rfl, -⟩ := Store.exists_mem_of_get?_ofList found
  simp only [List.mem_cons, List.not_mem_nil, or_false] at membership
  rcases membership with rfl | rfl <;> exact ⟨nofun, rfl⟩

theorem indifferent_moved : moved.Indifferent := by
  intro n d found _ _
  obtain ⟨given, membership, version, rfl, -⟩ := Store.exists_mem_of_get?_ofList found
  obtain rfl := List.mem_singleton.mp membership
  rintro (⟨value, single⟩ | ⟨r, expression, -⟩)
  · exact nomatch single
  · exact nomatch expression

/-- The label moves from the one node to the other, and stays there. -/
theorem node_labels_close_moved : ∃ plan l, (tick {}).run.run .direct moved = (.ok plan, l) ∧
    plan.toLabel = ["new"] ∧ plan.toUnlabel = ["old"] ∧ LabelsClosed moved l plan ∧
    ∃ plan' m, (tick {}).run.run .direct l = (.ok plan', m) ∧
      plan'.toLabel = [] ∧ plan'.toUnlabel = [] ∧ m.store .nodes = l.store .nodes := by
  have planned : ((tick {}).run.run .direct moved).1.toOption.map
      (fun plan => (plan.toLabel, plan.toUnlabel)) = some (["new"], ["old"]) := by
    decide +kernel
  generalize ticked : (tick {}).run.run .direct moved = ended at planned
  obtain ⟨result, l⟩ := ended
  cases result with
  | error e => exact nomatch planned
  | ok plan =>
      obtain ⟨toLabel, toUnlabel⟩ := Prod.mk.inj (Option.some.inj planned)
      obtain ⟨closed, next⟩ := node_labels_close {} reachable_moved
        (fun name node found => (named_moved name node found).1)
        (fun name node found => (named_moved name node found).2) ticked
      refine ⟨plan, l, rfl, toLabel, toUnlabel, closed, next indifferent_moved l ?_⟩
      exact ⟨fun _ _ => rfl, fun _ _ there => there, fun _ _ there _ => there, rfl⟩

end NodeTick

end NfsStorage

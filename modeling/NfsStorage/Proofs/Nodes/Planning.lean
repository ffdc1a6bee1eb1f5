import NfsStorage.Proofs.Program.Success
import NfsStorage.Proofs.Store.Listing
import NfsStorage.Proofs.Store.Versioned
import NfsStorage.Nodes.Tick

/-!
# What a tick observes and plans

The parts of a plan are told by their members: a node has to get the label, to lose it or to keep it
depending on whether declarations select it, whether it has the label, and what runs on it.
-/

namespace NfsStorage

theorem Dict.mem_keys_ofList {α : Type} {entries : List (String × α)} {key : String} :
    key ∈ (Dict.ofList entries).keys ↔ ∃ value, (key, value) ∈ entries := by
  have general : ∀ d : Dict α,
      ((entries.foldl (fun d entry => d.insert entry.1 entry.2) d).get? key).isSome ↔
        (∃ value, (key, value) ∈ entries) ∨ (d.get? key).isSome := by
    induction entries with
    | nil => simp
    | cons first rest inductionHypothesis =>
        intro d
        rw [List.foldl_cons, inductionHypothesis, Dict.get?_insert]
        by_cases here : key = first.1
        · have given : ∃ value, (key, value) ∈ first :: rest :=
            ⟨first.2, List.mem_cons.mpr (Or.inl (by rw [here]))⟩
          simp only [here, if_true, Option.isSome_some, or_true, true_iff]
          exact Or.inl (here ▸ given)
        · have elsewhere : ∀ value, (key, value) ≠ first := fun value same =>
            here (congrArg Prod.fst same)
          simp [here, elsewhere]
  rw [Dict.mem_keys_iff, Dict.ofList, general]
  simp

theorem nodup_sortedNames (names : List String) : (sortedNames names).Nodup := Dict.nodup_keys _

namespace Cluster

def Selected (k : Cluster) (name : String) : Prop :=
  ∃ node : Node, k.object? .nodes name = some node ∧
    ∃ n, ∃ d : Declaration, k.object? .declarations n = some d ∧ d.isDeleting = false ∧
      d.nodeSelector.selects node.metadata.labels = .ok true

def Labelled (k : Cluster) (name : String) : Prop :=
  ∃ node : Node, k.object? .nodes name = some node ∧
    node.metadata.label? Names.nodeLabel ≠ none

def observation (k : Cluster) : NodePlan.Observation where
  declarations := (k.store .declarations).objects.values
  nodes := (k.store .nodes).objects.values
  pods := (k.store .pods).objects.values
  claims := (k.store .claims).objects.values
  snapshots := (k.serve (.list .snapshots)).1.toOption.getD []
  controllerNode :=
    ((k.object? .leases NodeTick.snapshotterLease).bind (·.spec)).bind (·.holderIdentity)

/-- The server refuses nothing that a tick has to read. -/
structure Observable (k : Cluster) : Prop where
  lease : k.refused .leases .get = none
  declarations : k.refused .declarations .list = none
  nodes : k.refused .nodes .list = none
  pods : k.refused .pods .list = none
  claims : k.refused .claims .list = none
  snapshots : ∀ e, (k.serve (.list .snapshots)).1 = .error e → e.isNotFound = true

end Cluster

namespace NodeTick

open Pass (Succeeds)

variable {k l : Cluster} {o : NodePlan.Observation}

theorem succeeds_listSnapshots {snapshots : List Snapshot} :
    Succeeds listSnapshots k snapshots l ↔
      (∀ e, (k.serve (.list .snapshots)).1 = .error e → e.isNotFound = true) ∧
        snapshots = (k.serve (.list .snapshots)).1.toOption.getD [] ∧ l = k := by
  have stays : (k.serve (.list .snapshots)).2 = k := rfl
  unfold Succeeds listSnapshots
  change (Program.call (.list .snapshots) >>= _).run .direct k = _ ↔ _
  rw [Program.run_call_bind, stays]
  cases (k.serve (.list .snapshots)).1 with
  | ok found =>
      change (Except.ok found, k) = (Except.ok snapshots, l) ↔ _
      constructor
      · rintro ⟨⟩
        exact ⟨fun e failed => by simp at failed, rfl, rfl⟩
      · rintro ⟨-, rfl, rfl⟩
        rfl
  | error e =>
      change (if e.isNotFound then Except.ok [] else .error (Error.listSnapshots e), k) =
        (Except.ok snapshots, l) ↔ _
      cases absent : e.isNotFound with
      | true =>
          constructor
          · intro succeeds
            simp only [if_true, Prod.mk.injEq, Except.ok.injEq] at succeeds
            obtain ⟨rfl, rfl⟩ := succeeds
            refine ⟨fun e' same => ?_, rfl, rfl⟩
            obtain rfl := Except.error.inj same
            exact absent
          · rintro ⟨-, rfl, rfl⟩
            rfl
      | false =>
          constructor
          · intro succeeds
            simp at succeeds
          · rintro ⟨only, -, -⟩
            exact absurd (only e rfl) (by simp [absent])

theorem succeeds_observe : Succeeds observe k o l ↔ k.Observable ∧ o = k.observation ∧ l = k := by
  constructor
  · intro succeeds
    obtain ⟨_, _, listed, succeeds⟩ := Pass.succeeds_bind.mp succeeds
    obtain ⟨snapshots, rfl, rfl⟩ := succeeds_listSnapshots.mp listed
    obtain ⟨_, _, got, succeeds⟩ := Pass.succeeds_bind.mp succeeds
    obtain ⟨lease, rfl, rfl⟩ := Pass.succeeds_get.mp got
    obtain ⟨_, _, listed, succeeds⟩ := Pass.succeeds_bind.mp succeeds
    obtain ⟨declarations, rfl, rfl⟩ := Pass.succeeds_list.mp listed
    obtain ⟨_, _, listed, succeeds⟩ := Pass.succeeds_bind.mp succeeds
    obtain ⟨nodes, rfl, rfl⟩ := Pass.succeeds_list.mp listed
    obtain ⟨_, _, listed, succeeds⟩ := Pass.succeeds_bind.mp succeeds
    obtain ⟨pods, rfl, rfl⟩ := Pass.succeeds_list.mp listed
    obtain ⟨_, _, listed, succeeds⟩ := Pass.succeeds_bind.mp succeeds
    obtain ⟨claims, rfl, rfl⟩ := Pass.succeeds_list.mp listed
    obtain ⟨rfl, rfl⟩ := Pass.succeeds_pure.mp succeeds
    exact ⟨⟨lease, declarations, nodes, pods, claims, snapshots⟩, rfl, rfl⟩
  · rintro ⟨⟨lease, declarations, nodes, pods, claims, snapshots⟩, rfl, rfl⟩
    refine Pass.succeeds_bind.mpr ⟨_, _, succeeds_listSnapshots.mpr ⟨snapshots, rfl, rfl⟩, ?_⟩
    refine Pass.succeeds_bind.mpr ⟨_, _, Pass.succeeds_get.mpr ⟨lease, rfl, rfl⟩, ?_⟩
    refine Pass.succeeds_bind.mpr ⟨_, _, Pass.succeeds_list.mpr ⟨declarations, rfl, rfl⟩, ?_⟩
    refine Pass.succeeds_bind.mpr ⟨_, _, Pass.succeeds_list.mpr ⟨nodes, rfl, rfl⟩, ?_⟩
    refine Pass.succeeds_bind.mpr ⟨_, _, Pass.succeeds_list.mpr ⟨pods, rfl, rfl⟩, ?_⟩
    refine Pass.succeeds_bind.mpr ⟨_, _, Pass.succeeds_list.mpr ⟨claims, rfl, rfl⟩, ?_⟩
    exact Pass.succeeds_pure.mpr ⟨rfl, rfl⟩

end NodeTick

theorem LabelSelector.selects_eq_true_iff {s : LabelSelector} {labels : Option (Dict String)} :
    s.selects labels = .ok true ↔ ∃ conditions, s.conditions.toOption = some conditions ∧
      conditions.all (Condition.holds (labels.getD ∅)) = true := by
  rw [selects]
  cases s.conditions <;> simp [Except.map, Except.toOption]

namespace NodePlan.Observation

variable {o : Observation} {«namespace» name : String}

theorem mem_sortedNames_filter {p : Node → Bool} :
    name ∈ sortedNames ((o.nodes.filter p).map (·.name)) ↔
      ∃ node ∈ o.nodes, node.name = name ∧ p node = true := by
  simp only [mem_sortedNames, List.mem_map, List.mem_filter]
  constructor
  · rintro ⟨node, ⟨there, holds⟩, named⟩
    exact ⟨node, there, named, holds⟩
  · rintro ⟨node, there, named, holds⟩
    exact ⟨node, ⟨there, holds⟩, named⟩

theorem isSelected_iff {node : Node} : o.isSelected node = true ↔
    ∃ d ∈ o.declarations, d.isDeleting = false ∧
      d.nodeSelector.selects node.metadata.labels = .ok true := by
  simp only [isSelected, selectors, liveDeclarations, List.any_eq_true, List.mem_filterMap,
    List.mem_filter, Bool.not_eq_true', LabelSelector.selects_eq_true_iff]
  constructor
  · rintro ⟨conditions, ⟨d, ⟨there, staying⟩, parsed⟩, all⟩
    exact ⟨d, there, staying, conditions, parsed, all⟩
  · rintro ⟨d, there, staying, conditions, parsed, all⟩
    exact ⟨conditions, ⟨d, ⟨there, staying⟩, parsed⟩, all⟩

theorem mem_keptNodes : name ∈ (o.keptNodes «namespace»).keys ↔
    name ∈ o.leftovers ∧ o.protection? «namespace» name ≠ none := by
  simp only [keptNodes, Dict.mem_keys_ofList, List.mem_filterMap, Option.map_eq_some_iff,
    Prod.mk.injEq]
  constructor
  · rintro ⟨protection, node, leftover, other, kept, rfl, rfl⟩
    exact ⟨leftover, kept ▸ Option.some_ne_none _⟩
  · rintro ⟨leftover, kept⟩
    obtain ⟨protection, kept⟩ := Option.ne_none_iff_exists'.mp kept
    exact ⟨protection, name, leftover, protection, kept, rfl, rfl⟩

/-- A node keeps its label for what runs on it, or since not all selectors could be evaluated. -/
theorem protection?_eq_none_iff : o.protection? «namespace» name = none ↔
    (∀ pod ∈ o.pods, nodeOf? pod = some name → o.usesNfsClaim pod = false) ∧
      o.holdsController «namespace» name = false ∧ o.skipped = [] := by
  have noPods : o.nfsPodsOn name = [] ↔
      ∀ pod ∈ o.pods, nodeOf? pod = some name → o.usesNfsClaim pod = false := by
    simp [nfsPodsOn]
  rw [← noPods]
  simp only [protection?]
  cases o.nfsPodsOn name <;> cases o.holdsController «namespace» name <;> cases o.skipped <;> simp

end NodePlan.Observation

namespace Cluster

open NodePlan (Observation)

variable {k : Cluster} {name : String} {«namespace» : String}

theorem isSelected_iff {node : Node} : k.observation.isSelected node = true ↔
    ∃ n, ∃ d : Declaration, k.object? .declarations n = some d ∧ d.isDeleting = false ∧
      d.nodeSelector.selects node.metadata.labels = .ok true := by
  simp only [Observation.isSelected_iff, observation, Dict.mem_values_iff]
  constructor
  · rintro ⟨d, ⟨n, found⟩, selects⟩
    exact ⟨n, d, found, selects⟩
  · rintro ⟨n, d, found, selects⟩
    exact ⟨d, ⟨n, found⟩, selects⟩

theorem mem_nodes_iff (versioned : (k.store .nodes).Versioned) {node : Node} :
    node ∈ k.observation.nodes ∧ node.name = name ↔ k.object? .nodes name = some node := by
  rw [observation, Dict.mem_values_iff]
  constructor
  · rintro ⟨⟨key, found⟩, rfl⟩
    have named : node.name = key := versioned.named found
    exact named ▸ found
  · exact fun found => ⟨⟨name, found⟩, versioned.named found⟩

theorem mem_sortedNames_filter (versioned : (k.store .nodes).Versioned) {p : Node → Bool} :
    name ∈ sortedNames ((k.observation.nodes.filter p).map (·.name)) ↔
      ∃ node : Node, k.object? .nodes name = some node ∧ p node = true := by
  simp only [Observation.mem_sortedNames_filter, ← and_assoc, mem_nodes_iff versioned]

theorem mem_selectedNames (versioned : (k.store .nodes).Versioned) :
    name ∈ k.observation.selectedNames ↔ k.Selected name := by
  rw [Observation.selectedNames, mem_sortedNames_filter versioned]
  simp only [isSelected_iff]
  rfl

theorem mem_labelledNames (versioned : (k.store .nodes).Versioned) :
    name ∈ k.observation.labelledNames ↔ k.Labelled name := by
  rw [Observation.labelledNames, mem_sortedNames_filter versioned]
  simp only [Observation.isLabelled, Option.isSome_iff_ne_none]
  rfl

section Parts

variable (versioned : (k.store .nodes).Versioned)

include versioned

theorem mem_leftovers :
    name ∈ k.observation.leftovers ↔ k.Labelled name ∧ ¬ k.Selected name := by
  simp [Observation.leftovers, mem_labelledNames versioned, mem_selectedNames versioned]

theorem mem_toLabel :
    name ∈ (k.observation.plan «namespace»).toLabel ↔ k.Selected name ∧ ¬ k.Labelled name := by
  simp [Observation.plan, mem_labelledNames versioned, mem_selectedNames versioned]

theorem mem_toUnlabel :
    name ∈ (k.observation.plan «namespace»).toUnlabel ↔ (k.Labelled name ∧ ¬ k.Selected name) ∧
      k.observation.protection? «namespace» name = none := by
  simp [Observation.plan, mem_leftovers versioned]

theorem mem_kept :
    name ∈ (k.observation.plan «namespace»).kept.keys ↔ (k.Labelled name ∧ ¬ k.Selected name) ∧
      k.observation.protection? «namespace» name ≠ none := by
  rw [← mem_leftovers versioned]
  exact Observation.mem_keptNodes

end Parts

end Cluster

end NfsStorage

import NfsStorage.Proofs.Codec.Labels
import NfsStorage.Proofs.Nodes.Labelling
import NfsStorage.Proofs.Nodes.Planning

/-!
# What a tick makes of the nodes

After a tick without errors the label of the module is on the nodes that are selected and on those
that are kept, and no node was written but those that were to get the label or to lose it.
-/

namespace NfsStorage

open NodePlan (Plan)
open Pass (Succeeds)

/-- From one node to the other nothing has changed but the version and the label of the module. -/
structure Node.SameButLabel (node after : Node) : Prop where
  whole : after = { node with metadata := { node.metadata with
    labels := after.metadata.labels
    resourceVersion := after.metadata.resourceVersion } }
  labels : ∀ key, key ≠ Names.nodeLabel → after.metadata.label? key = node.metadata.label? key

/-- What a tick with a plan has made of the nodes. -/
structure LabelsClosed (k l : Cluster) (plan : Plan) : Prop where
  labelled : ∀ name, l.Labelled name ↔ k.Selected name ∨ name ∈ plan.kept.keys
  leftover : ∀ name, name ∈ plan.kept.keys ∨ name ∈ plan.toUnlabel ↔
    k.Labelled name ∧ ¬ k.Selected name
  apart : ∀ name ∈ plan.kept.keys, name ∉ plan.toUnlabel
  disjoint : ∀ name ∈ plan.toLabel, name ∉ plan.kept.keys ∧ name ∉ plan.toUnlabel
  nodes : ∀ name (node : Node), k.object? .nodes name = some node →
    ∃ after, l.object? .nodes name = some after ∧ node.SameButLabel after ∧
      ((l.Labelled name ↔ k.Labelled name) → after = node)
  noOthers : ∀ name, k.object? .nodes name = none → l.object? .nodes name = none
  written : (l.store .nodes).journal =
    (k.store .nodes).journal ++ (plan.toLabel ++ plan.toUnlabel).map ("replace " ++ ·)

namespace NodeTick

variable {k l m : Cluster} {op : Operator} {plan : Plan}

theorem label?_withLabel (node : Node) (present : Bool) (key : String) :
    (withLabel node present).metadata.label? key =
      if key = Names.nodeLabel then if present then some "" else none
      else node.metadata.label? key := by
  rw [Metadata.label?_eq, Metadata.label?_eq]
  cases present with
  | true => exact Dict.get?_insert _ _ _ _
  | false => exact Dict.get?_erase _ _ _

theorem sameButLabel_withLabel (node : Node) (present : Bool) (version : Nat) :
    node.SameButLabel (Store.withVersion (withLabel node present) version) where
  whole := rfl
  labels key other := (label?_withLabel node present key).trans (if_neg other)

def changes (plan : Plan) : List (String × Bool) :=
  plan.toLabel.map (·, true) ++ plan.toUnlabel.map (·, false)

theorem names_changes (plan : Plan) :
    (changes plan).map Prod.fst = plan.toLabel ++ plan.toUnlabel := by
  simp [changes, Function.comp_def]

theorem succeeds_deletePods {pods : List String} (succeeds : Succeeds (deletePods pods) k () l) :
    (∀ c, c ≠ .modulePods → l.store c = k.store c) ∧ l.refused = k.refused ∧
      (pods ≠ [] → k.refused .modulePods .delete = none) := by
  induction pods generalizing k with
  | nil =>
      obtain ⟨-, rfl⟩ := Pass.succeeds_pure.mp succeeds
      exact ⟨fun _ _ => rfl, rfl, fun filled => absurd rfl filled⟩
  | cons pod rest inductionHypothesis =>
      obtain ⟨_, l', first, succeeds⟩ := Pass.succeeds_bind.mp succeeds
      obtain ⟨others, refused, -⟩ := inductionHypothesis succeeds
      have deleted := Pass.succeeds_request.mp first
      have served := k.served (.delete .modulePods (nameInReference pod))
      rw [deleted] at served
      refine ⟨fun c elsewhere => ?_, refused.trans served.refused, fun _ => ?_⟩
      · exact (others c elsewhere).trans (served.store_of_ne elsewhere)
      · exact Cluster.serve_delete_eq_ok_iff.mp ⟨l', deleted⟩

theorem exists_succeeds_deletePods {pods : List String}
    (serves : pods ≠ [] → k.refused .modulePods .delete = none) :
    ∃ l, Succeeds (deletePods pods) k () l := by
  induction pods generalizing k with
  | nil => exact ⟨k, rfl⟩
  | cons pod rest inductionHypothesis =>
      have serves := serves (List.cons_ne_nil _ _)
      obtain ⟨l', deleted⟩ := Cluster.serve_delete_eq_ok_iff.mpr serves
      have served := k.served (.delete .modulePods (nameInReference pod))
      rw [deleted] at served
      obtain ⟨l, others⟩ := inductionHypothesis (k := l') fun _ => by
        rw [served.refused]
        exact serves
      exact ⟨l, Pass.succeeds_bind.mpr ⟨(), l', Pass.succeeds_request.mpr deleted, others⟩⟩

theorem nodup_plan (versioned : (k.store .nodes).Versioned) {«namespace» : String} :
    ((k.observation.plan «namespace»).toLabel ++
      (k.observation.plan «namespace»).toUnlabel).Nodup := by
  refine List.nodup_append.mpr ⟨(nodup_sortedNames _).filter _,
    ((nodup_sortedNames _).filter _).filter _, fun name labelled other unlabelled same => ?_⟩
  subst same
  exact ((Cluster.mem_toUnlabel versioned).mp unlabelled).1.2
    ((Cluster.mem_toLabel versioned).mp labelled).1

section Tick

variable (versioned : (k.store .nodes).Versioned)
  (lasting : ∀ name (node : Node), k.object? .nodes name = some node →
    Store.isReleased node = false)

include versioned lasting

theorem awaits_of_plan {name : String} {present : Bool}
    (change : (name, present) ∈ changes (k.observation.plan op.namespace)) :
    Awaits k name present := by
  have awaits : ∀ node : Node, k.object? .nodes name = some node →
      hasWantedLabel node present = false → Awaits k name present := by
    intro node found unwanted
    exact ⟨node, found, unwanted, lasting name node found⟩
  rcases List.mem_append.mp change with labelled | unlabelled
  · obtain ⟨_, member, same⟩ := List.mem_map.mp labelled
    obtain ⟨rfl, rfl⟩ := Prod.mk.inj same
    obtain ⟨⟨node, found, -⟩, unlabelled⟩ := (Cluster.mem_toLabel versioned).mp member
    refine awaits node found ?_
    cases label : node.metadata.label? Names.nodeLabel with
    | none => simp [hasWantedLabel, label]
    | some value => exact absurd ⟨node, found, label ▸ Option.some_ne_none _⟩ unlabelled
  · obtain ⟨_, member, same⟩ := List.mem_map.mp unlabelled
    obtain ⟨rfl, rfl⟩ := Prod.mk.inj same
    obtain ⟨⟨⟨node, found, label⟩, -⟩, -⟩ := (Cluster.mem_toUnlabel versioned).mp member
    refine awaits node found ?_
    simpa [hasWantedLabel, Option.isSome_iff_ne_none] using label

/-- A tick that succeeds has made its plan from what there was, and has carried it out. -/
theorem succeeds_tick (succeeds : Succeeds (tick op) k plan l) :
    k.Observable ∧ plan = k.observation.plan op.namespace ∧
      ∃ m, Relabelled (changes plan) k m ∧ Succeeds (deletePods plan.podsToDelete) m () l := by
  obtain ⟨_, _, observed, succeeds⟩ := Pass.succeeds_bind.mp succeeds
  obtain ⟨observable, rfl, same⟩ := succeeds_observe.mp observed
  rw [same] at succeeds
  obtain ⟨_, _, carried, ended⟩ := Pass.succeeds_bind.mp succeeds
  obtain ⟨rfl, rfl⟩ := Pass.succeeds_pure.mp ended
  obtain ⟨_, _, toLabel, carried⟩ := Pass.succeeds_bind.mp carried
  obtain ⟨_, m, toUnlabel, deleted⟩ := Pass.succeeds_bind.mp carried
  refine ⟨observable, rfl, m, ?_, deleted⟩
  obtain rfl := succeeds_setLabels toLabel
  obtain rfl := succeeds_setLabels toUnlabel
  have distinct : ((changes (k.observation.plan op.namespace)).map Prod.fst).Nodup := by
    rw [names_changes]
    exact nodup_plan versioned
  have relabelled := relabelled_foldl distinct fun change member =>
    awaits_of_plan versioned lasting member
  rwa [changes, List.foldl_append, List.foldl_map, List.foldl_map] at relabelled

end Tick

theorem mem_changes {name : String} {present : Bool} :
    (name, present) ∈ changes plan ↔
      name ∈ plan.toLabel ∧ present = true ∨ name ∈ plan.toUnlabel ∧ present = false := by
  simp only [changes, List.mem_append, List.mem_map, Prod.mk.injEq]
  constructor
  · rintro (⟨_, member, rfl, rfl⟩ | ⟨_, member, rfl, rfl⟩)
    · exact Or.inl ⟨member, rfl⟩
    · exact Or.inr ⟨member, rfl⟩
  · rintro (⟨member, rfl⟩ | ⟨member, rfl⟩)
    · exact Or.inl ⟨name, member, rfl, rfl⟩
    · exact Or.inr ⟨name, member, rfl, rfl⟩

theorem Relabelled.node (relabelled : Relabelled (changes plan) k m) (name : String) :
    (∃ (node : Node) (present : Bool) (version : Nat), (name, present) ∈ changes plan ∧
      k.object? .nodes name = some node ∧
      m.object? .nodes name =
        some (Store.withVersion (withLabel (node.under name) present) version)) ∨
    (name ∉ plan.toLabel ∧ name ∉ plan.toUnlabel) ∧
      m.object? .nodes name = k.object? .nodes name := by
  by_cases change : name ∈ (changes plan).map Prod.fst
  · obtain ⟨⟨_, present⟩, member, rfl⟩ := List.mem_map.mp change
    obtain ⟨node, version, found, written⟩ := relabelled.changed member
    exact Or.inl ⟨node, present, version, member, found, written⟩
  · have elsewhere := change
    rw [names_changes, List.mem_append, not_or] at elsewhere
    exact Or.inr ⟨elsewhere, relabelled.kept change⟩

theorem labelled_of_written {name : String} {node : Node} {present : Bool} {version : Nat}
    (written : m.object? .nodes name = some (Store.withVersion (withLabel node present) version)) :
    m.Labelled name ↔ present = true := by
  have label : (Store.withVersion (withLabel node present) version).metadata.label? Names.nodeLabel =
      if present then some "" else none := (label?_withLabel node present _).trans (if_pos rfl)
  constructor
  · rintro ⟨after, found, given⟩
    obtain rfl := Option.some.inj (written.symm.trans found)
    rw [label] at given
    cases present with
    | true => rfl
    | false => exact absurd rfl given
  · rintro rfl
    exact ⟨_, written, by rw [label]; exact Option.some_ne_none _⟩

theorem labelled_of_same {name : String} (same : m.object? .nodes name = k.object? .nodes name) :
    m.Labelled name ↔ k.Labelled name := by
  unfold Cluster.Labelled
  rw [same]

/-- With its plan carried out, a tick has closed the labels. -/
theorem Relabelled.closed (relabelled : Relabelled (changes plan) k m)
    (versioned : (k.store .nodes).Versioned) (named : k.NodesNamed)
    (made : plan = k.observation.plan op.namespace) (same : l.store .nodes = m.store .nodes) : LabelsClosed k l plan := by
  have toLabel : ∀ {name}, name ∈ plan.toLabel ↔ k.Selected name ∧ ¬ k.Labelled name := by
    rw [made]
    exact Cluster.mem_toLabel versioned
  have toUnlabel : ∀ {name}, name ∈ plan.toUnlabel ↔ (k.Labelled name ∧ ¬ k.Selected name) ∧
      k.observation.protection? op.namespace name = none := by
    rw [made]
    exact Cluster.mem_toUnlabel versioned
  have kept : ∀ {name}, name ∈ plan.kept.keys ↔ (k.Labelled name ∧ ¬ k.Selected name) ∧
      k.observation.protection? op.namespace name ≠ none := by
    rw [made]
    exact Cluster.mem_kept versioned
  have object : ∀ name, l.object? .nodes name = m.object? .nodes name := fun name => by
    rw [Cluster.object?, same]
    rfl
  constructor
  · intro name
    rw [labelled_of_same (object name)]
    rcases relabelled.node name with ⟨node, present, version, change, -, written⟩ | ⟨elsewhere, stays⟩
    · rw [labelled_of_written written]
      rcases mem_changes.mp change with ⟨member, rfl⟩ | ⟨member, rfl⟩
      · exact ⟨fun _ => Or.inl (toLabel.mp member).1, fun _ => rfl⟩
      · obtain ⟨⟨-, unselected⟩, free⟩ := toUnlabel.mp member
        refine ⟨fun present => absurd present Bool.false_ne_true, fun wanted => ?_⟩
        rcases wanted with selected | isKept
        · exact absurd selected unselected
        · exact absurd free (kept.mp isKept).2
    · rw [labelled_of_same stays, kept]
      rw [toLabel, toUnlabel] at elsewhere
      grind
  · intro name
    rw [kept, toUnlabel, ← and_or_left, and_iff_left_iff_imp]
    exact fun _ => (Decidable.em _).symm
  · exact fun name member unlabelled => (kept.mp member).2 (toUnlabel.mp unlabelled).2
  · intro name member
    have unlabelled := (toLabel.mp member).2
    exact ⟨fun other => unlabelled (kept.mp other).1.1, fun other => unlabelled (toUnlabel.mp other).1.1⟩
  · intro name node found
    rw [object, labelled_of_same (object name)]
    rcases relabelled.node name with ⟨node', present, version, change, present', written⟩ | ⟨-, stays⟩
    · obtain rfl := Option.some.inj (found.symm.trans present')
      rw [named.under_eq found] at written
      refine ⟨_, written, sameButLabel_withLabel _ _ _, fun unchanged => ?_⟩
      rw [labelled_of_written written] at unchanged
      rcases mem_changes.mp change with ⟨member, rfl⟩ | ⟨member, rfl⟩
      · exact absurd (unchanged.mp rfl) (toLabel.mp member).2
      · exact absurd (unchanged.mpr (toUnlabel.mp member).1.1) Bool.false_ne_true
    · exact ⟨node, stays.trans found, ⟨rfl, fun _ _ => rfl⟩, fun _ => rfl⟩
  · intro name absent
    rw [object]
    rcases relabelled.node name with ⟨node, _, _, -, found, -⟩ | ⟨-, stays⟩
    · rw [absent] at found
      cases found
    · exact stays.trans absent
  · rw [same, relabelled.journal, ← names_changes, List.map_map]
    rfl

end NodeTick

end NfsStorage

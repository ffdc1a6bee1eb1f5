import NfsStorage.Proofs.Nodes.Reading
import NfsStorage.Proofs.Nodes.Replanning

/-!
# Interrupted ticks

A tick that is interrupted has carried out the beginning of its plan. The tick after it makes up for
the rest: it plans no other changes than those that are left, and together they leave the labels of
the nodes and the pods of the module as a single tick would have done that is not interrupted.
-/

namespace NfsStorage

open NodePlan (Plan Observation)
open Pass (Succeeds)

namespace Cluster

variable {k : Cluster} {name : String}

theorem selected_observation (versioned : (k.store .nodes).Versioned) :
    k.observation.Selected name ↔ k.Selected name :=
  Observation.mem_selectedNames.symm.trans (mem_selectedNames versioned)

theorem labelled_observation (versioned : (k.store .nodes).Versioned) :
    k.observation.Labelled name ↔ k.Labelled name :=
  Observation.mem_labelledNames.symm.trans (mem_labelledNames versioned)

end Cluster

namespace NodeTick

variable {op : Operator} {e : StoreError} {calls : Nat} {k l : Cluster}

/-- The list of all pods has lost no other pods than some that were to be deleted, and that are
deleted. -/
structure PodsCleared (stray : Pod → Bool) (l l' : Cluster) : Prop extends PodsGone stray l l' where
  cleared : ∀ pod ∈ l.observation.pods, pod ∉ l'.observation.pods →
    l.object? .modulePods (nameInReference (Observation.podReference pod)) = none

/-- A plan for what is left to do of another. -/
structure Rest (plan part rest : Plan) : Prop where
  toLabel : ∀ {name}, name ∈ rest.toLabel ↔ name ∈ plan.toLabel ∧ name ∉ part.toLabel
  toUnlabel : ∀ {name}, name ∈ rest.toUnlabel ↔ name ∈ plan.toUnlabel ∧ name ∉ part.toUnlabel
  podsToDelete : rest.podsToDelete ⊆ plan.podsToDelete

/-- A plan is carried out in two goes, the beginning of it first, where else it is done at once. -/
structure Resumption (plan part rest : Plan) (whole first second : Cluster) : Prop
    extends Rest plan part rest where
  begins : Beginning plan part
  apart : ∀ name ∈ plan.toLabel, name ∉ plan.toUnlabel
  atOnce : Relabelled (changes plan) whole (labelled plan whole)
  before : Relabelled (changes part) first (labelled part first)
  after : Relabelled (changes rest) second (labelled rest second)
  starts : ∀ c, c ≠ .snapshots → whole.store c = first.store c
  resumes : ∀ c, c ≠ .pods → second.store c = (carriedOut part first).store c
  serves : first.refused .modulePods .delete = none
  stillServes : second.refused .modulePods .delete = none
  covers : ∀ name ∈ plan.podsToDelete.map nameInReference,
    name ∈ part.podsToDelete.map nameInReference ∨
      name ∈ rest.podsToDelete.map nameInReference ∨
        (carriedOut part first).modulePod? name = none

theorem apart_plan (o : Observation) («namespace» : String) :
    ∀ name ∈ (o.plan «namespace»).toLabel, name ∉ (o.plan «namespace»).toUnlabel :=
  fun _ sets takes =>
    (Observation.mem_toUnlabel.mp takes).2.1 (Observation.mem_toLabel.mp sets).1

section Resuming

variable {plan part rest : Plan} {l' : Cluster}

/-- What the tick did not write is there some time after it, but for the pods that are gone. -/
theorem store_of_podsGone {stray : Pod → Bool}
    (relabelled : Relabelled (changes part) k (labelled part k))
    (gone : PodsGone stray (carriedOut part k) l') {c : Collection} (notNodes : c ≠ .nodes)
    (notModulePods : c ≠ .modulePods) (notPods : c ≠ .pods) : l'.store c = k.store c :=
  (gone.others c notPods).trans
    ((store_carriedOut _ _ notModulePods).trans (relabelled.others c notNodes))

theorem pods_carriedOut (relabelled : Relabelled (changes part) k (labelled part k)) :
    (carriedOut part k).observation.pods = (seen e calls k).observation.pods := by
  rw [observation_seen]
  exact congrArg (·.objects.values)
    ((store_carriedOut _ _ (by decide)).trans (relabelled.others .pods (by decide)))

theorem snapshots_of_same (known : ¬ LosesSnapshots e calls)
    (same : l'.store .snapshots = k.store .snapshots) :
    l'.observation.snapshots = (seen e calls k).observation.snapshots := by
  rw [seen, if_neg known]
  exact congrArg (·.toOption.getD []) (Cluster.serve_list_congr same)

theorem later_carriedOut
    (begins : Beginning ((seen e calls k).observation.plan op.namespace) part)
    (apart : ∀ name ∈ part.toLabel, name ∉ part.toUnlabel)
    (relabelled : Relabelled (changes part) k (labelled part k))
    (before : (k.store .nodes).Versioned) (after : (l'.store .nodes).Versioned)
    (indifferent : k.Indifferent)
    (gone : PodsGone ((seen e calls k).observation.isStray op.namespace) (carriedOut part k) l') :
    (seen e calls k).observation.Later op.namespace part.toLabel part.toUnlabel l'.observation := by
  have stores : ∀ c, c ≠ .nodes → c ≠ .modulePods → c ≠ .pods → l'.store c = k.store c :=
    fun c => store_of_podsGone relabelled gone
  have nodes : ∀ name, l'.object? .nodes name = (labelled part k).object? .nodes name := by
    intro name
    rw [← object?_carriedOut, Cluster.object?, gone.others .nodes (by decide)]
    rfl
  have pods : (carriedOut part k).observation.pods = (seen e calls k).observation.pods :=
    pods_carriedOut relabelled
  constructor
  · rw [observation_seen]
    exact congrArg (·.objects.values) (stores .declarations (by decide) (by decide) (by decide))
  · rw [observation_seen]
    exact congrArg (·.objects.values) (stores .claims (by decide) (by decide) (by decide))
  · have leases := stores .leases (by decide) (by decide) (by decide)
    rw [observation_seen]
    simp only [Cluster.observation, Cluster.object?, leases]
  · by_cases lost : LosesSnapshots e calls
    · rw [seen, if_pos lost]
      exact List.nil_subset _
    · rw [← snapshots_of_same lost (stores .snapshots (by decide) (by decide) (by decide))]
      exact List.Subset.refl _
  · exact fun pod there => pods ▸ gone.mem_of_mem there
  · intro pod there settled
    rw [← Observation.isStray_iff, Bool.not_eq_true] at settled
    exact gone.mem_of_not_stray (pods ▸ there) settled
  · exact begins.adds.subset
  · exact begins.removes.subset
  · intro name
    have selected : (seen e calls k).observation.Selected name ↔ k.Selected name := by
      rw [observation_seen]
      exact Cluster.selected_observation before
    rw [Cluster.selected_observation after, selected]
    apply indifferent.selected_iff (stores .declarations (by decide) (by decide) (by decide))
    · intro name node found
      rw [nodes]
      exact relabelled.otherLabels found
    · exact fun name absent => (nodes name).trans (relabelled.noOthers absent)
  · intro name
    have labels : (seen e calls k).observation.Labelled name ↔ k.Labelled name := by
      rw [observation_seen]
      exact Cluster.labelled_observation before
    rw [Cluster.labelled_observation after, labels, labelled_of_same (nodes name)]
    exact relabelled.labelled_iff apart

theorem rest_of_later {o later : Observation} {«namespace» : String}
    (ensues : o.Later «namespace» part.toLabel part.toUnlabel later)
    (whole : part = o.plan «namespace» ∨ later.snapshots ⊆ o.snapshots) :
    Rest (o.plan «namespace») part (later.plan «namespace») := by
  refine ⟨ensues.mem_toLabel_iff, ?_, ensues.podsToDelete⟩
  rcases whole with rfl | same
  · exact ⟨ensues.of_mem_toUnlabel, fun left => absurd left.1 left.2⟩
  · exact ensues.mem_toUnlabel_iff same

/-- What becomes of the label of a node is done in the beginning or is left to do. -/
theorem Rest.change? (left : Rest plan part rest) (begins : Beginning plan part)
    (apart : ∀ name ∈ plan.toLabel, name ∉ plan.toUnlabel) (name : String) :
    change? part name = change? plan name ∧ change? rest name = none ∨
      change? part name = none ∧ change? rest name = change? plan name := by
  have adds : name ∈ part.toLabel → name ∈ plan.toLabel := fun set => begins.adds.subset set
  have removes : name ∈ part.toUnlabel → name ∈ plan.toUnlabel :=
    fun taken => begins.removes.subset taken
  have apart := apart name
  simp only [NodeTick.change?, left.toLabel, left.toUnlabel]
  grind

namespace Resumption

variable {whole first second : Cluster} (resumption : Resumption plan part rest whole first second)

include resumption

theorem nodeLabels? (name : String) :
    (carriedOut rest second).nodeLabels? name = (carriedOut plan whole).nodeLabels? name := by
  have start : whole.nodeLabels? name = first.nodeLabels? name := by
    simp only [Cluster.nodeLabels?, Cluster.object?, resumption.starts .nodes (by decide)]
  have between : second.nodeLabels? name = (labelled part first).nodeLabels? name := by
    rw [← nodeLabels?_carriedOut]
    simp only [Cluster.nodeLabels?, Cluster.object?, resumption.resumes .nodes (by decide)]
  rw [nodeLabels?_carriedOut, nodeLabels?_carriedOut, resumption.after.nodeLabels?, between,
    resumption.before.nodeLabels?, resumption.atOnce.nodeLabels?, start]
  rcases resumption.toRest.change? resumption.begins resumption.apart name with
    ⟨done, nothingLeft⟩ | ⟨notDone, leftToDo⟩
  · rw [done, nothingLeft]
    rfl
  · rw [notDone, leftToDo]
    rfl

theorem modulePod? (name : String) :
    (carriedOut rest second).modulePod? name = (carriedOut plan whole).modulePod? name := by
  have start : whole.modulePod? name = first.modulePod? name := by
    simp only [Cluster.modulePod?, Cluster.object?, resumption.starts .modulePods (by decide)]
  have between : second.modulePod? name = (carriedOut part first).modulePod? name := by
    simp only [Cluster.modulePod?, Cluster.object?, resumption.resumes .modulePods (by decide)]
  have servesWhole : whole.refused .modulePods .delete = none := by
    rw [Cluster.refused_congr (resumption.starts .modulePods (by decide)), resumption.serves]
  have covers := resumption.covers name
  rw [modulePod?_carriedOut resumption.atOnce servesWhole,
    modulePod?_carriedOut resumption.after resumption.stillServes, start, between]
  rw [modulePod?_carriedOut resumption.before resumption.serves] at covers ⊢
  by_cases planned : name ∈ plan.podsToDelete.map nameInReference
  · rw [if_pos planned]
    -- A pod with finalizers is still there after the first go, and may be deleted a second time.
    by_cases done : name ∈ part.podsToDelete.map nameInReference
    · rw [if_pos done, bind_leaving_leaving, ite_self]
    · rw [if_neg done] at covers ⊢
      rcases (covers planned).resolve_left done with later | gone
      · rw [if_pos later]
      · rw [gone, Option.bind_none, ite_self]
  · have notDone : name ∉ part.podsToDelete.map nameInReference :=
      fun done => planned (List.map_subset _ resumption.begins.deletes.subset done)
    have notLater : name ∉ rest.podsToDelete.map nameInReference :=
      fun later => planned (List.map_subset _ resumption.podsToDelete later)
    rw [if_neg planned, if_neg notLater, if_neg notDone]

end Resumption

end Resuming

/-- All nodes that a plan is about await their labels, and get them as far as it is carried out. -/
theorem relabelled_part {s : Cluster} {part : Plan}
    (lasting : ∀ name (node : Node), k.object? .nodes name = some node →
      Store.isReleased node = false)
    (same : s.store .nodes = k.store .nodes) (versioned : (k.store .nodes).Versioned)
    (begins : Beginning (s.observation.plan op.namespace) part) :
    Relabelled (changes part) k (labelled part k) := by
  have objects : ∀ name, s.object? .nodes name = k.object? .nodes name := fun name => by
    rw [Cluster.object?, same]
    rfl
  have versioned : (s.store .nodes).Versioned := same ▸ versioned
  apply relabelled_foldl
  · refine (begins.changes.map Prod.fst).nodup ?_
    rw [names_changes]
    exact nodup_plan versioned
  · intro change member
    have awaits : Awaits s change.1 change.2 := awaits_of_plan versioned
      (fun name node found => lasting name node ((objects name).symm.trans found))
      (begins.changes.subset member)
    obtain ⟨node, found, rest⟩ := awaits
    exact ⟨node, (objects _).symm.trans found, rest⟩

theorem resumption_of_cleared {part : Plan} {l' : Cluster}
    (lasting : ∀ name (node : Node), k.object? .nodes name = some node →
      Store.isReleased node = false)
    (before : (k.store .nodes).Versioned) (after : (l'.store .nodes).Versioned)
    (begins : Beginning ((seen e calls k).observation.plan op.namespace) part)
    (whole : LosesSnapshots e calls → part = (seen e calls k).observation.plan op.namespace)
    (serves : k.ServesTicks) (stillServes : l'.ServesTicks) (indifferent : k.Indifferent)
    (cleared : PodsCleared ((seen e calls k).observation.isStray op.namespace)
      (carriedOut part k) l') :
    Resumption ((seen e calls k).observation.plan op.namespace) part
      (l'.observation.plan op.namespace) (seen e calls k) k l' := by
  have nodes : (seen e calls k).store .nodes = k.store .nodes := store_seen (by decide)
  have apart := apart_plan (seen e calls k).observation op.namespace
  have first := relabelled_part lasting nodes before begins
  have ensues := later_carriedOut begins (begins.apart apart) first before after indifferent
    cleared.toPodsGone
  -- The next tick may see more snapshots than a tick that lost them, and keep more nodes. But then
  -- the call that fails is behind it, and nothing is left to do.
  have snapshots : part = (seen e calls k).observation.plan op.namespace ∨
      l'.observation.snapshots ⊆ (seen e calls k).observation.snapshots := by
    by_cases lost : LosesSnapshots e calls
    · exact Or.inl (whole lost)
    · rw [snapshots_of_same lost
        (store_of_podsGone first cleared.toPodsGone (by decide) (by decide) (by decide))]
      exact Or.inr (List.Subset.refl _)
  have objects : ∀ name, l'.object? .nodes name = (labelled part k).object? .nodes name := by
    intro name
    rw [← object?_carriedOut, Cluster.object?, cleared.others .nodes (by decide)]
    rfl
  constructor
  · exact rest_of_later ensues snapshots
  · exact begins
  · exact apart
  · have same : ∀ name, (seen e calls k).object? .nodes name = k.object? .nodes name :=
      object?_seen (by decide)
    exact relabelled_part
      (fun name node found => lasting name node ((same name).symm.trans found)) rfl
      (nodes ▸ before) (.refl _)
  · exact first
  · exact relabelled_part
      (fun name node found => first.lasting lasting name node ((objects name).symm.trans found)) rfl
      after (.refl _)
  · exact fun c elsewhere => store_seen elsewhere
  · exact cleared.others
  · exact serves.deletes
  · exact stillServes.deletes
  · intro name planned
    obtain ⟨reference, deletes, rfl⟩ := List.mem_map.mp planned
    rcases snapshots with rfl | same
    · exact Or.inl planned
    · rcases ensues.mem_podsToDelete same deletes with again | ⟨pod, there, rfl, gone⟩
      · exact Or.inr (Or.inl (List.mem_map_of_mem again))
      · refine Or.inr (Or.inr ?_)
        rw [Cluster.modulePod?, cleared.cleared pod (pods_carriedOut first ▸ there) gone]
        rfl

/-- Whichever call of a tick fails, nothing is written unless the cluster could be read, no label
goes before all were set, no pod goes before all labels are as planned, and every node is as it was
or as planned. If no selector looks at the label, the next tick leaves the labels and the pods of the
module that a tick leaves which is not interrupted.

A node that is to go and has no finalizers is no longer in a store that has deleted it; if one is put
there, any write of it takes it away, and `lasting` is that there is none. The tick that is not
interrupted starts from the same cluster, except when the call that fails is that for the snapshots
and it fails with 404. This is an answer, namely that there are no snapshots, and the tick goes on
from it; `seen` is the cluster with this answer, and no call of the tick from there fails. -/
theorem interrupted_tick (op : Operator) {k l : Cluster} (reachable : k.Reachable)
    (lasting : ∀ name (node : Node), k.object? .nodes name = some node →
      Store.isReleased node = false)
    {e : StoreError} {calls : Nat} {result : Except Error Plan} {left : Option Nat}
    (ended : (tick op).run.falter e (some calls) k = (result, left, l)) :
    (calls < readings ∧ ¬ LosesSnapshots e calls ∨ ¬ (seen e calls k).Observable →
      (∃ cause, result = .error cause) ∧ l = k) ∧
    PartlyDone ((seen e calls k).observation.plan op.namespace) k l ∧
    (k.Indifferent → k.ServesTicks → ∀ l',
      PodsCleared ((seen e calls k).observation.isStray op.namespace) l l' →
      ∃ plan whole rest resumed,
        (tick op).run.run .direct (seen e calls k) = (.ok plan, whole) ∧
        (tick op).run.run .direct l' = (.ok rest, resumed) ∧
        (∀ name, resumed.nodeLabels? name = whole.nodeLabels? name) ∧
        ∀ name, resumed.modulePod? name = whole.modulePod? name) := by
  have versioned := reachable.versioned .nodes
  have nodes : (seen e calls k).store .nodes = k.store .nodes := store_seen (by decide)
  have reached : ((tick op).run.falter e (some calls) k).2.2.Reachable :=
    Program.falter_induction (fun _ r reachable => .served r reachable) _ _ _ reachable
  have refused : ((tick op).run.falter e (some calls) k).2.2.refused = k.refused :=
    Program.falter_induction
      (fun m r (same : m.refused = k.refused) => (m.served r).refused.trans same) _ _ _ rfl
  obtain ⟨part, begins, made, whole⟩ := falter_tick op e calls k
  rw [ended] at reached refused made
  obtain rfl : l = carriedOut part k := made
  refine ⟨fun unread => ?_, ?_, fun indifferent serves l' cleared => ?_⟩
  · obtain ⟨cause, left', failed⟩ := falter_tick_of_unread op unread
    obtain ⟨failed, same⟩ := Prod.mk.inj (ended.symm.trans failed)
    exact ⟨⟨cause, failed⟩, (Prod.mk.inj same).2⟩
  · exact partlyDone_carriedOut begins (apart_plan _ _)
      (relabelled_part lasting nodes versioned begins)
  · have first := relabelled_part lasting nodes versioned begins
    have servesSeen : (seen e calls k).ServesTicks := servesTicks_seen serves
    have stillServes : l'.ServesTicks := by
      refine serves.of_refused (fun c _ => (cleared.refuses c).trans (congrFun refused c)) ?_
      rw [Cluster.serve_list_congr
        (store_of_podsGone first cleared.toPodsGone (by decide) (by decide) (by decide))]
      exact serves.snapshots
    have versioned' : (l'.store .nodes).Versioned := by
      rw [cleared.others .nodes (by decide)]
      exact reached.versioned .nodes
    have resumption := resumption_of_cleared lasting versioned versioned' begins
      (fun lost => whole lost serves) serves stillServes indifferent cleared
    exact ⟨_, _, _, _, succeeds_tick_of_serves op servesSeen,
      succeeds_tick_of_serves op stillServes, resumption.nodeLabels?, resumption.modulePod?⟩

/-- Where the label moves from one node to another, a pod of the module runs on the node that loses
it. -/
def leftBehind : Cluster :=
  let pods : List Pod := [
    { metadata := { name := some "csi-node-x", «namespace» := some "d8-csi-nfs" }
      spec := some { nodeName := some "old" } }]
  (moved.setStore .pods (Store.ofList pods)).setStore .modulePods (Store.ofList pods)

def timeout : StoreError := .api ⟨500, "InternalError", "timed out"⟩

/-- The tick is interrupted when both nodes have the label. The next tick takes it from the one, and
deletes the pod. -/
theorem interrupted_tick_leftBehind : ∃ result left l,
    (tick {}).run.falter timeout (some 8) leftBehind = (result, left, l) ∧
    l.Labelled "new" ∧ l.Labelled "old" ∧
    PartlyDone (leftBehind.observation.plan "d8-csi-nfs") leftBehind l ∧
    ∃ plan whole rest resumed, (tick {}).run.run .direct leftBehind = (.ok plan, whole) ∧
      (tick {}).run.run .direct l = (.ok rest, resumed) ∧
      (∀ name, resumed.nodeLabels? name = whole.nodeLabels? name) ∧
      ∀ name, resumed.modulePod? name = whole.modulePod? name := by
  have reachable : leftBehind.Reachable := by
    refine .filled .modulePods _ ?_ (.filled .pods _ ?_ reachable_moved)
    all_goals
      intro pod membership
      obtain rfl := List.mem_singleton.mp membership
      exact nofun
  have nodes : ∀ name (node : Node), leftBehind.object? .nodes name = some node →
      node.metadata.name ≠ none ∧ Store.isReleased node = false := named_moved
  have indifferent : leftBehind.Indifferent := fun n d found => indifferent_moved n d found
  have serves : leftBehind.ServesTicks := ⟨⟨rfl, rfl, rfl, rfl, rfl, nofun⟩, rfl, rfl, rfl⟩
  have known : seen timeout 8 leftBehind = leftBehind := if_neg (by decide)
  have half : ∀ name ∈ ["new", "old"],
      (((tick {}).run.falter timeout (some 8) leftBehind).2.2.object? .nodes name).bind
        (·.metadata.label? Names.nodeLabel) = some "" := by
    decide +kernel
  generalize ended : (tick {}).run.falter timeout (some 8) leftBehind = outcome at half
  obtain ⟨result, left, l⟩ := outcome
  have labelled : ∀ name ∈ ["new", "old"], l.Labelled name := by
    intro name member
    obtain ⟨node, found, label⟩ := Option.bind_eq_some_iff.mp (half name member)
    exact ⟨node, found, label ▸ Option.some_ne_none _⟩
  obtain ⟨-, done, resumes⟩ := interrupted_tick {} reachable
    (fun name node found => (nodes name node found).2) ended
  rw [known] at done resumes
  refine ⟨result, left, l, rfl, labelled "new" (by decide), labelled "old" (by decide), done, ?_⟩
  exact resumes indifferent serves l
    ⟨⟨fun _ _ => rfl, fun _ _ there => there, fun _ _ there _ => there, rfl⟩,
      fun pod there gone => absurd there gone⟩

end NodeTick

end NfsStorage

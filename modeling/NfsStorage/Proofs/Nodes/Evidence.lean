import NfsStorage.Proofs.Nodes.Exactness

/-!
# More evidence, fewer removals

Whatever is added to an observation speaks for keeping what is there: it may select more nodes, use
them, wait for the controller or leave a selector unevaluated. So the nodes where the module may
serve become no fewer, a plan for the larger observation unlabels no other nodes than the plan
before, and it deletes no other pods than the plan before, except pods that were added.
-/

namespace NfsStorage.NodePlan

structure Evidence where
  declarations : List Declaration := []
  pods : List Pod := []
  claims : List Claim := []
  snapshots : List Snapshot := []

namespace Observation

/-- The larger observation has more in it, at whatever places, of the same nodes. -/
structure Adds (o : Observation) (evidence : Evidence) (larger : Observation) : Prop where
  declarations : larger.declarations.Perm (o.declarations ++ evidence.declarations)
  pods : larger.pods.Perm (o.pods ++ evidence.pods)
  claims : larger.claims.Perm (o.claims ++ evidence.claims)
  snapshots : larger.snapshots.Perm (o.snapshots ++ evidence.snapshots)
  nodes : larger.nodes = o.nodes
  controllerNode : larger.controllerNode = o.controllerNode

/-- The module may serve on the node: it is selected, or it keeps the label. -/
def Capable (o : Observation) («namespace» name : String) : Prop :=
  o.Selected name ∨ name ∈ (o.plan «namespace»).kept.keys

namespace Adds

variable {o larger : Observation} {evidence : Evidence} {«namespace» name : String}
  (adds : o.Adds evidence larger)

include adds

theorem mem_declarations {d : Declaration} (there : d ∈ o.declarations) :
    d ∈ larger.declarations :=
  adds.declarations.mem_iff.mpr (List.mem_append_left _ there)

theorem mem_pods {pod : Pod} (there : pod ∈ o.pods) : pod ∈ larger.pods :=
  adds.pods.mem_iff.mpr (List.mem_append_left _ there)

theorem mem_claims {claim : Claim} (there : claim ∈ o.claims) : claim ∈ larger.claims :=
  adds.claims.mem_iff.mpr (List.mem_append_left _ there)

theorem mem_snapshots {snapshot : Snapshot} (there : snapshot ∈ o.snapshots) :
    snapshot ∈ larger.snapshots :=
  adds.snapshots.mem_iff.mpr (List.mem_append_left _ there)

theorem labelled_iff : larger.Labelled name ↔ o.Labelled name := by
  rw [Labelled, Labelled, adds.nodes]

theorem selected (selected : o.Selected name) : larger.Selected name := by
  obtain ⟨node, there, named, d, declared, staying, selects⟩ := selected
  exact ⟨node, adds.nodes ▸ there, named, d, adds.mem_declarations declared, staying, selects⟩

theorem uses (uses : o.Uses name) : larger.Uses name := by
  obtain ⟨pod, there, bound, claim, given, mounts⟩ := uses
  exact ⟨pod, adds.mem_pods there, bound, claim, adds.mem_claims given, mounts⟩

theorem awaited (awaited : o.Awaited) : larger.Awaited := by
  cases awaited with
  | snapshot there unready given source inNamespace annotated =>
      exact .snapshot (adds.mem_snapshots there) unready (adds.mem_claims given) source inNamespace
        annotated
  | claim given annotated pending => exact .claim (adds.mem_claims given) annotated pending

theorem controlled (controlled : o.Controlled «namespace» name) :
    larger.Controlled «namespace» name := by
  obtain ⟨active, pod, there, hosted⟩ := controlled
  exact ⟨adds.controllerNode.trans active, pod, adds.mem_pods there, hosted⟩

theorem expendable (expendable : larger.Expendable «namespace» name) :
    o.Expendable «namespace» name where
  unused used := expendable.unused (adds.uses used)
  idle busy := expendable.idle ⟨adds.controlled busy.1, adds.awaited busy.2⟩
  evaluated d declared := expendable.evaluated d (adds.mem_declarations declared)

/-- A node that is kept is selected now, or it is kept as before or for a better reason. -/
theorem capable (capable : o.Capable «namespace» name) : larger.Capable «namespace» name := by
  rcases capable with selected | kept
  · exact Or.inl (adds.selected selected)
  · obtain ⟨labelled, -, needed⟩ := mem_kept.mp kept
    by_cases selected : larger.Selected name
    · exact Or.inl selected
    · exact Or.inr (mem_kept.mpr ⟨adds.labelled_iff.mpr labelled, selected,
        fun expendable => needed (adds.expendable expendable)⟩)

theorem astray {pod : Pod} (astray : larger.Astray «namespace» pod) :
    o.Astray «namespace» pod := by
  obtain ⟨inNamespace, ⟨node, bound, unselected, unkept⟩, free⟩ := astray
  have incapable : ¬ o.Capable «namespace» node := fun capable =>
    (adds.capable capable).elim unselected unkept
  obtain ⟨unselected, unkept⟩ := not_or.mp incapable
  exact ⟨inNamespace, ⟨node, bound, unselected, unkept⟩, free.imp_right (mt adds.awaited)⟩

end Adds

/-- With more evidence of use, a plan takes the label from no other nodes and deletes no other pods,
except for those that were added. -/
theorem plan_monotone {o larger : Observation} {evidence : Evidence}
    (adds : o.Adds evidence larger) («namespace» : String) :
    (larger.plan «namespace»).toUnlabel ⊆ (o.plan «namespace»).toUnlabel ∧
      ∀ reference ∈ (larger.plan «namespace»).podsToDelete,
        reference ∈ (o.plan «namespace»).podsToDelete ∨
          ∃ pod ∈ evidence.pods, podReference pod = reference := by
  constructor
  · intro name unlabelled
    obtain ⟨labelled, unselected, expendable⟩ := mem_toUnlabel.mp unlabelled
    exact mem_toUnlabel.mpr ⟨adds.labelled_iff.mp labelled, mt adds.selected unselected,
      adds.expendable expendable⟩
  · intro reference deleted
    obtain ⟨pod, there, referred, astray⟩ := mem_podsToDelete.mp deleted
    rcases List.mem_append.mp (adds.pods.mem_iff.mp there) with before | added
    · exact Or.inl (mem_podsToDelete.mpr ⟨pod, before, referred, adds.astray astray⟩)
    · exact Or.inr ⟨pod, added, referred⟩

/-- A declaration that selects none of the nodes, another pod of the module, and a claim. -/
def arrivals : Evidence where
  declarations := [
    { metadata := { name := some "a" }
      spec :=
        { connection := { host := "host", share := "/share", nfsVersion := .v41 }
          reclaimPolicy := .delete
          volumeBindingMode := .immediate } }]
  pods := [
    { metadata := { name := some "csi-node-y", «namespace» := some "d8-csi-nfs" }
      spec := some { nodeName := some "idle" } }]
  claims := [{ metadata := { name := some "data", «namespace» := some "elsewhere" } }]

def joined : Observation :=
  { deserted with
    declarations := arrivals.declarations ++ deserted.declarations
    pods := arrivals.pods ++ deserted.pods
    claims := arrivals.claims ++ deserted.claims }

/-- The idle node loses the label as before, and the pod that is deleted besides is the new one. -/
theorem plan_monotone_joined :
    deserted.Adds arrivals joined ∧ "idle" ∈ (joined.plan "d8-csi-nfs").toUnlabel ∧
      "idle" ∈ (deserted.plan "d8-csi-nfs").toUnlabel ∧
      ∃ pod ∈ arrivals.pods, podReference pod = "d8-csi-nfs/csi-node-y" := by
  have adds : deserted.Adds arrivals joined :=
    { declarations := List.perm_append_comm
      pods := List.perm_append_comm
      claims := List.perm_append_comm
      snapshots := List.Perm.refl _
      nodes := rfl
      controllerNode := rfl }
  obtain ⟨unlabelled, deleted⟩ := plan_monotone adds "d8-csi-nfs"
  have idle : "idle" ∈ (joined.plan "d8-csi-nfs").toUnlabel := by decide +kernel
  refine ⟨adds, idle, unlabelled idle, ?_⟩
  exact (deleted "d8-csi-nfs/csi-node-y" (by decide +kernel)).resolve_left (by decide +kernel)

end Observation

end NfsStorage.NodePlan

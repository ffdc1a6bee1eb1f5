import NfsStorage.Proofs.Nodes.Planning

/-!
# A plan removes what is safe to remove

A labelled node that no declaration selects loses the label if and only if it is expendable: no pod
on it uses NFS, the controller has no work to finish there, and all selectors could be evaluated.
The other such nodes are kept. A pod goes if and only if it is a pod of the module where the module
no longer serves, other than the controller while there is work for it.
-/

namespace NfsStorage

/-- The pod runs on the node. An empty name is the name of no node. -/
structure Pod.BoundTo (pod : Pod) (node : String) : Prop where
  bound : pod.spec.bind (·.nodeName) = some node
  named : node ≠ ""

structure Pod.Mounts (pod : Pod) (claim : Claim) : Prop where
  listed : claim.name ∈ pod.claimNames
  inNamespace : claim.metadata.namespace.getD "" = pod.namespace

structure Pod.Controls (pod : Pod) («namespace» : String) : Prop where
  inNamespace : pod.metadata.namespace = some «namespace»
  labelled : pod.metadata.label? "app" = some "csi-controller"

def Claim.Annotated (claim : Claim) : Prop :=
  claim.metadata.annotation? Names.provisionerAnnotation = some Names.nfsDriver

namespace NodePlan.Observation

variable {o : Observation} {«namespace» name : String}

/-- Some node of this name is selected by a declaration that is not being deleted. -/
def Selected (o : Observation) (name : String) : Prop :=
  ∃ node ∈ o.nodes, node.name = name ∧ ∃ d ∈ o.declarations, d.isDeleting = false ∧
    d.nodeSelector.selects node.metadata.labels = .ok true

/-- Some node of this name carries the label of the module, whatever its value. -/
def Labelled (o : Observation) (name : String) : Prop :=
  ∃ node ∈ o.nodes, node.name = name ∧ node.metadata.label? Names.nodeLabel ≠ none

/-- A pod on the node mounts a claim that is annotated with the NFS driver. -/
def Uses (o : Observation) (name : String) : Prop :=
  ∃ pod ∈ o.pods, pod.BoundTo name ∧ ∃ claim ∈ o.claims, pod.Mounts claim ∧ claim.Annotated

/-- A snapshot of a claim annotated with the NFS driver is not ready, or such a claim is pending. -/
inductive Awaited (o : Observation) : Prop where
  | snapshot {snapshot : Snapshot} {claim : Claim} (there : snapshot ∈ o.snapshots)
      (unready : snapshot.status.bind (·.readyToUse) ≠ some true) (given : claim ∈ o.claims)
      (source : snapshot.spec.source.persistentVolumeClaimName = some claim.name)
      (inNamespace : claim.metadata.namespace.getD "" = snapshot.metadata.namespace.getD "")
      (annotated : claim.Annotated)
  | claim {claim : Claim} (given : claim ∈ o.claims) (annotated : claim.Annotated)
      (pending : claim.phase? = some "Pending")

/-- The active controller runs on the node. -/
structure Controlled (o : Observation) («namespace» name : String) : Prop where
  active : o.controllerNode = some name
  hosts : ∃ pod ∈ o.pods, pod.BoundTo name ∧ pod.Controls «namespace»

/-- A node may lose the label if it is not selected. -/
structure Expendable (o : Observation) («namespace» name : String) : Prop where
  unused : ¬ o.Uses name
  idle : ¬ (o.Controlled «namespace» name ∧ o.Awaited)
  evaluated : ∀ d ∈ o.declarations, d.isDeleting = false →
    ∃ conditions, d.nodeSelector.conditions = .ok conditions

/-- A pod of the module runs on a node that is neither selected nor kept, and nothing waits for
it. -/
structure Astray (o : Observation) («namespace» : String) (pod : Pod) : Prop where
  inNamespace : pod.metadata.namespace = some «namespace»
  outside : ∃ name, pod.BoundTo name ∧ ¬ o.Selected name ∧
    name ∉ (o.plan «namespace»).kept.keys
  free : ¬ pod.Controls «namespace» ∨ ¬ o.Awaited

/-- Namespace and name tell the pods apart. -/
def PodsApart (o : Observation) : Prop :=
  ∀ pod ∈ o.pods, ∀ other ∈ o.pods, podReference other = podReference pod → other = pod

theorem mem_selectedNames : name ∈ o.selectedNames ↔ o.Selected name := by
  simp only [selectedNames, mem_sortedNames_filter, isSelected_iff, Selected]

theorem mem_labelledNames : name ∈ o.labelledNames ↔ o.Labelled name := by
  simp only [labelledNames, mem_sortedNames_filter, isLabelled, Option.isSome_iff_ne_none, Labelled]

theorem mem_leftovers : name ∈ o.leftovers ↔ o.Labelled name ∧ ¬ o.Selected name := by
  simp [leftovers, mem_labelledNames, mem_selectedNames]

theorem nodeOf?_eq_some_iff {pod : Pod} : nodeOf? pod = some name ↔ pod.BoundTo name := by
  rw [nodeOf?, Option.filter_eq_some_iff]
  simp only [decide_eq_true_eq]
  exact ⟨fun ⟨bound, named⟩ => ⟨bound, named⟩, fun ⟨bound, named⟩ => ⟨bound, named⟩⟩

theorem isNfsClaim_iff {claim : Claim} : isNfsClaim claim = true ↔ claim.Annotated :=
  decide_eq_true_iff

theorem hasNfsClaim_iff : o.hasNfsClaim «namespace» name = true ↔
    ∃ claim ∈ o.claims, claim.Annotated ∧ claim.metadata.namespace.getD "" = «namespace» ∧
      claim.name = name := by
  simp [hasNfsClaim, isNfsClaim_iff, and_assoc]

theorem usesNfsClaim_iff {pod : Pod} : o.usesNfsClaim pod = true ↔
    ∃ claim ∈ o.claims, pod.Mounts claim ∧ claim.Annotated := by
  simp only [usesNfsClaim, List.any_eq_true, hasNfsClaim_iff]
  constructor
  · rintro ⟨_, listed, claim, there, annotated, inNamespace, rfl⟩
    exact ⟨claim, there, ⟨listed, inNamespace⟩, annotated⟩
  · rintro ⟨claim, there, ⟨listed, inNamespace⟩, annotated⟩
    exact ⟨_, listed, claim, there, annotated, inNamespace, rfl⟩

theorem isControllerPod_iff {pod : Pod} :
    isControllerPod «namespace» pod = true ↔ pod.Controls «namespace» := by
  rw [isControllerPod, isInNamespace, Bool.and_eq_true, decide_eq_true_eq, decide_eq_true_eq]
  exact ⟨fun ⟨there, labelled⟩ => ⟨there, labelled⟩, fun ⟨there, labelled⟩ => ⟨there, labelled⟩⟩

theorem isReady_eq_false_iff {snapshot : Snapshot} :
    snapshot.isReady = false ↔ snapshot.status.bind (·.readyToUse) ≠ some true := by
  rw [Snapshot.isReady]
  rcases snapshot.status.bind (·.readyToUse) with - | - | - <;> simp

theorem hasPendingSnapshot_iff : o.hasPendingSnapshot = true ↔
    ∃ snapshot ∈ o.snapshots, snapshot.status.bind (·.readyToUse) ≠ some true ∧
      ∃ claim ∈ o.claims, snapshot.spec.source.persistentVolumeClaimName = some claim.name ∧
        claim.metadata.namespace.getD "" = snapshot.metadata.namespace.getD "" ∧
        claim.Annotated := by
  simp only [hasPendingSnapshot, List.any_eq_true, Bool.and_eq_true, Bool.not_eq_true',
    isReady_eq_false_iff]
  refine exists_congr fun snapshot => and_congr_right fun _ => and_congr_right fun _ => ?_
  cases snapshot.spec.source.persistentVolumeClaimName with
  | none => simp
  | some source =>
      rw [hasNfsClaim_iff]
      refine exists_congr fun claim => and_congr_right fun _ => ?_
      rw [Option.some.injEq, @eq_comm _ source]
      constructor
      · exact fun ⟨annotated, inNamespace, named⟩ => ⟨named, inNamespace, annotated⟩
      · exact fun ⟨named, inNamespace, annotated⟩ => ⟨annotated, inNamespace, named⟩

theorem hasPendingClaim_iff : o.hasPendingClaim = true ↔
    ∃ claim ∈ o.claims, claim.Annotated ∧ claim.phase? = some "Pending" := by
  simp [hasPendingClaim, isNfsClaim_iff]

theorem controllerRemovable_iff : o.controllerRemovable = true ↔ ¬ o.Awaited := by
  have awaited : o.Awaited ↔ o.hasPendingSnapshot = true ∨ o.hasPendingClaim = true := by
    rw [hasPendingSnapshot_iff, hasPendingClaim_iff]
    constructor
    · rintro (⟨there, unready, given, source, inNamespace, annotated⟩ | ⟨given, annotated, pending⟩)
      · exact Or.inl ⟨_, there, unready, _, given, source, inNamespace, annotated⟩
      · exact Or.inr ⟨_, given, annotated, pending⟩
    · rintro (⟨_, there, unready, _, given, source, inNamespace, annotated⟩ |
        ⟨_, given, annotated, pending⟩)
      · exact .snapshot there unready given source inNamespace annotated
      · exact .claim given annotated pending
  rw [awaited, controllerRemovable]
  cases o.hasPendingSnapshot <;> cases o.hasPendingClaim <;> simp

theorem holdsController_iff : o.holdsController «namespace» name = true ↔
    o.Controlled «namespace» name ∧ o.Awaited := by
  simp only [holdsController, Bool.and_eq_true, Bool.not_eq_true', decide_eq_true_eq,
    List.any_eq_true, nodeOf?_eq_some_iff, isControllerPod_iff, ← Bool.not_eq_true,
    controllerRemovable_iff, Classical.not_not]
  constructor
  · rintro ⟨⟨active, awaited⟩, hosts⟩
    exact ⟨⟨active, hosts⟩, awaited⟩
  · rintro ⟨⟨active, hosts⟩, awaited⟩
    exact ⟨⟨active, awaited⟩, hosts⟩

theorem skipped_eq_nil_iff : o.skipped = [] ↔ ∀ d ∈ o.declarations, d.isDeleting = false →
    ∃ conditions, d.nodeSelector.conditions = .ok conditions := by
  have parsed : ∀ d : Declaration, ¬ d.nodeSelector.conditions.toOption.isNone = true ↔
      ∃ conditions, d.nodeSelector.conditions = .ok conditions := by
    intro d
    cases d.nodeSelector.conditions <;> simp [Except.toOption]
  simp only [skipped, liveDeclarations, List.map_eq_nil_iff, List.filter_eq_nil_iff, parsed,
    List.mem_filter, Bool.not_eq_true', and_imp]

theorem protection?_eq_none_iff_expendable :
    o.protection? «namespace» name = none ↔ o.Expendable «namespace» name := by
  have unused : (∀ pod ∈ o.pods, nodeOf? pod = some name → o.usesNfsClaim pod = false) ↔
      ¬ o.Uses name := by
    simp only [nodeOf?_eq_some_iff, ← Bool.not_eq_true, usesNfsClaim_iff, Uses, not_exists,
      not_and]
  rw [protection?_eq_none_iff, unused, ← Bool.not_eq_true, holdsController_iff, skipped_eq_nil_iff]
  exact ⟨fun ⟨unused, idle, evaluated⟩ => ⟨unused, idle, evaluated⟩,
    fun ⟨unused, idle, evaluated⟩ => ⟨unused, idle, evaluated⟩⟩

theorem mem_toLabel :
    name ∈ (o.plan «namespace»).toLabel ↔ o.Selected name ∧ ¬ o.Labelled name := by
  simp [plan, mem_selectedNames, mem_labelledNames]

theorem mem_toUnlabel : name ∈ (o.plan «namespace»).toUnlabel ↔
    o.Labelled name ∧ ¬ o.Selected name ∧ o.Expendable «namespace» name := by
  simp only [plan, List.mem_filter, mem_leftovers, Option.isNone_iff_eq_none,
    protection?_eq_none_iff_expendable, and_assoc]

theorem mem_kept : name ∈ (o.plan «namespace»).kept.keys ↔
    o.Labelled name ∧ ¬ o.Selected name ∧ ¬ o.Expendable «namespace» name := by
  rw [plan, mem_keptNodes, mem_leftovers, ne_eq, protection?_eq_none_iff_expendable, and_assoc]

theorem isStray_iff {pod : Pod} :
    o.isStray «namespace» pod = true ↔ o.Astray «namespace» pod := by
  have unserved : ∀ node,
      (o.selectedNames.contains node || (o.keptNodes «namespace»).contains node) = false ↔
        ¬ o.Selected node ∧ node ∉ (o.plan «namespace»).kept.keys := by
    intro node
    rw [Bool.or_eq_false_iff, List.contains_eq_mem, decide_eq_false_iff_not, mem_selectedNames,
      Dict.mem_keys_iff, Bool.not_eq_true]
    rfl
  rw [isStray, Bool.and_eq_true, Bool.and_eq_true, isInNamespace, decide_eq_true_eq,
    Bool.or_eq_true, Bool.not_eq_true', ← Bool.not_eq_true, isControllerPod_iff,
    controllerRemovable_iff]
  constructor
  · rintro ⟨⟨inNamespace, outside⟩, free⟩
    cases bound : nodeOf? pod with
    | none => simp [bound] at outside
    | some node =>
        simp only [bound, Bool.not_eq_true', unserved] at outside
        exact ⟨inNamespace, ⟨node, nodeOf?_eq_some_iff.mp bound, outside⟩, free⟩
  · rintro ⟨inNamespace, ⟨node, bound, outside⟩, free⟩
    refine ⟨⟨inNamespace, ?_⟩, free⟩
    simp only [nodeOf?_eq_some_iff.mpr bound, Bool.not_eq_true', unserved]
    exact outside

theorem mem_podsToDelete {reference : String} : reference ∈ (o.plan «namespace»).podsToDelete ↔
    ∃ pod ∈ o.pods, podReference pod = reference ∧ o.Astray «namespace» pod := by
  simp only [plan, List.mem_map, List.mem_filter, isStray_iff]
  constructor
  · rintro ⟨pod, ⟨there, astray⟩, same⟩
    exact ⟨pod, there, same, astray⟩
  · rintro ⟨pod, there, same, astray⟩
    exact ⟨pod, ⟨there, astray⟩, same⟩

theorem PodsApart.mem_podsToDelete (apart : o.PodsApart) {pod : Pod} (there : pod ∈ o.pods) :
    podReference pod ∈ (o.plan «namespace»).podsToDelete ↔ o.Astray «namespace» pod := by
  rw [Observation.mem_podsToDelete]
  constructor
  · rintro ⟨other, elsewhere, same, astray⟩
    exact apart pod there other elsewhere same ▸ astray
  · exact fun astray => ⟨pod, there, rfl, astray⟩

/-- A plan takes the label from the labelled nodes that are neither selected nor needed, keeps it on
the others of them, and deletes just the pods that went astray. -/
theorem plan_exact (o : Observation) («namespace» : String) :
    (∀ name, name ∈ (o.plan «namespace»).toUnlabel ↔
      o.Labelled name ∧ ¬ o.Selected name ∧ o.Expendable «namespace» name) ∧
    (∀ name, name ∈ (o.plan «namespace»).kept.keys ↔
      o.Labelled name ∧ ¬ o.Selected name ∧ ¬ o.Expendable «namespace» name) ∧
    (∃ doomed : List Pod, doomed.Sublist o.pods ∧
      (o.plan «namespace»).podsToDelete = doomed.map podReference ∧
      ∀ pod ∈ o.pods, pod ∈ doomed ↔ o.Astray «namespace» pod) ∧
    (o.PodsApart → ∀ pod ∈ o.pods,
      (podReference pod ∈ (o.plan «namespace»).podsToDelete ↔ o.Astray «namespace» pod)) := by
  refine ⟨fun name => mem_toUnlabel, fun name => mem_kept, ?_, fun apart pod there =>
    apart.mem_podsToDelete there⟩
  refine ⟨o.pods.filter (o.isStray «namespace»), List.filter_sublist, rfl, fun pod there => ?_⟩
  rw [List.mem_filter, isStray_iff]
  exact and_iff_right there

/-- Two nodes that nothing selects any more: on one of them a pod mounts a claim of the NFS driver,
on the other a pod of the module is left over. -/
def deserted : Observation where
  nodes := [
    { metadata := { name := some "idle", labels := some (Dict.ofList [(Names.nodeLabel, "")]) } },
    { metadata := { name := some "used", labels := some (Dict.ofList [(Names.nodeLabel, "")]) } }]
  pods := [
    { metadata := { name := some "csi-node-x", «namespace» := some "d8-csi-nfs" }
      spec := some { nodeName := some "idle" } },
    { metadata := { name := some "web", «namespace» := some "app" }
      spec := some
        { nodeName := some "used"
          volumes := some [{ persistentVolumeClaim := some { claimName := "data" } }] } }]
  claims := [
    { metadata :=
        { name := some "data"
          «namespace» := some "app"
          annotations := some (Dict.ofList [(Names.provisionerAnnotation, Names.nfsDriver)]) } }]

theorem plan_exact_deserted : deserted.PodsApart ∧ deserted.Expendable "d8-csi-nfs" "idle" ∧
    ¬ deserted.Expendable "d8-csi-nfs" "used" ∧
    ∀ pod ∈ deserted.pods, deserted.Astray "d8-csi-nfs" pod ↔ pod.name = "csi-node-x" := by
  obtain ⟨unlabelled, kept, -, deleted⟩ := plan_exact deserted "d8-csi-nfs"
  have apart : deserted.PodsApart := by
    unfold PodsApart
    decide
  refine ⟨apart, ((unlabelled "idle").mp (by decide +kernel)).2.2,
    ((kept "used").mp (by decide +kernel)).2.2, fun pod there => ?_⟩
  rw [← deleted apart pod there]
  revert pod
  decide +kernel

end NodePlan.Observation

end NfsStorage

import NfsStorage.Proofs.Extender.Filtering
import NfsStorage.Proofs.Nodes.Exactness
import NfsStorage.Proofs.Nodes.Removal

/-!
# The extender and the node controller

Both read the selectors, each in its own way. Where the extender admits a pod on account of a
declaration that is not being deleted, the node controller counts the node as selected, so that the
node has or gets the label of the module and keeps the pods of the module.

Both ask which claims the NFS driver provisions. The node controller takes the current annotation
for it and looks no further. As far as a claim has that annotation the extender finds the same;
other claims of the driver keep no node labelled.
-/

namespace NfsStorage

namespace NodePlan.Observation

variable {o : Observation} {«namespace» name : String}

/-- A plan serves a node: the node is selected and has the label or gets it, does not lose it, and
none of the pods that run on it are deleted. -/
structure Serves (o : Observation) («namespace» name : String) : Prop where
  selected : name ∈ o.selectedNames
  labelled : o.Labelled name ∨ name ∈ (o.plan «namespace»).toLabel
  stays : name ∉ (o.plan «namespace»).toUnlabel
  deleted : ∃ doomed : List Pod, doomed.Sublist o.pods ∧
    (o.plan «namespace»).podsToDelete = doomed.map podReference ∧
    ∀ pod ∈ doomed, ¬ pod.BoundTo name
  spared : o.PodsApart → ∀ pod ∈ o.pods, pod.BoundTo name →
    podReference pod ∉ (o.plan «namespace»).podsToDelete

theorem Astray.not_boundTo {pod : Pod} (astray : o.Astray «namespace» pod)
    (selected : o.Selected name) : ¬ pod.BoundTo name := by
  intro bound
  obtain ⟨other, elsewhere, unselected, -⟩ := astray.outside
  obtain rfl := Option.some.inj (bound.bound.symm.trans elsewhere.bound)
  exact unselected selected

theorem serves_of_selected (selected : o.Selected name) : o.Serves «namespace» name where
  selected := mem_selectedNames.mpr selected
  labelled := by
    rw [mem_toLabel]
    by_cases labelled : o.Labelled name
    · exact Or.inl labelled
    · exact Or.inr ⟨selected, labelled⟩
  stays unlabelled := (mem_toUnlabel.mp unlabelled).2.1 selected
  deleted := by
    refine ⟨_, List.filter_sublist, rfl, fun pod doomed => ?_⟩
    exact (isStray_iff.mp (List.mem_filter.mp doomed).2).not_boundTo selected
  spared apart pod there bound deleted :=
    ((apart.mem_podsToDelete there).mp deleted).not_boundTo selected bound

end NodePlan.Observation

theorem Cluster.Admits.selected {k : Cluster} {o : NodePlan.Observation} {pod : Pod}
    {claim : Claim} {d : Declaration} {name : String} (admits : k.Admits pod name)
    (nfs : k.NfsClaim pod claim) (backs : k.Backs d claim) (staying : d.isDeleting = false)
    (versioned : (k.store .nodes).Versioned)
    (declarations : o.declarations = k.observation.declarations)
    (nodes : o.nodes = k.observation.nodes) : o.Selected name := by
  obtain ⟨node, found, all⟩ := admits
  obtain ⟨other, behind, selects⟩ := all claim nfs
  obtain rfl := backs.eq behind
  obtain ⟨n, -, declared⟩ := backs
  obtain ⟨there, named⟩ := (Cluster.mem_nodes_iff versioned).mpr found
  rw [NodePlan.Observation.Selected, declarations, nodes]
  exact ⟨node, there, named, other, Dict.mem_values_iff.mpr ⟨n, declared⟩, staying, selects⟩

namespace Extender

/-- A candidate that passes for a pod with an NFS claim is a node that a plan from the same
declarations and nodes serves, unless all declarations behind the claims are being deleted. -/
theorem admitted_served {k l : Cluster} {q : Question} {v : Verdict} (reachable : k.Reachable)
    (filtered : (filter q).run.run .direct k = (.ok v, l)) {pod : Pod} (asked : q.pod = some pod)
    {claim : Claim} (nfs : k.NfsClaim pod claim) {d : Declaration} (backs : k.Backs d claim)
    (staying : d.isDeleting = false) {o : NodePlan.Observation}
    (declarations : o.declarations = k.observation.declarations)
    (nodes : o.nodes = k.observation.nodes) {name : String} (passing : name ∈ v.nodeNames)
    («namespace» : String) : o.Serves «namespace» name := by
  obtain ⟨-, _, candidates, passes, given, -, -, divides, -, admits⟩ :=
    succeeds_filter reachable filtered
  obtain rfl := Option.some.inj (asked.symm.trans given)
  rw [divides.passing] at passing
  have admits : k.Admits pod name := (admits ⟨claim, nfs⟩ name).mp (List.mem_filter.mp passing).2
  exact NodePlan.Observation.serves_of_selected
    (admits.selected nfs backs staying (reachable.versioned _) declarations nodes)

theorem admitted_served_mounted : ∃ v,
    (filter asking).run.run .direct mounted = (.ok v, mounted) ∧
    v.nodeNames = ["chosen", "chosen"] ∧ mounted.observation.Serves "d8-csi-nfs" "chosen" := by
  obtain ⟨v, filtered, passing, -⟩ := filter_asking
  obtain ⟨claim, d, nfs, backs, staying⟩ := nfsClaim_mounting
  have there : "chosen" ∈ v.nodeNames := by rw [passing]; decide
  exact ⟨v, filtered, passing, admitted_served reachable_mounted filtered rfl nfs backs staying rfl
    rfl there "d8-csi-nfs"⟩

end Extender

def Claim.statedProvisioner? (claim : Claim) : Option String :=
  Extender.givenName? (claim.metadata.annotation? Names.provisionerAnnotation)

namespace Cluster

/-- The extender finds that the driver provisions the claim. -/
def Resolves (k : Cluster) (claim : Claim) (driver : String) : Prop :=
  ((Extender.provisioner claim).run.run .direct k).1 = .ok (some driver)

/-- A pod on the node mounts the claim. -/
def MountedOn (k : Cluster) (claim : Claim) (node : String) : Prop :=
  ∃ key, ∃ pod : Pod, k.object? .pods key = some pod ∧ pod.BoundTo node ∧
    ∃ name ∈ pod.claimNames, k.claimIn? pod.namespace name = some claim

end Cluster

namespace Extender

open NodePlan.Observation (isNfsClaim isNfsClaim_iff)

variable {k : Cluster} {claim : Claim}

theorem resolves_iff_of_stated {stated driver : String}
    (given : claim.statedProvisioner? = some stated) :
    k.Resolves claim driver ↔ driver = stated := by
  have first : (claim.metadata.annotation? Names.provisionerAnnotation).filter (· ≠ "") =
      some stated := given
  have annotated : annotatedProvisioner? claim = some stated := by
    rw [annotatedProvisioner?, List.findSome?_cons, first]
  rw [Cluster.Resolves, provisioner, annotated]
  change Except.ok (some stated) = Except.ok (some driver) ↔ _
  rw [Except.ok.injEq, Option.some.injEq, eq_comm]

theorem statedProvisioner?_eq_nfs_iff :
    claim.statedProvisioner? = some Names.nfsDriver ↔ claim.Annotated :=
  givenName?_eq_some_iff.trans (and_iff_left (by decide))

theorem isNfsClaim_iff_resolves : isNfsClaim claim = true ↔
    claim.statedProvisioner? ≠ none ∧ k.Resolves claim Names.nfsDriver := by
  rw [isNfsClaim_iff, ← statedProvisioner?_eq_nfs_iff]
  cases given : claim.statedProvisioner? with
  | none => simp
  | some stated =>
      rw [resolves_iff_of_stated given, Option.some.injEq, eq_comm]
      exact (and_iff_right (Option.some_ne_none _)).symm

theorem uses_of_mountedOn (versioned : (k.store .claims).Versioned) {name : String}
    (mounted : k.MountedOn claim name) (annotated : claim.Annotated) : k.observation.Uses name := by
  obtain ⟨key, pod, there, bound, claimName, listed, given⟩ := mounted
  obtain ⟨found, inNamespace⟩ := Option.filter_eq_some_iff.mp given
  have named : claim.name = claimName := versioned.named found
  refine ⟨pod, Dict.mem_values_iff.mpr ⟨key, there⟩, bound, claim,
    Dict.mem_values_iff.mpr ⟨claimName, found⟩, ⟨named ▸ listed, ?_⟩, annotated⟩
  exact of_decide_eq_true inNamespace

/-- A node loses the label only if all claims of the NFS driver that pods on it mount are such by
something else than the annotation. The claims that are such by the annotation are those that the
node controller counts. -/
theorem unlabelled_unused (op : Operator) {k : Cluster} (reachable : k.Reachable) :
    (∀ name, NodeTick.Unlabels op k name → ∀ claim, k.MountedOn claim name →
      k.Resolves claim Names.nfsDriver → claim.statedProvisioner? = none) ∧
    ∀ claim, isNfsClaim claim = true ↔
      claim.statedProvisioner? ≠ none ∧ k.Resolves claim Names.nfsDriver := by
  refine ⟨fun name unlabels claim mounted resolves => ?_, fun claim => isNfsClaim_iff_resolves⟩
  have unused := (NodePlan.Observation.mem_toUnlabel.mp
    (unlabels.mem_toUnlabel reachable)).2.2.unused
  refine Decidable.byContradiction fun stated => unused ?_
  have annotated := isNfsClaim_iff.mp (isNfsClaim_iff_resolves.mpr ⟨stated, resolves⟩)
  exact uses_of_mountedOn (reachable.versioned _) mounted annotated

/-- A labelled node that nothing selects. A pod on it mounts a claim of the NFS driver, as the
storage class of the claim tells. -/
def overlooked : Cluster :=
  let classed := Cluster.setStore {} .storageClasses (Store.ofList [
    { metadata := { name := some "a" }, provisioner := Names.nfsDriver }])
  let claimed := classed.setStore .claims (Store.ofList [
    { metadata := { name := some "data", «namespace» := some "app" }
      spec := some { storageClassName := some "a" } }])
  let used := claimed.setStore .pods (Store.ofList [
    { metadata := { name := some "web", «namespace» := some "app" }
      spec := some
        { nodeName := some "n"
          volumes := some [{ persistentVolumeClaim := some { claimName := "data" } }] } }])
  used.setStore .nodes (Store.ofList [
    { metadata := { name := some "n", labels := some (Dict.ofList [(Names.nodeLabel, "")]) } }])

theorem reachable_overlooked : overlooked.Reachable :=
  .filledAlive .nodes rfl (.filledAlive .pods rfl (.filledAlive .claims rfl
    (.filledAlive .storageClasses rfl .empty)))

theorem unlabels_overlooked : NodeTick.Unlabels {} overlooked "n" where
  before := ⟨_, rfl, by decide⟩
  after := by
    rintro ⟨node, found, labelled⟩
    have removed : (((NodeTick.tick {}).run.run .direct overlooked).2.object? .nodes "n").bind
        (·.metadata.label? Names.nodeLabel) = none := by
      decide +kernel
    rw [found] at removed
    exact labelled removed

theorem mountedOn_overlooked : ∃ claim, overlooked.MountedOn claim "n" ∧
    overlooked.Resolves claim Names.nfsDriver :=
  ⟨_, ⟨"web", _, rfl, ⟨rfl, by decide⟩, "data", by decide, rfl⟩, rfl⟩

/-- A node may lose the label although a pod on it mounts a claim of the NFS driver. -/
theorem overlooked_unlabelled : ¬ ∀ (op : Operator) (k : Cluster) (name : String) (claim : Claim),
    k.Reachable → NodeTick.Unlabels op k name → k.MountedOn claim name →
      ¬ k.Resolves claim Names.nfsDriver := by
  intro unused
  obtain ⟨claim, mounted, resolves⟩ := mountedOn_overlooked
  exact unused {} overlooked "n" claim reachable_overlooked unlabels_overlooked mounted resolves

theorem unlabelled_unused_overlooked : ∃ claim, overlooked.MountedOn claim "n" ∧
    overlooked.Resolves claim Names.nfsDriver ∧ claim.statedProvisioner? = none ∧
    isNfsClaim claim = false := by
  obtain ⟨unused, counted⟩ := unlabelled_unused {} reachable_overlooked
  obtain ⟨claim, mounted, resolves⟩ := mountedOn_overlooked
  have none := unused "n" unlabels_overlooked claim mounted resolves
  refine ⟨claim, mounted, resolves, none, ?_⟩
  rw [← Bool.not_eq_true, counted]
  exact fun stated => stated.1 none

end Extender

end NfsStorage

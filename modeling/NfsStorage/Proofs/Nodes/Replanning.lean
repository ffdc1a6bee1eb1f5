import NfsStorage.Proofs.Nodes.Exactness

/-!
# Planning anew

When a plan is made anew, part of the one before may have been carried out: nodes have got the label
or lost it, and stray pods are gone. The new plan has no other nodes to label or to unlabel than
those that are left of the old one, and no other pods to delete. If no snapshots came up in the
meantime, then it has all that is left.
-/

namespace NfsStorage.NodePlan.Observation

/-- What is observed after some nodes got the label and others lost it, as a plan had it. Stray pods
may be gone, and snapshots may have come up. -/
structure Later (o : Observation) («namespace» : String) (added removed : List String)
    (later : Observation) : Prop where
  declarations : later.declarations = o.declarations
  claims : later.claims = o.claims
  controllerNode : later.controllerNode = o.controllerNode
  snapshots : o.snapshots ⊆ later.snapshots
  fewer : later.pods ⊆ o.pods
  remaining : ∀ pod ∈ o.pods, ¬ o.Astray «namespace» pod → pod ∈ later.pods
  adds : added ⊆ (o.plan «namespace»).toLabel
  removes : removed ⊆ (o.plan «namespace»).toUnlabel
  selected : ∀ name, later.Selected name ↔ o.Selected name
  labelled : ∀ name, later.Labelled name ↔ (o.Labelled name ∨ name ∈ added) ∧ name ∉ removed

namespace Later

variable {o later : Observation} {«namespace» name : String} {added removed : List String}
  {pod : Pod} (ensues : o.Later «namespace» added removed later)

include ensues

theorem awaited (awaited : o.Awaited) : later.Awaited := by
  cases awaited with
  | snapshot there unready given source inNamespace annotated =>
      exact .snapshot (ensues.snapshots there) unready (ensues.claims ▸ given) source inNamespace
        annotated
  | claim given annotated pending => exact .claim (ensues.claims ▸ given) annotated pending

theorem awaited_iff (same : later.snapshots ⊆ o.snapshots) : later.Awaited ↔ o.Awaited := by
  refine ⟨fun awaited => ?_, ensues.awaited⟩
  cases awaited with
  | snapshot there unready given source inNamespace annotated =>
      exact .snapshot (same there) unready (ensues.claims ▸ given) source inNamespace annotated
  | claim given annotated pending => exact .claim (ensues.claims ▸ given) annotated pending

theorem mem_pods_of_kept (kept : name ∈ (o.plan «namespace»).kept.keys) (there : pod ∈ o.pods)
    (bound : pod.BoundTo name) : pod ∈ later.pods := by
  refine ensues.remaining pod there fun astray => ?_
  obtain ⟨other, elsewhere, -, unkept⟩ := astray.outside
  obtain rfl := Option.some.inj (bound.bound.symm.trans elsewhere.bound)
  exact unkept kept

theorem uses_of_kept (kept : name ∈ (o.plan «namespace»).kept.keys) (uses : o.Uses name) :
    later.Uses name := by
  obtain ⟨pod, there, bound, claim, given, mounts⟩ := uses
  exact ⟨pod, ensues.mem_pods_of_kept kept there bound, bound, claim, ensues.claims ▸ given, mounts⟩

theorem controlled_of_kept (kept : name ∈ (o.plan «namespace»).kept.keys)
    (controlled : o.Controlled «namespace» name) : later.Controlled «namespace» name := by
  obtain ⟨active, pod, there, bound, controls⟩ := controlled
  exact ⟨ensues.controllerNode.trans active, pod, ensues.mem_pods_of_kept kept there bound, bound,
    controls⟩

theorem not_expendable (kept : name ∈ (o.plan «namespace»).kept.keys) :
    ¬ later.Expendable «namespace» name := by
  intro expendable
  apply (mem_kept.mp kept).2.2
  constructor
  · exact fun uses => expendable.unused (ensues.uses_of_kept kept uses)
  · exact fun busy => expendable.idle ⟨ensues.controlled_of_kept kept busy.1, ensues.awaited busy.2⟩
  · exact ensues.declarations ▸ expendable.evaluated

theorem expendable (same : later.snapshots ⊆ o.snapshots)
    (expendable : o.Expendable «namespace» name) : later.Expendable «namespace» name where
  unused uses := by
    obtain ⟨pod, there, bound, claim, given, mounts⟩ := uses
    exact expendable.unused ⟨pod, ensues.fewer there, bound, claim, ensues.claims ▸ given, mounts⟩
  idle busy := by
    obtain ⟨⟨active, pod, there, hosted⟩, awaited⟩ := busy
    refine expendable.idle ⟨⟨ensues.controllerNode.symm.trans active, pod, ensues.fewer there,
      hosted⟩, (ensues.awaited_iff same).mp awaited⟩
  evaluated := by
    rw [ensues.declarations]
    exact expendable.evaluated

theorem unselected_of_removed (gone : name ∈ removed) : ¬ o.Selected name :=
  (mem_toUnlabel.mp (ensues.removes gone)).2.1

theorem selected_of_added (set : name ∈ added) : o.Selected name :=
  (mem_toLabel.mp (ensues.adds set)).1

/-- The nodes without the label that are selected are those that have not got it yet. -/
theorem mem_toLabel_iff : name ∈ (later.plan «namespace»).toLabel ↔
    name ∈ (o.plan «namespace»).toLabel ∧ name ∉ added := by
  rw [mem_toLabel, mem_toLabel, ensues.selected, ensues.labelled]
  constructor
  · rintro ⟨selected, unlabelled⟩
    have stays : name ∉ removed := fun gone => ensues.unselected_of_removed gone selected
    exact ⟨⟨selected, fun labelled => unlabelled ⟨Or.inl labelled, stays⟩⟩,
      fun set => unlabelled ⟨Or.inr set, stays⟩⟩
  · rintro ⟨⟨selected, unlabelled⟩, left⟩
    exact ⟨selected, fun labelled => labelled.1.elim unlabelled left⟩

theorem of_mem_toUnlabel (unlabels : name ∈ (later.plan «namespace»).toUnlabel) :
    name ∈ (o.plan «namespace»).toUnlabel ∧ name ∉ removed := by
  obtain ⟨labelled, unselected, expendable⟩ := mem_toUnlabel.mp unlabels
  obtain ⟨before, left⟩ := (ensues.labelled name).mp labelled
  rw [ensues.selected] at unselected
  have labelled : o.Labelled name :=
    before.resolve_right fun set => unselected (ensues.selected_of_added set)
  refine ⟨mem_toUnlabel.mpr ⟨labelled, unselected, Classical.byContradiction fun needed => ?_⟩, left⟩
  exact ensues.not_expendable (mem_kept.mpr ⟨labelled, unselected, needed⟩) expendable

theorem mem_toUnlabel_iff (same : later.snapshots ⊆ o.snapshots) :
    name ∈ (later.plan «namespace»).toUnlabel ↔
      name ∈ (o.plan «namespace»).toUnlabel ∧ name ∉ removed := by
  refine ⟨ensues.of_mem_toUnlabel, fun ⟨unlabels, left⟩ => ?_⟩
  obtain ⟨labelled, unselected, expendable⟩ := mem_toUnlabel.mp unlabels
  exact mem_toUnlabel.mpr ⟨(ensues.labelled name).mpr ⟨Or.inl labelled, left⟩,
    mt (ensues.selected name).mp unselected, ensues.expendable same expendable⟩

theorem mem_kept (kept : name ∈ (o.plan «namespace»).kept.keys) :
    name ∈ (later.plan «namespace»).kept.keys := by
  obtain ⟨labelled, unselected, needed⟩ := Observation.mem_kept.mp kept
  have stays : name ∉ removed := fun gone =>
    needed (mem_toUnlabel.mp (ensues.removes gone)).2.2
  exact Observation.mem_kept.mpr ⟨(ensues.labelled name).mpr ⟨Or.inl labelled, stays⟩,
    mt (ensues.selected name).mp unselected, ensues.not_expendable kept⟩

theorem kept_of_mem_kept (same : later.snapshots ⊆ o.snapshots)
    (kept : name ∈ (later.plan «namespace»).kept.keys) :
    name ∈ (o.plan «namespace»).kept.keys := by
  obtain ⟨labelled, unselected, needed⟩ := Observation.mem_kept.mp kept
  rw [ensues.selected] at unselected
  obtain ⟨before, -⟩ := (ensues.labelled name).mp labelled
  exact Observation.mem_kept.mpr
    ⟨before.resolve_right fun set => unselected (ensues.selected_of_added set), unselected,
      fun expendable => needed (ensues.expendable same expendable)⟩

theorem astray (astray : later.Astray «namespace» pod) : o.Astray «namespace» pod := by
  obtain ⟨inNamespace, ⟨node, bound, unselected, unkept⟩, free⟩ := astray
  exact ⟨inNamespace, ⟨node, bound, mt (ensues.selected node).mpr unselected,
    mt ensues.mem_kept unkept⟩, free.imp_right (mt ensues.awaited)⟩

theorem astray_iff (same : later.snapshots ⊆ o.snapshots) :
    later.Astray «namespace» pod ↔ o.Astray «namespace» pod := by
  refine ⟨ensues.astray, fun astray => ?_⟩
  obtain ⟨inNamespace, ⟨node, bound, unselected, unkept⟩, free⟩ := astray
  exact ⟨inNamespace, ⟨node, bound, mt (ensues.selected node).mp unselected,
    mt (ensues.kept_of_mem_kept same) unkept⟩, free.imp_right (mt (ensues.awaited_iff same).mp)⟩

theorem podsToDelete :
    (later.plan «namespace»).podsToDelete ⊆ (o.plan «namespace»).podsToDelete := by
  intro reference deleted
  obtain ⟨pod, there, referred, astray⟩ := mem_podsToDelete.mp deleted
  exact mem_podsToDelete.mpr ⟨pod, ensues.fewer there, referred, ensues.astray astray⟩

/-- A stray pod that was not to be seen any more is not deleted again; all others are. -/
theorem mem_podsToDelete (same : later.snapshots ⊆ o.snapshots) {reference : String}
    (deletes : reference ∈ (o.plan «namespace»).podsToDelete) :
    reference ∈ (later.plan «namespace»).podsToDelete ∨
      ∃ pod ∈ o.pods, podReference pod = reference ∧ pod ∉ later.pods := by
  obtain ⟨pod, there, referred, astray⟩ := Observation.mem_podsToDelete.mp deletes
  by_cases still : pod ∈ later.pods
  · exact Or.inl (Observation.mem_podsToDelete.mpr
      ⟨pod, still, referred, (ensues.astray_iff same).mpr astray⟩)
  · exact Or.inr ⟨pod, there, referred, still⟩

end Later

end NfsStorage.NodePlan.Observation

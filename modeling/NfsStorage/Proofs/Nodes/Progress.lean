import NfsStorage.Proofs.Derived.Settle
import NfsStorage.Proofs.Nodes.NextTick

/-!
# Plans that are carried out in part

Carrying out a plan is one call after the other, each of which may fail. Whatever fails, what was
done is a beginning of the plan: first labels are set, then labels are taken away, and at last pods
are deleted. What has become of the nodes and of the pods of the module can be told from how far it
went.
-/

namespace NfsStorage

open NodePlan (Plan)
open Pass (Succeeds)

namespace Cluster

def nodeLabels? (k : Cluster) (name : String) : Option (Option (Dict String)) :=
  (k.object? .nodes name).map (·.metadata.labels)

/-- A pod of the module, up to its version and the time of its deletion. -/
def modulePod? (k : Cluster) (name : String) : Option Pod :=
  (k.object? .modulePods name).map Resource.timeless

/-- The server refuses nothing that a tick may ask for. -/
structure ServesTicks (k : Cluster) : Prop extends k.Observable where
  gets : k.refused .nodes .get = none
  replaces : k.refused .nodes .replace = none
  deletes : k.refused .modulePods .delete = none

end Cluster

namespace NodeTick

/-- The first so many steps of a plan. -/
structure Beginning (plan part : Plan) : Prop where
  adds : part.toLabel <+: plan.toLabel
  removes : part.toUnlabel <+: plan.toUnlabel
  deletes : part.podsToDelete <+: plan.podsToDelete
  addsFirst : part.toUnlabel ≠ [] → part.toLabel = plan.toLabel
  deletesLast : part.podsToDelete ≠ [] →
    part.toLabel = plan.toLabel ∧ part.toUnlabel = plan.toUnlabel

def withoutPod (k : Cluster) (reference : String) : Cluster :=
  (k.serve (.delete .modulePods (nameInReference reference))).2

def labelled (plan : Plan) (k : Cluster) : Cluster :=
  (changes plan).foldl (fun k change => relabelled k change.1 change.2) k

def carriedOut (plan : Plan) (k : Cluster) : Cluster :=
  plan.podsToDelete.foldl withoutPod (labelled plan k)

section CarryingOut

variable {k l : Cluster} {plan part : Plan}

theorem Beginning.refl (plan : Plan) : Beginning plan plan where
  adds := List.prefix_rfl
  removes := List.prefix_rfl
  deletes := List.prefix_rfl
  addsFirst _ := rfl
  deletesLast _ := ⟨rfl, rfl⟩

theorem Beginning.changes (begins : Beginning plan part) :
    (changes part).Sublist (changes plan) :=
  (begins.adds.sublist.map _).append (begins.removes.sublist.map _)

theorem labelled_eq (plan : Plan) (k : Cluster) :
    labelled plan k = plan.toUnlabel.foldl (fun k name => relabelled k name false)
      (plan.toLabel.foldl (fun k name => relabelled k name true) k) := by
  rw [labelled, changes, List.foldl_append, List.foldl_map, List.foldl_map]

theorem withstands_deletePods (pods : List String) (k : Cluster) :
    Pass.Withstands (fun result l => ∃ done, done <+: pods ∧ l = done.foldl withoutPod k ∧
      (result = .ok () → done = pods)) (deletePods pods) k := by
  induction pods generalizing k with
  | nil => exact ⟨[], List.prefix_rfl, rfl, fun _ => rfl⟩
  | cons pod rest inductionHypothesis =>
      apply Pass.Withstands.bind
      refine ⟨?_, fun e => ⟨[], List.nil_prefix, rfl, nofun⟩⟩
      have deleted : (k.serve (.delete .modulePods (nameInReference pod))).2 = withoutPod k pod :=
        rfl
      cases answered : (k.serve (.delete .modulePods (nameInReference pod))).1 with
      | ok answer =>
          rw [deleted]
          apply (inductionHypothesis (withoutPod k pod)).mono
          rintro result l ⟨done, begins, rfl, all⟩
          exact ⟨pod :: done, (List.cons_prefix_cons.mpr ⟨rfl, begins⟩), rfl,
            fun succeeds => congrArg (pod :: ·) (all succeeds)⟩
      | error e =>
          have served := k.served (.delete .modulePods (nameInReference pod))
          rw [answered] at served
          rw [served.eq_of_error]
          exact ⟨[], List.nil_prefix, rfl, nofun⟩

/-- Whatever fails, a plan is carried out from its beginning on, and all of it where nothing is
reported. -/
theorem withstands_carryOut (plan : Plan) (k : Cluster) :
    Pass.Withstands (fun result l => ∃ part, Beginning plan part ∧ l = carriedOut part k ∧
      (result = .ok () → part = plan)) (carryOut plan) k := by
  apply Pass.Withstands.bind
  apply (withstands_setLabels true plan.toLabel k).mono
  rintro result _ ⟨added, adds, rfl, allAdded⟩
  cases result with
  | error cause =>
      refine ⟨{ plan with toLabel := added, toUnlabel := [], podsToDelete := [] }, ?_, ?_, nofun⟩
      · exact ⟨adds, List.nil_prefix, List.nil_prefix, fun filled => absurd rfl filled,
          fun filled => absurd rfl filled⟩
      · rw [carriedOut, labelled_eq]
        rfl
  | ok _ =>
      obtain rfl := allAdded rfl
      apply Pass.Withstands.bind
      apply (withstands_setLabels false plan.toUnlabel _).mono
      rintro result _ ⟨removed, removes, rfl, allRemoved⟩
      cases result with
      | error cause =>
          refine ⟨{ plan with toUnlabel := removed, podsToDelete := [] }, ?_, ?_, nofun⟩
          · exact ⟨List.prefix_rfl, removes, List.nil_prefix, fun _ => rfl,
              fun filled => absurd rfl filled⟩
          · rw [carriedOut, labelled_eq]
            rfl
      | ok _ =>
          obtain rfl := allRemoved rfl
          apply (withstands_deletePods plan.podsToDelete _).mono
          rintro result _ ⟨deleted, deletes, rfl, allDeleted⟩
          refine ⟨{ plan with podsToDelete := deleted }, ?_, ?_, fun succeeds => ?_⟩
          · exact ⟨List.prefix_rfl, List.prefix_rfl, deletes, fun _ => rfl, fun _ => ⟨rfl, rfl⟩⟩
          · rw [carriedOut, labelled_eq]
          · obtain rfl := allDeleted succeeds
            rfl

theorem withstands_carryOut_return (plan : Plan) (k : Cluster) :
    Pass.Withstands (fun _ l => ∃ part, Beginning plan part ∧ l = carriedOut part k)
      (do carryOut plan; return plan) k := by
  apply Pass.Withstands.bind
  apply (withstands_carryOut plan k).mono
  rintro result l ⟨part, begins, reached, -⟩
  cases result with
  | ok _ => exact ⟨part, begins, reached⟩
  | error cause => exact ⟨part, begins, reached⟩

theorem succeeds_carryOut (serves : k.ServesTicks) (plan : Plan) :
    Succeeds (carryOut plan) k () (carriedOut plan k) := by
  have keeps : ∀ {x : Pass Error Unit} {k l : Cluster}, Succeeds x k () l →
      l.refused = k.refused := by
    intro x k l succeeds
    have refused := Program.refused_run (ExceptT.run x) k
    rwa [show (ExceptT.run x).run .direct k = (.ok (), l) from succeeds] at refused
  obtain ⟨m, adds⟩ := exists_succeeds_setLabels serves.gets serves.replaces true plan.toLabel
  have afterAdding := keeps adds
  obtain ⟨m', removes⟩ := exists_succeeds_setLabels (k := m) (by rw [afterAdding, serves.gets])
    (by rw [afterAdding, serves.replaces]) false plan.toUnlabel
  have afterRemoving := (keeps removes).trans afterAdding
  obtain ⟨l, deletes⟩ : ∃ l, Succeeds (deletePods plan.podsToDelete) m' () l :=
    exists_succeeds_deletePods fun _ => by rw [afterRemoving, serves.deletes]
  have carried : Succeeds (carryOut plan) k () l :=
    Pass.succeeds_bind.mpr ⟨(), m, adds, Pass.succeeds_bind.mpr ⟨(), m', removes, deletes⟩⟩
  obtain ⟨part, -, reached, all⟩ := (withstands_carryOut plan k).run
  rw [show (ExceptT.run (carryOut plan)).run .direct k = (.ok (), l) from carried] at reached all
  obtain rfl := all rfl
  exact reached ▸ carried

theorem succeeds_carryOut_return (serves : k.ServesTicks) (plan : Plan) :
    Succeeds (do carryOut plan; return plan) k plan (carriedOut plan k) :=
  Pass.succeeds_bind.mpr ⟨(), _, succeeds_carryOut serves plan, Pass.succeeds_pure.mpr ⟨rfl, rfl⟩⟩

theorem succeeds_tick_of_serves (op : Operator) (serves : k.ServesTicks) :
    Succeeds (tick op) k (k.observation.plan op.namespace)
      (carriedOut (k.observation.plan op.namespace) k) :=
  Pass.succeeds_bind.mpr ⟨_, k, succeeds_observe.mpr ⟨serves.toObservable, rfl, rfl⟩,
    succeeds_carryOut_return serves _⟩

end CarryingOut

section Pods

variable {k : Cluster} {name reference : String} {references : List String}

/-- What the deletion of a pod leaves of it, up to its version and the time. -/
def leaving (name : String) (pod : Pod) : Option Pod :=
  if pod.metadata.finalizerList.isEmpty then none
  else some (Resource.timeless (Store.asked ⟨⟨1970, 1, 1⟩, 0, 0, 0, 0⟩
    { pod with metadata := { pod.metadata with name := some name } }))

/-- To delete a pod once more makes no difference. -/
theorem bind_leaving_leaving (pod : Option Pod) :
    (pod.bind (leaving name)).bind (leaving name) = pod.bind (leaving name) := by
  rw [Option.bind_assoc]
  refine congrArg pod.bind (funext fun pod => ?_)
  cases held : pod.metadata.finalizerList.isEmpty with
  | true => simp [leaving, held]
  | false =>
      have left : leaving name pod = some _ := if_neg (by simp [held])
      rw [left]
      exact if_neg (by rw [← Bool.not_eq_true] at held; exact held)

theorem refused_withoutPod : (withoutPod k reference).refused = k.refused :=
  (k.served (.delete .modulePods (nameInReference reference))).refused

theorem object?_withoutPod {c : Collection}
    (elsewhere : c = .modulePods → name ≠ nameInReference reference) :
    (withoutPod k reference).object? c name = k.object? c name :=
  (k.served (.delete .modulePods (nameInReference reference))).object? fun here same =>
    elsewhere here (Option.some.inj same).symm

theorem store_withoutPod {c : Collection} (elsewhere : c ≠ .modulePods) :
    (withoutPod k reference).store c = k.store c :=
  (k.served (.delete .modulePods (nameInReference reference))).store_of_ne elsewhere

theorem modulePod?_withoutPod (serves : k.refused .modulePods .delete = none) :
    (withoutPod k reference).modulePod? name =
      if name = nameInReference reference then (k.modulePod? name).bind (leaving name)
      else k.modulePod? name := by
  unfold Cluster.modulePod?
  split
  next here =>
    subst here
    obtain ⟨answer, served⟩ := Cluster.serve_of_verdict
      (r := .delete .modulePods (nameInReference reference)) serves _ rfl
    have after : withoutPod k reference =
        ((k.object? .modulePods (nameInReference reference)).map (Store.asked k.clock)).elim k
          (k.write .modulePods .delete (nameInReference reference)) := congrArg Prod.snd served
    rw [after]
    cases found : k.object? .modulePods (nameInReference reference) with
    | none => simp [found]
    | some pod =>
        have released : Store.isReleased ((k.store .modulePods).stamped (nameInReference reference)
            (Store.asked k.clock pod)) = pod.metadata.finalizerList.isEmpty := rfl
        simp only [Option.map_some, Option.elim_some, Option.bind_some]
        rw [Cluster.object?_write_self, released]
        change _ = if pod.metadata.finalizerList.isEmpty then _ else _
        split <;> rfl
  next elsewhere => rw [object?_withoutPod fun _ => elsewhere]

theorem modulePod?_foldl_withoutPod (serves : k.refused .modulePods .delete = none) :
    (references.foldl withoutPod k).modulePod? name =
      if name ∈ references.map nameInReference then (k.modulePod? name).bind (leaving name)
      else k.modulePod? name := by
  induction references generalizing k with
  | nil => simp
  | cons reference rest inductionHypothesis =>
      rw [List.foldl_cons, inductionHypothesis (by rw [refused_withoutPod, serves]),
        modulePod?_withoutPod serves]
      simp only [List.map_cons, List.mem_cons]
      by_cases here : name = nameInReference reference
      · simp only [here, true_or, if_true]
        rw [bind_leaving_leaving, ite_self]
      · simp only [here, false_or, if_false]

theorem store_foldl_withoutPod {c : Collection} (elsewhere : c ≠ .modulePods) :
    (references.foldl withoutPod k).store c = k.store c := by
  induction references generalizing k with
  | nil => rfl
  | cons reference rest inductionHypothesis =>
      exact inductionHypothesis.trans (store_withoutPod elsewhere)

theorem object?_foldl_withoutPod (elsewhere : name ∉ references.map nameInReference) :
    (references.foldl withoutPod k).object? .modulePods name = k.object? .modulePods name := by
  induction references generalizing k with
  | nil => rfl
  | cons reference rest inductionHypothesis =>
      rw [List.map_cons, List.mem_cons, not_or] at elsewhere
      exact (inductionHypothesis elsewhere.2).trans (object?_withoutPod fun _ => elsewhere.1)

end Pods

/-- Pods that are not to be deleted stay, and of the others there is what their deletion leaves. -/
theorem modulePod?_carriedOut {k : Cluster} {plan : Plan} {name : String}
    (relabelled : Relabelled (changes plan) k (labelled plan k))
    (serves : k.refused .modulePods .delete = none) :
    (carriedOut plan k).modulePod? name =
      if name ∈ plan.podsToDelete.map nameInReference then (k.modulePod? name).bind (leaving name)
      else k.modulePod? name := by
  have pods := relabelled.others .modulePods (by decide)
  have same : (labelled plan k).modulePod? name = k.modulePod? name := by
    simp only [Cluster.modulePod?, Cluster.object?, pods]
  rw [carriedOut, modulePod?_foldl_withoutPod (by rw [Cluster.refused_congr pods, serves]), same]

section Labels

variable {k m : Cluster} {plan part : Plan} {name : String}

def labelsWith (present : Bool) (labels : Option (Dict String)) : Option (Dict String) :=
  let labels := labels.getD ∅
  some (if present then labels.insert Names.nodeLabel "" else labels.erase Names.nodeLabel)

/-- What is to become of the label of a node, if anything. -/
def change? (plan : Plan) (name : String) : Option Bool :=
  if name ∈ plan.toLabel then some true else if name ∈ plan.toUnlabel then some false else none

theorem change?_cases (plan : Plan) (name : String) :
    (∃ present, change? plan name = some present ∧ (name, present) ∈ changes plan) ∨
      change? plan name = none ∧ name ∉ (changes plan).map Prod.fst := by
  rw [names_changes, List.mem_append, not_or]
  unfold change?
  split
  next set => exact Or.inl ⟨true, rfl, mem_changes.mpr (Or.inl ⟨set, rfl⟩)⟩
  next notSet =>
    split
    next taken => exact Or.inl ⟨false, rfl, mem_changes.mpr (Or.inr ⟨taken, rfl⟩)⟩
    next left => exact Or.inr ⟨rfl, notSet, left⟩

theorem Relabelled.nodeLabels? (relabelled : Relabelled (changes plan) k m) (name : String) :
    m.nodeLabels? name = (change? plan name).elim (k.nodeLabels? name) fun present =>
      (k.nodeLabels? name).map (labelsWith present) := by
  rw [Cluster.nodeLabels?, Cluster.nodeLabels?]
  rcases change?_cases plan name with ⟨present, planned, change⟩ | ⟨planned, elsewhere⟩
  · obtain ⟨node, version, found, written⟩ := relabelled.changed change
    rw [planned, found, written]
    rfl
  · rw [planned, relabelled.kept elsewhere]
    rfl

theorem Relabelled.lasting (relabelled : Relabelled (changes plan) k m)
    (lasting : ∀ name (node : Node), k.object? .nodes name = some node →
      Store.isReleased node = false) :
    ∀ name (node : Node), m.object? .nodes name = some node → Store.isReleased node = false := by
  intro name after found
  rcases relabelled.node name with ⟨node, present, version, -, before, written⟩ | ⟨-, stays⟩
  · obtain rfl := Option.some.inj (written.symm.trans found)
    exact lasting name node before
  · exact lasting name after (stays.symm.trans found)

theorem Relabelled.otherLabels (relabelled : Relabelled (changes plan) k m) {node : Node}
    (found : k.object? .nodes name = some node) :
    ∃ after, m.object? .nodes name = some after ∧ ∀ key, key ≠ Names.nodeLabel →
      after.metadata.label? key = node.metadata.label? key := by
  rcases relabelled.node name with ⟨before, _, _, -, there, written⟩ | ⟨-, stays⟩
  · obtain rfl := Option.some.inj (found.symm.trans there)
    exact ⟨_, written, (sameButLabel_withLabel _ _ _).labels⟩
  · exact ⟨node, stays.trans found, fun _ _ => rfl⟩

theorem Relabelled.noOthers (relabelled : Relabelled (changes plan) k m)
    (absent : k.object? .nodes name = none) : m.object? .nodes name = none := by
  rcases relabelled.node name with ⟨_, _, _, -, there, -⟩ | ⟨-, stays⟩
  · exact nomatch absent.symm.trans there
  · exact stays.trans absent

end Labels

/-- What a tick with a plan has come to, wherever it was interrupted. A node that was stored without
a name in its metadata has got it with its label. -/
structure PartlyDone (plan : Plan) (k l : Cluster) : Prop where
  nodes : ∀ name, l.object? .nodes name = k.object? .nodes name ∨
    ∃ (node after : Node) (present : Bool), (name, present) ∈ changes plan ∧
      k.object? .nodes name = some node ∧ l.object? .nodes name = some after ∧
      (node.under name).SameButLabel after ∧ hasWantedLabel after present = true
  unlabelled : ∀ name, k.Labelled name → ¬ l.Labelled name →
    name ∈ plan.toUnlabel ∧ ∀ other ∈ plan.toLabel, l.Labelled other
  deleted : ∀ name, l.object? .modulePods name ≠ k.object? .modulePods name →
    name ∈ plan.podsToDelete.map nameInReference ∧
      (∀ other ∈ plan.toLabel, l.Labelled other) ∧ ∀ other ∈ plan.toUnlabel, ¬ l.Labelled other
  written : ∃ part, Beginning plan part ∧ (l.store .nodes).journal =
    (k.store .nodes).journal ++ (part.toLabel ++ part.toUnlabel).map ("replace " ++ ·)
  others : ∀ c, c ≠ .nodes → c ≠ .modulePods → l.store c = k.store c

section Done

variable {plan part : Plan} {m : Cluster}

theorem store_carriedOut (plan : Plan) (k : Cluster) {c : Collection}
    (elsewhere : c ≠ .modulePods) : (carriedOut plan k).store c = (labelled plan k).store c :=
  store_foldl_withoutPod elsewhere

theorem object?_carriedOut (plan : Plan) (k : Cluster) (name : String) :
    (carriedOut plan k).object? .nodes name = (labelled plan k).object? .nodes name := by
  rw [Cluster.object?, store_carriedOut _ _ (by decide)]
  rfl

theorem nodeLabels?_carriedOut (plan : Plan) (k : Cluster) (name : String) :
    (carriedOut plan k).nodeLabels? name = (labelled plan k).nodeLabels? name := by
  rw [Cluster.nodeLabels?, object?_carriedOut]
  rfl

theorem Relabelled.labelled_iff (relabelled : Relabelled (changes part) k m)
    (apart : ∀ name ∈ part.toLabel, name ∉ part.toUnlabel) {name : String} :
    m.Labelled name ↔ (k.Labelled name ∨ name ∈ part.toLabel) ∧ name ∉ part.toUnlabel := by
  rcases relabelled.node name with
    ⟨node, present, version, change, -, written⟩ | ⟨⟨notSet, left⟩, stays⟩
  · rw [labelled_of_written written]
    rcases mem_changes.mp change with ⟨set, rfl⟩ | ⟨taken, rfl⟩
    · exact ⟨fun _ => ⟨Or.inr set, apart name set⟩, fun _ => rfl⟩
    · exact ⟨fun absent => absurd absent Bool.false_ne_true, fun wanted => absurd taken wanted.2⟩
  · rw [labelled_of_same stays]
    exact ⟨fun before => ⟨Or.inl before, left⟩, fun wanted => wanted.1.resolve_right notSet⟩

theorem Beginning.apart (begins : Beginning plan part)
    (apart : ∀ name ∈ plan.toLabel, name ∉ plan.toUnlabel) :
    ∀ name ∈ part.toLabel, name ∉ part.toUnlabel := fun name set taken =>
  apart name (begins.adds.subset set) (begins.removes.subset taken)

theorem partlyDone_carriedOut (begins : Beginning plan part)
    (apart : ∀ name ∈ plan.toLabel, name ∉ plan.toUnlabel)
    (relabelled : Relabelled (changes part) k (labelled part k)) :
    PartlyDone plan k (carriedOut part k) := by
  have labelled_iff : ∀ {name}, (carriedOut part k).Labelled name ↔
      (k.Labelled name ∨ name ∈ part.toLabel) ∧ name ∉ part.toUnlabel :=
    (labelled_of_same (object?_carriedOut part k _)).trans
      (relabelled.labelled_iff (begins.apart apart))
  have labels : ∀ {name}, part.toLabel = plan.toLabel → name ∈ plan.toLabel →
      (carriedOut part k).Labelled name := fun all set =>
    labelled_iff.mpr ⟨Or.inr (all ▸ set), fun taken => apart _ set (begins.removes.subset taken)⟩
  constructor
  · intro name
    rw [object?_carriedOut]
    rcases relabelled.node name with ⟨node, present, version, change, found, written⟩ | ⟨-, stays⟩
    · refine Or.inr ⟨node, _, present, begins.changes.subset change, found, written,
        sameButLabel_withLabel _ _ _, ?_⟩
      change hasWantedLabel (withLabel (node.under name) present) present = true
      cases present <;> simp [hasWantedLabel, label?_withLabel]
    · exact Or.inl stays
  · intro name before after
    have taken : name ∈ part.toUnlabel := Classical.byContradiction fun left =>
      after (labelled_iff.mpr ⟨Or.inl before, left⟩)
    exact ⟨begins.removes.subset taken,
      fun other set => labels (begins.addsFirst (List.ne_nil_of_mem taken)) set⟩
  · intro name changed
    have gone : name ∈ part.podsToDelete.map nameInReference := by
      apply Classical.byContradiction
      intro left
      refine changed ((object?_foldl_withoutPod left).trans ?_)
      rw [Cluster.object?, relabelled.others .modulePods (by decide)]
      rfl
    obtain ⟨reference, deleted, -⟩ := List.mem_map.mp gone
    obtain ⟨allSet, allTaken⟩ := begins.deletesLast (List.ne_nil_of_mem deleted)
    refine ⟨List.map_subset _ begins.deletes.subset gone, fun other => labels allSet, ?_⟩
    exact fun other taken after => (labelled_iff.mp after).2 (allTaken ▸ taken)
  · refine ⟨part, begins, ?_⟩
    rw [store_carriedOut _ _ (by decide), relabelled.journal, ← names_changes, List.map_map]
    rfl
  · intro c notNodes notModulePods
    rw [store_carriedOut _ _ notModulePods, relabelled.others c notNodes]

end Done

end NodeTick

end NfsStorage

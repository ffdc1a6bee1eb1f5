import NfsStorage.Proofs.Extender.Provisioning
import NfsStorage.Proofs.Nodes.Planning
import NfsStorage.Proofs.Nodes.Selection

/-!
# The filter lets pass what the declarations admit

A pod without claims of the NFS driver may run anywhere. Any other may run on the nodes that every
declaration behind its claims selects, and on no others: what cannot be found out is an error, and
no error lets a candidate pass.
-/

namespace NfsStorage

/-- The node is there, and every declaration behind claims of the NFS driver selects it. -/
def Cluster.Admits (k : Cluster) (pod : Pod) (name : String) : Prop :=
  ∃ node : Node, k.object? .nodes name = some node ∧ ∀ claim, k.NfsClaim pod claim →
    ∃ d, k.Backs d claim ∧ d.nodeSelector.selects node.metadata.labels = .ok true

namespace Extender

open Pass (Succeeds)

/-- The candidates of a question: the names that it gives or else its nodes, if there are any. -/
inductive Question.Offers (q : Question) : Candidates → Prop where
  | names {given : List String} (named : q.nodeNames = some given) (some : given ≠ []) :
      q.Offers (.names given)
  | nodes {given : NodeList} (unnamed : ∀ names, q.nodeNames = some names → names = [])
      (listed : q.nodes = some given) (some : given.items ≠ []) : q.Offers (.nodes given.items)

/-- The candidates that pass a test are named, in their order and as often as they were; all others
are rejected. If the candidates are nodes, those that pass are handed back. -/
structure Verdict.Divides (v : Verdict) (candidates : Candidates) (passes : String → Bool) :
    Prop where
  passing : v.nodeNames = candidates.nameList.filter passes
  failing : ∀ name reason, v.failed.get? name = some reason ↔
    (name ∈ candidates.nameList ∧ passes name = false) ∧ reason = rejection
  apart : ∀ name ∈ v.nodeNames, v.failed.get? name = none
  named : ∀ given, candidates = .names given → v.nodes = none
  echoed : ∀ given, candidates = .nodes given →
    v.nodes = some ⟨given.filter fun node => passes node.name⟩

theorem offers_of_ofQuestion {q : Question} {candidates : Candidates}
    (offered : Candidates.ofQuestion q = .ok candidates) : q.Offers candidates := by
  unfold Candidates.ofQuestion at offered
  split at offered
  next given _ named =>
    obtain rfl := Except.ok.inj offered
    obtain ⟨named, some⟩ := Option.filter_eq_some_iff.mp named
    exact .names named (by simpa using some)
  next given unnamed listed =>
    obtain rfl := Except.ok.inj offered
    obtain ⟨listed, some⟩ := Option.filter_eq_some_iff.mp listed
    refine .nodes (fun names named => ?_) listed (by simpa using some)
    simpa [named] using unnamed
  next => exact nomatch offered

theorem divides_divide (passes : String → Bool) (candidates : Candidates) :
    (Verdict.divide passes candidates).Divides candidates passes := by
  have failed : ∀ name, (Verdict.divide passes candidates).failed.get? name =
      if name ∈ candidates.nameList.filter (fun name => !passes name) then some Verdict.rejection
      else none := fun name => Dict.get?_ofList_same _ _ name
  constructor
  · rfl
  · intro name reason
    rw [failed]
    by_cases fails : name ∈ candidates.nameList ∧ passes name = false
    · rw [if_pos (by simpa using fails), Option.some.injEq, eq_comm]
      exact (and_iff_right fails).symm
    · rw [if_neg (by simpa using fails)]
      simp [fails]
  · intro name there
    rw [failed, if_neg]
    simp [(List.mem_filter.mp there).2]
  · rintro given rfl
    rfl
  · rintro given rfl
    rfl

theorem mem_filterAuxM_ok {α ε : Type} {p : α → Except ε Bool} {items kept chosen : List α}
    (filtered : items.filterAuxM p chosen = .ok kept) {item : α} :
    item ∈ kept ↔ item ∈ chosen ∨ item ∈ items ∧ p item = .ok true := by
  induction items generalizing chosen with
  | nil =>
      obtain rfl := Except.ok.inj filtered
      simp
  | cons first rest inductionHypothesis =>
      obtain ⟨passes, tested, filtered⟩ := bind_eq_ok_iff.mp filtered
      rw [inductionHypothesis filtered]
      cases passes <;> grind

theorem mem_filterM_ok {α ε : Type} {p : α → Except ε Bool} {items kept : List α}
    (filtered : items.filterM p = .ok kept) {item : α} :
    item ∈ kept ↔ item ∈ items ∧ p item = .ok true := by
  obtain ⟨reversed, chosen, filtered⟩ := bind_eq_ok_iff.mp filtered
  obtain rfl := Except.ok.inj filtered
  rw [List.mem_reverse, mem_filterAuxM_ok chosen]
  simp

theorem mem_of_selectedNames {d : Declaration} {nodes : List Node} {names : List String}
    (selected : selectedNames d nodes = .ok names) {name : String} :
    name ∈ names ↔ ∃ node ∈ nodes, node.name = name ∧
      d.nodeSelector.selects node.metadata.labels = .ok true := by
  have selects : ∀ node : Node, (d.nodeSelector.selects node.metadata.labels).mapError
      (Error.invalidSelector d.name) = .ok true ↔
        d.nodeSelector.selects node.metadata.labels = .ok true := by
    intro node
    cases d.nodeSelector.selects node.metadata.labels with
    | ok isSelected => simp [Except.mapError_ok]
    | error e => simp [Except.mapError_error]
  obtain ⟨chosen, filtered, selected⟩ := bind_eq_ok_iff.mp selected
  obtain rfl := Except.ok.inj selected
  simp only [List.mem_map, mem_filterM_ok filtered, selects]
  constructor
  · rintro ⟨node, ⟨there, isSelected⟩, named⟩
    exact ⟨node, there, named, isSelected⟩
  · rintro ⟨node, there, named, isSelected⟩
    exact ⟨node, ⟨there, isSelected⟩, named⟩

theorem mem_of_admittedNames {declarations : List Declaration} {nodes : List Node}
    {names : List String} (admitted : admittedNames declarations nodes = .ok names)
    (some : declarations ≠ []) {name : String} :
    name ∈ names ↔ ∀ d ∈ declarations, ∃ node ∈ nodes, node.name = name ∧
      d.nodeSelector.selects node.metadata.labels = .ok true := by
  obtain ⟨selections, selected, admitted⟩ := bind_eq_ok_iff.mp admitted
  obtain rfl := Except.ok.inj admitted
  obtain ⟨ofDeclaration, ofSelection⟩ := exists_of_mapM_ok selected
  have inAll : (∀ selection ∈ selections, name ∈ selection) ↔
      ∀ d ∈ declarations, ∃ node ∈ nodes, node.name = name ∧
        d.nodeSelector.selects node.metadata.labels = .ok true := by
    constructor
    · intro all d there
      obtain ⟨selection, present, same⟩ := ofDeclaration d there
      exact (mem_of_selectedNames same).mp (all selection present)
    · intro all selection present
      obtain ⟨d, there, same⟩ := ofSelection selection present
      exact (mem_of_selectedNames same).mpr (all d there)
  rw [← inAll]
  cases selections with
  | nil =>
      obtain ⟨d, there⟩ := List.exists_mem_of_ne_nil _ some
      obtain ⟨_, none, -⟩ := ofDeclaration d there
      exact nomatch none
  | cons first rest => simp

section Filter

variable {k l : Cluster}

theorem succeeds_admission {declarations : List Declaration} {passes : String → Bool}
    (succeeds : Succeeds (admission declarations) k passes l) :
    l = k ∧ (declarations = [] → passes = fun _ => true) ∧
      (declarations ≠ [] → ∀ name, passes name = true ↔
        ∀ d ∈ declarations, ∃ node ∈ k.observation.nodes, node.name = name ∧
          d.nodeSelector.selects node.metadata.labels = .ok true) := by
  unfold admission at succeeds
  cases declarations with
  | nil =>
      obtain ⟨rfl, rfl⟩ := Pass.succeeds_pure.mp succeeds
      exact ⟨rfl, fun _ => rfl, fun some => absurd rfl some⟩
  | cons d rest =>
      obtain ⟨nodes, _, listed, admitting⟩ := Pass.succeeds_bind.mp succeeds
      obtain ⟨-, rfl, rfl⟩ := Pass.succeeds_list.mp listed
      obtain ⟨names, _, lifted, ended⟩ := Pass.succeeds_bind.mp admitting
      obtain ⟨admitted, rfl⟩ := Pass.succeeds_lift.mp lifted
      obtain ⟨rfl, rfl⟩ := Pass.succeeds_pure.mp ended
      refine ⟨rfl, nofun, fun some name => ?_⟩
      simp only [List.contains_eq_mem, decide_eq_true_eq]
      exact mem_of_admittedNames admitted some

variable (reachable : k.Reachable)

include reachable

theorem admits_iff {pod : Pod} {declarations : List Declaration}
    (backing : Backing k pod declarations) (some : declarations ≠ []) {name : String} :
    (∀ d ∈ declarations, ∃ node ∈ k.observation.nodes, node.name = name ∧
      d.nodeSelector.selects node.metadata.labels = .ok true) ↔ k.Admits pod name := by
  simp only [← and_assoc, Cluster.mem_nodes_iff (reachable.versioned .nodes)]
  simp only [Cluster.Admits, ← backing.forall_iff]
  constructor
  · intro all
    obtain ⟨d, behind⟩ := List.exists_mem_of_ne_nil _ some
    obtain ⟨node, found, -⟩ := all d behind
    refine ⟨node, found, fun other behind => ?_⟩
    obtain ⟨node', found', selects⟩ := all other behind
    obtain rfl := Option.some.inj (found.symm.trans found')
    exact selects
  · rintro ⟨node, found, all⟩ d behind
    exact ⟨node, found, all d behind⟩

theorem succeeds_filter {q : Question} {v : Verdict} (succeeds : Succeeds (filter q) k v l) :
    l = k ∧ ∃ pod candidates passes, q.pod = some pod ∧ q.Offers candidates ∧
      (∀ name ∈ pod.claimNames, ∃ claim, k.claimIn? pod.namespace name = some claim) ∧
      v.Divides candidates passes ∧
      ((∀ claim, ¬ k.NfsClaim pod claim) → passes = fun _ => true) ∧
      ((∃ claim, k.NfsClaim pod claim) → ∀ name, passes name = true ↔ k.Admits pod name) := by
  obtain ⟨pod, _, lifted, offering⟩ := Pass.succeeds_bind.mp succeeds
  obtain ⟨given, rfl⟩ := Pass.succeeds_lift.mp lifted
  obtain ⟨candidates, _, lifted, backingIt⟩ := Pass.succeeds_bind.mp offering
  obtain ⟨offered, rfl⟩ := Pass.succeeds_lift.mp lifted
  obtain ⟨declarations, _, backed, admitting⟩ := Pass.succeeds_bind.mp backingIt
  obtain ⟨rfl, backing⟩ := backing_of_succeeds (reachable.versioned _) backed
  obtain ⟨passes, _, admitted, ended⟩ := Pass.succeeds_bind.mp admitting
  obtain ⟨rfl, unbacked, tests⟩ := succeeds_admission admitted
  obtain ⟨rfl, rfl⟩ := Pass.succeeds_pure.mp ended
  have pod : q.pod = some pod := by
    unfold podOf at given
    split at given
    next present => exact present.trans (congrArg some (Except.ok.inj given))
    next => exact nomatch given
  refine ⟨rfl, _, candidates, passes, pod, offers_of_ofQuestion offered, backing.claims,
    divides_divide passes candidates, fun none => unbacked (backing.eq_nil_iff.mpr none), ?_⟩
  rintro ⟨claim, nfs⟩ name
  have some : declarations ≠ [] := fun none => backing.eq_nil_iff.mp none claim nfs
  rw [tests some name, admits_iff reachable backing some]

end Filter

/-- A claim whose storage class tells its provisioner, and two nodes, one of which the declaration
of that name selects. -/
def mounted : Cluster :=
  let declared := Cluster.setStore {} .declarations (Store.ofList [
    { metadata := { name := some "a" }
      spec :=
        { connection := { host := "host", share := "/share", nfsVersion := .v41 }
          reclaimPolicy := .delete
          volumeBindingMode := .immediate } }])
  let classed := declared.setStore .storageClasses (Store.ofList [
    { metadata := { name := some "a" }, provisioner := Names.nfsDriver }])
  let claimed := classed.setStore .claims (Store.ofList [
    { metadata := { name := some "data", «namespace» := some "app" }
      spec := some { storageClassName := some "a" } }])
  claimed.setStore .nodes (Store.ofList [
    { metadata :=
        { name := some "chosen", labels := some (Dict.ofList [("kubernetes.io/os", "linux")]) } },
    { metadata := { name := some "other" } }])

def mounting : Pod where
  metadata := { name := some "web", «namespace» := some "app" }
  spec := some { volumes := some [{ persistentVolumeClaim := some { claimName := "data" } }] }

theorem reachable_mounted : mounted.Reachable :=
  .filledAlive .nodes rfl (.filledAlive .claims rfl (.filledAlive .storageClasses rfl
    (.filledAlive .declarations rfl .empty)))

theorem nfsClaim_mounting : ∃ claim d, mounted.NfsClaim mounting claim ∧ mounted.Backs d claim ∧
    d.isDeleting = false :=
  ⟨_, _, ⟨⟨"data", by decide, rfl⟩, by decide +kernel⟩, ⟨"a", rfl, rfl⟩, rfl⟩

/-- Whether the pod may run on the chosen node, which is named twice, and on the other one. -/
def asking : Question where
  pod := some mounting
  nodeNames := some ["chosen", "other", "chosen"]

theorem filter_asking : ∃ v, (filter asking).run.run .direct mounted = (.ok v, mounted) ∧
    v.nodeNames = ["chosen", "chosen"] ∧ v.failed.contains "other" = true := by
  have answered : ((filter asking).run.run .direct mounted).1.toOption.map
      (fun v => (v.nodeNames, v.failed.contains "other")) = some (["chosen", "chosen"], true) := by
    decide +kernel
  generalize filtered : (filter asking).run.run .direct mounted = ended at answered
  obtain ⟨result, l⟩ := ended
  cases result with
  | error e => exact nomatch answered
  | ok v =>
      obtain ⟨rfl, -⟩ := succeeds_filter reachable_mounted filtered
      exact ⟨v, rfl, Prod.mk.inj (Option.some.inj answered)⟩

end Extender

end NfsStorage

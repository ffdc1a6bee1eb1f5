import NfsStorage.Proofs.Program.Faltering
import NfsStorage.Proofs.Store.Verdict
import NfsStorage.Proofs.Store.Versioned
import NfsStorage.Nodes.Tick

/-!
# Setting labels of nodes

Bringing the label of one node to the wanted state writes that node, if it is not in that state
already, and nothing else. An attempt that meets a conflict has changed nothing, so that a run of
attempts comes to what a single one comes to.
-/

namespace NfsStorage

/-- An update that has changed nothing where it fails comes to the same when it is tried again. -/
theorem Program.Withstands.retryUpTo {α : Type} {attempt : Program (Except StoreError α)}
    {isConflict : StoreError → Bool} {milliseconds : Nat}
    {post : Except StoreError α → Cluster → Prop} {k : Cluster}
    (withstands : attempt.Withstands post k)
    (unchanged : ∀ e l, post (.error e) l → l = k) (more : Nat) :
    (NfsStorage.retryUpTo (.sleep milliseconds (.done ())) isConflict attempt more).Withstands
      post k := by
  induction more with
  | zero => exact withstands
  | succ more inductionHypothesis =>
      apply Program.Withstands.bind
      apply withstands.mono
      intro result l came
      cases result with
      | ok answer => exact came
      | error e =>
          cases conflict : isConflict e with
          | false =>
              simp only [conflict, Bool.false_eq_true, if_false]
              exact came
          | true =>
              simp only [conflict, if_true]
              obtain rfl := unchanged e l came
              exact inductionHypothesis

/-- A node with its name in its metadata, as the store writes it. -/
def Node.under (node : Node) (name : String) : Node :=
  { node with metadata := { node.metadata with name := some name } }

namespace Cluster

def NodesNamed (k : Cluster) : Prop :=
  ∀ name (node : Node), k.object? .nodes name = some node → node.metadata.name = some name

theorem nodesNamed_of_ne_none {k : Cluster} (versioned : (k.store .nodes).Versioned)
    (named : ∀ name (node : Node), k.object? .nodes name = some node →
      node.metadata.name ≠ none) : k.NodesNamed := by
  intro name node found
  obtain ⟨own, given⟩ := Option.ne_none_iff_exists'.mp (named name node found)
  have same : node.metadata.nameAny = name := versioned.named found
  rw [Metadata.nameAny, given] at same
  exact given.trans (congrArg some same)

theorem NodesNamed.under_eq {k : Cluster} (named : k.NodesNamed) {name : String} {node : Node}
    (found : k.object? .nodes name = some node) : node.under name = node := by
  rw [Node.under, ← named name node found]

end Cluster

namespace NodeTick

/-- The cluster with the label of one node as wanted. -/
def relabelled (k : Cluster) (name : String) (present : Bool) : Cluster :=
  match k.object? .nodes name with
  | none => k
  | some node =>
    if hasWantedLabel node present then k
    else k.write .nodes .replace name (withLabel node present)

theorem refused_relabelled {k : Cluster} {name : String} {present : Bool} (c : Collection) :
    (relabelled k name present).refused c = k.refused c := by
  unfold relabelled
  split
  next => rfl
  next =>
    split
    next => rfl
    next => exact k.refused_write _ _ _ _ c

theorem withstands_labelOnce (k : Cluster) (name : String) (present : Bool) :
    (labelOnce name present).Withstands (fun result l =>
      result = .ok () ∧ l = relabelled k name present ∨ (∃ e, result = .error e) ∧ l = k) k := by
  refine .call_bind ?_ fun e => Or.inr ⟨⟨e, rfl⟩, rfl⟩
  unfold relabelled
  rcases k.serve_get .nodes name with ⟨got, -⟩ | ⟨-, e, got⟩
  · rw [got]
    cases found : k.object? .nodes name with
    | none => exact Or.inl ⟨rfl, rfl⟩
    | some node =>
        cases wanted : hasWantedLabel node present with
        | true =>
            simp only [wanted, if_true]
            exact Or.inl ⟨rfl, rfl⟩
        | false =>
            simp only [wanted, Bool.false_eq_true, if_false]
            refine .call_bind ?_ fun e => Or.inr ⟨⟨e, rfl⟩, rfl⟩
            have served := k.served (.replace .nodes name (withLabel node present))
            generalize (k.serve (.replace .nodes name (withLabel node present))).1 = answer at served ⊢
            generalize (k.serve (.replace .nodes name (withLabel node present))).2 = l at served ⊢
            cases served with
            | failed e why => exact Or.inr ⟨⟨e, rfl⟩, rfl⟩
            | replaced _ _ _ old answer present =>
                obtain rfl := Option.some.inj (found.symm.trans present)
                exact Or.inl ⟨rfl, rfl⟩
  · rw [got]
    exact Or.inr ⟨⟨e, rfl⟩, rfl⟩

theorem withstands_setLabel (k : Cluster) (name : String) (present : Bool) :
    (setLabel name present).Withstands (fun result l =>
      result = .ok () ∧ l = relabelled k name present ∨ (∃ e, result = .error e) ∧ l = k) k := by
  refine Program.Withstands.retryUpTo (withstands_labelOnce k name present) ?_ _
  rintro e l (⟨failed, -⟩ | ⟨-, same⟩)
  · exact nomatch failed
  · exact same

/-- Whatever fails, the labels of the first so many nodes are as wanted. -/
theorem withstands_setLabels (present : Bool) (names : List String) (k : Cluster) :
    Pass.Withstands (fun result l => ∃ done, done <+: names ∧
      l = done.foldl (fun k name => relabelled k name present) k ∧
      (result = .ok () → done = names)) (setLabels present names) k := by
  induction names generalizing k with
  | nil => exact ⟨[], List.prefix_rfl, rfl, fun _ => rfl⟩
  | cons name rest inductionHypothesis =>
      apply Pass.Withstands.bind
      apply Program.Withstands.bind
      apply (withstands_setLabel k name present).mono
      rintro result l (⟨rfl, rfl⟩ | ⟨⟨e, rfl⟩, rfl⟩)
      · apply (inductionHypothesis (relabelled k name present)).mono
        rintro result l ⟨done, begins, rfl, all⟩
        exact ⟨name :: done, (List.cons_prefix_cons.mpr ⟨rfl, begins⟩), rfl,
          fun succeeds => congrArg (name :: ·) (all succeeds)⟩
      · exact ⟨[], List.nil_prefix, rfl, nofun⟩

theorem succeeds_setLabels {present : Bool} {names : List String} {k l : Cluster}
    (succeeds : Pass.Succeeds (setLabels present names) k () l) :
    l = names.foldl (fun k name => relabelled k name present) k := by
  obtain ⟨done, -, reached, all⟩ := (withstands_setLabels present names k).run
  rw [show (ExceptT.run (setLabels present names)).run .direct k = (.ok (), l) from succeeds]
    at reached all
  obtain rfl := all rfl
  exact reached

section Serving

variable {k : Cluster} (gets : k.refused .nodes .get = none)
  (replaces : k.refused .nodes .replace = none)

include gets replaces

theorem run_labelOnce (name : String) (present : Bool) :
    (labelOnce name present).run .direct k = (.ok (), relabelled k name present) := by
  unfold labelOnce relabelled
  rw [Program.run_call_bind, Cluster.serve_get_eq_ok_iff.mpr ⟨gets, rfl, rfl⟩]
  cases found : k.object? .nodes name with
  | none => rfl
  | some node =>
      cases wanted : hasWantedLabel node present with
      | true =>
          simp only [wanted, if_true]
          rfl
      | false =>
          have written : Request.verdict (.replace .nodes name (withLabel node present)) k.clock
              (k.object? .nodes name) = .ok (some (withLabel node present)) := by
            rw [found]
            exact congrArg (Except.map some) (if_neg fun stale => stale.2 rfl)
          obtain ⟨answer, served⟩ := Cluster.serve_of_verdict replaces _ written
          simp only [wanted, Bool.false_eq_true, if_false]
          rw [Program.run_call_bind, served]
          rfl

theorem run_setLabel (name : String) (present : Bool) :
    (setLabel name present).run .direct k = (.ok (), relabelled k name present) := by
  rw [setLabel, retryOnConflict, conflictAttempts, retryUpTo, Program.run_bind,
    run_labelOnce gets replaces]
  rfl

theorem exists_succeeds_setLabels (present : Bool) (names : List String) :
    ∃ l, Pass.Succeeds (setLabels present names) k () l := by
  induction names generalizing k with
  | nil => exact ⟨k, rfl⟩
  | cons name rest inductionHypothesis =>
      obtain ⟨l, others⟩ := inductionHypothesis (k := relabelled k name present)
        ((congrFun (refused_relabelled .nodes) _).trans gets)
        ((congrFun (refused_relabelled .nodes) _).trans replaces)
      refine ⟨l, Pass.succeeds_bind.mpr ⟨(), relabelled k name present, ?_, others⟩⟩
      change (setLabel name present >>= fun answer =>
        pure (answer.mapError (Error.updateNodeLabel name))).run .direct k = _
      rw [Program.run_bind, run_setLabel gets replaces]
      rfl

end Serving

/-- The label of a node is not as wanted, and the node outlasts a write. -/
def Awaits (k : Cluster) (name : String) (present : Bool) : Prop :=
  ∃ node : Node, k.object? .nodes name = some node ∧ hasWantedLabel node present = false ∧
    Store.isReleased node = false

/-- Some nodes got the labels wanted for them, and nothing else was written. -/
structure Relabelled (changes : List (String × Bool)) (k l : Cluster) : Prop where
  changed : ∀ {name present}, (name, present) ∈ changes →
    ∃ (node : Node) (version : Nat), k.object? .nodes name = some node ∧
      l.object? .nodes name = some (Store.withVersion (withLabel (node.under name) present) version)
  kept : ∀ {name}, name ∉ changes.map Prod.fst → l.object? .nodes name = k.object? .nodes name
  journal : (l.store .nodes).journal =
    (k.store .nodes).journal ++ changes.map fun change => "replace " ++ change.1
  others : ∀ c, c ≠ .nodes → l.store c = k.store c

/-- A node is written with the label as wanted and with its name, and is gone if nothing holds it any
more. -/
theorem object?_write_withLabel (k : Cluster) (node : Node) (name : String) (present : Bool) :
    (k.write .nodes .replace name (withLabel node present)).object? .nodes name =
      if Store.isReleased node then none
      else some (Store.withVersion (withLabel (node.under name) present)
        ((k.store .nodes).version + 1)) :=
  Cluster.object?_write_self ..

theorem Awaits.relabelled {k : Cluster} {name : String} {present : Bool}
    (awaits : Awaits k name present) :
    Relabelled [(name, present)] k (relabelled k name present) := by
  obtain ⟨node, found, unwanted, unreleased⟩ := awaits
  have written : NodeTick.relabelled k name present =
      k.write .nodes .replace name (withLabel node present) := by
    rw [NodeTick.relabelled, found]
    simp only [unwanted, Bool.false_eq_true, if_false]
  rw [written]
  constructor
  · intro target wanted change
    obtain ⟨rfl, rfl⟩ := Prod.mk.inj (List.mem_singleton.mp change)
    refine ⟨node, (k.store .nodes).version + 1, found, ?_⟩
    rw [object?_write_withLabel, unreleased]
    rfl
  · intro target elsewhere
    apply Cluster.object?_write_of_ne
    intro _ same
    exact elsewhere (List.mem_singleton.mpr same)
  · rw [Cluster.write, Cluster.store_setStore]
    rfl
  · exact fun c elsewhere => k.store_write_of_ne _ _ _ elsewhere

theorem relabelled_foldl {changes : List (String × Bool)} {k : Cluster}
    (distinct : (changes.map Prod.fst).Nodup)
    (awaits : ∀ change ∈ changes, Awaits k change.1 change.2) :
    Relabelled changes k
      (changes.foldl (fun k change => relabelled k change.1 change.2) k) := by
  induction changes generalizing k with
  | nil =>
      constructor
      · exact fun none => nomatch none
      · exact fun _ => rfl
      · exact (List.append_nil _).symm
      · exact fun _ _ => rfl
  | cons change rest inductionHypothesis =>
      obtain ⟨name, present⟩ := change
      have head := (awaits _ (List.mem_cons_self ..)).relabelled
      obtain ⟨fresh, distinctRest⟩ := List.nodup_cons.mp distinct
      have apart : ∀ {target}, target ∈ rest.map Prod.fst →
          (relabelled k name present).object? .nodes target = k.object? .nodes target :=
        fun member => head.kept fun same => fresh (List.mem_singleton.mp same ▸ member)
      have tail := inductionHypothesis (k := relabelled k name present) distinctRest fun other member => by
        obtain ⟨node, found, rest⟩ := awaits other (List.mem_cons_of_mem _ member)
        exact ⟨node, (apart (List.mem_map_of_mem member)).trans found, rest⟩
      rw [List.foldl_cons]
      constructor
      · intro target wanted change
        rcases List.mem_cons.mp change with same | later
        · obtain ⟨rfl, rfl⟩ := Prod.mk.inj same
          obtain ⟨node, version, found, written⟩ := head.changed (List.mem_singleton_self _)
          exact ⟨node, version, found, (tail.kept fresh).trans written⟩
        · obtain ⟨node, version, found, written⟩ := tail.changed later
          exact ⟨node, version, (apart (List.mem_map_of_mem later)).symm.trans found, written⟩
      · intro target elsewhere
        obtain ⟨notFirst, notLater⟩ := not_or.mp (mt List.mem_cons.mpr elsewhere)
        exact (tail.kept notLater).trans (head.kept fun same => notFirst (List.mem_singleton.mp same))
      · rw [tail.journal, head.journal, List.append_assoc]
        rfl
      · exact fun c elsewhere => (tail.others c elsewhere).trans (head.others c elsewhere)

end NodeTick

end NfsStorage

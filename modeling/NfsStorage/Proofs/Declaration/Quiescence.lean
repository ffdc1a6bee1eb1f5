import NfsStorage.Proofs.Codec.Labels
import NfsStorage.Proofs.Declaration.Footprint
import NfsStorage.Proofs.Declaration.Peace
import NfsStorage.Proofs.Foreign.Sequence

/-!
# Declarations come to rest

A declaration at peace stays at peace while others leave it alone. The passes over other
declarations do, and so does the pass over the configuration: it writes the mark of a storage class,
and no judgement of a storage class looks at the mark.
-/

namespace NfsStorage

open DeclarationPass (DerivedKind)

/-- From one storage class to the other nothing has changed that lasts and that anybody looks at,
but the mark. -/
structure StorageClass.SameButMark (c after : StorageClass) : Prop where
  content : { after with metadata := c.metadata } = c
  annotations : after.metadata.annotations = c.metadata.annotations
  released : Store.isReleased after = Store.isReleased c
  labels : ∀ key, key ≠ Names.mismatchLabel →
    (after.metadata.labels.getD ∅).get? key = (c.metadata.labels.getD ∅).get? key

/-- From one cluster to the other nobody has changed a declaration, the configuration or a derived
object of the declaration, but for the mark. -/
structure Unmoved (n : String) (k l : Cluster) : Prop where
  sound : k.Sound → l.Sound
  declaration : l.object? .declarations n = k.object? .declarations n
  config : l.config = k.config
  derived : ∀ kind, kind ≠ .storageClass → l.derived kind n = k.derived kind n
  noStorageClass : k.object? .storageClasses n = none → l.object? .storageClasses n = none
  storageClass : ∀ c, k.object? .storageClasses n = some c →
    ∃ after, l.object? .storageClasses n = some after ∧ c.SameButMark after

/-- Anybody may write the storage class of a declaration without it going. -/
structure Cluster.Quiet (n : String) (k : Cluster) : Prop where
  sound : k.Sound
  lasting : ∀ c : StorageClass, k.object? .storageClasses n = some c → Store.isReleased c = false

namespace StorageClass.SameButMark

variable {c after later desired : StorageClass}

theorem refl (c : StorageClass) : c.SameButMark c := ⟨rfl, rfl, rfl, fun _ _ => rfl⟩

theorem trans (first : c.SameButMark after) (second : after.SameButMark later) :
    c.SameButMark later where
  content := by
    have whole := second.content
    rw [← first.content, ← whole]
  annotations := second.annotations.trans first.annotations
  released := second.released.trans first.released
  labels key other := (second.labels key other).trans (first.labels key other)

theorem action (same : c.SameButMark after)
    (unmarked : (desired.metadata.labels.getD ∅).get? Names.mismatchLabel = none)
    (deleting : Bool) :
    StorageClass.action (some after) desired deleting =
      StorageClass.action (some c) desired deleting := by
  have labels : (after.metadata.labels.getD ∅).extends? (desired.metadata.labels.getD ∅) =
      (c.metadata.labels.getD ∅).extends? (desired.metadata.labels.getD ∅) := by
    rw [Bool.eq_iff_iff, Dict.extends?_iff, Dict.extends?_iff]
    refine forall₂_congr fun key value => ?_
    by_cases mark : key = Names.mismatchLabel
    · simp [mark, unmarked]
    · rw [same.labels key mark]
  have covers : after.metadata.covers desired.metadata = c.metadata.covers desired.metadata := by
    rw [Metadata.covers, labels, same.annotations]
    rfl
  have content := same.content
  rw [← content] at covers ⊢
  simp only [StorageClass.action, StorageClass.sameFixedFields, covers]
  rfl

end StorageClass.SameButMark

namespace Unmoved

variable {n : String} {k l m : Cluster} {op : Operator} {d : Declaration}

theorem refl (n : String) (k : Cluster) : Unmoved n k k :=
  ⟨id, rfl, rfl, fun _ _ => rfl, id, fun c found => ⟨c, found, .refl c⟩⟩

theorem trans (first : Unmoved n k l) (second : Unmoved n l m) : Unmoved n k m where
  sound := second.sound ∘ first.sound
  declaration := second.declaration.trans first.declaration
  config := second.config.trans first.config
  derived kind other := (second.derived kind other).trans (first.derived kind other)
  noStorageClass := second.noStorageClass ∘ first.noStorageClass
  storageClass c found := by
    obtain ⟨between, there, same⟩ := first.storageClass c found
    obtain ⟨after, found, sameAgain⟩ := second.storageClass between there
    exact ⟨after, found, same.trans sameAgain⟩

theorem of_same (sound : k.Sound → l.Sound)
    (same : ∀ c name, Belongs n c name → l.object? c name = k.object? c name)
    (config : l.config = k.config) : Unmoved n k l where
  sound := sound
  declaration := same _ _ (belongs_declaration n)
  config := config
  derived kind _ := same _ _ (belongs_derived kind n)
  noStorageClass absent := (same _ _ (belongs_derived .storageClass n)).trans absent
  storageClass c found :=
    ⟨c, (same _ _ (belongs_derived .storageClass n)).trans found, .refl c⟩

theorem quiet (unmoved : Unmoved n k l) (quiet : k.Quiet n) : l.Quiet n where
  sound := unmoved.sound quiet.sound
  lasting after found := by
    cases before : k.object? .storageClasses n with
    | none => exact nomatch (unmoved.noStorageClass before).symm.trans found
    | some c =>
        obtain ⟨after', found', same⟩ := unmoved.storageClass c before
        obtain rfl := Option.some.inj (found.symm.trans found')
        exact same.released.trans (quiet.lasting c before)

theorem action (unmoved : Unmoved n k l) (kind : DerivedKind) (deleting : Bool) :
    kind.action (l.derived kind n) (kind.wanted op d) deleting =
      kind.action (k.derived kind n) (kind.wanted op d) deleting := by
  cases kind with
  | secret => rw [unmoved.derived .secret nofun]
  | snapshotClass => rw [unmoved.derived .snapshotClass nofun]
  | storageClass =>
      cases before : k.object? .storageClasses n with
      | none =>
          have none : l.derived .storageClass n = k.derived .storageClass n :=
            (unmoved.noStorageClass before).trans before.symm
          rw [none]
      | some c =>
          obtain ⟨after, found, same⟩ := unmoved.storageClass c before
          have here : k.derived .storageClass n = some c := before
          have there : l.derived .storageClass n = some after := found
          rw [here, there]
          exact congrArg Except.ok (same.action rfl deleting)

theorem reason (unmoved : Unmoved n k l) (kind : DerivedKind) (deleting : Bool) :
    kind.reason (l.derived kind n) (kind.wanted op d) deleting =
      kind.reason (k.derived kind n) (kind.wanted op d) deleting := by
  rw [DerivedKind.reason, unmoved.action]
  rfl

theorem atRest (unmoved : Unmoved n k l) {kind : DerivedKind} {deleting : Bool}
    (atRest : kind.AtRest (k.derived kind n) (kind.wanted op d) deleting) :
    kind.AtRest (l.derived kind n) (kind.wanted op d) deleting := by
  rwa [DerivedKind.AtRest, unmoved.action, unmoved.reason]

theorem conclusion (unmoved : Unmoved n k l) :
    (d.conclusion op l.config fun kind => l.derived kind n) =
      d.conclusion op k.config fun kind => k.derived kind n := by
  rw [unmoved.config]
  exact Declaration.conclusion_congr rfl rfl fun kind => unmoved.reason kind false

end Unmoved

theorem AtPeace.unmoved {op : Operator} {n : String} {k l : Cluster} {next : Next}
    (atPeace : AtPeace op n k next) (unmoved : Unmoved n k l) : AtPeace op n l next := by
  cases atPeace with
  | gone absent => exact .gone (unmoved.declaration.trans absent)
  | letGo letGo =>
      exact .letGo
        { found := unmoved.declaration.trans letGo.found
          leaving := letGo.leaving
          unheld := letGo.unheld
          atRest := fun kind => unmoved.atRest (letGo.atRest kind) }
  | settled settled =>
      rw [← unmoved.conclusion]
      refine .settled
        { found := unmoved.declaration.trans settled.found
          named := settled.named
          staying := settled.staying
          held := settled.held
          status := ?_
          atRest := fun accepted kind => ?_ }
      · rw [unmoved.conclusion]
        exact settled.status
      · rw [unmoved.config] at accepted
        exact unmoved.atRest (settled.atRest accepted kind)

section Requests

variable {n m : String} {k l : Cluster} {r : Request} {answer : Except StoreError r.Answer}

theorem Spared.unmoved (spared : Spared n k l) : Unmoved n k l := by
  refine .of_same spared.sound (fun _ _ => spared.own) ?_
  rw [Cluster.config, spared.config]
  rfl

theorem unmoved_write_storageClass {name : String} {old new : StorageClass}
    (found : k.object? .storageClasses name = some old) (same : old.SameButMark new)
    (quiet : k.Quiet n) (timed : new.metadata.Timed) :
    Unmoved n k (k.write .storageClasses .patch name new) := by
  have others : ∀ {c : Collection} {target : String}, (c = .storageClasses → target ≠ name) →
      (k.write .storageClasses .patch name new).object? c target = k.object? c target :=
    Cluster.object?_write_of_ne k .storageClasses .patch name new
  constructor
  · exact fun sound => sound.write fun _ => timed
  · exact others nofun
  · exact congrArg (·.getD .unset) (others (c := .moduleConfigs) nofun)
  · intro kind other
    refine others fun isClass => absurd ?_ other
    cases kind with
    | storageClass => rfl
    | secret => exact nomatch isClass
    | snapshotClass => exact nomatch isClass
  · intro absent
    rw [others fun _ here => nomatch (here ▸ absent).symm.trans found]
    exact absent
  · intro c before
    by_cases here : n = name
    · subst here
      obtain rfl := Option.some.inj (found.symm.trans before)
      let written : StorageClass := (k.store .storageClasses).stamped n new
      have stays : Store.isReleased written = false :=
        (same.released.trans (quiet.lasting old found) :)
      refine ⟨written, ?_, same.trans ⟨rfl, rfl, rfl, fun _ _ => rfl⟩⟩
      rw [Cluster.object?_write_self, if_neg (Bool.eq_false_iff.mp stays)]
    · exact ⟨c, (others fun _ => here).trans before, .refl c⟩

/-- The storage class of a declaration may be marked while the declaration stays as it is. -/
theorem unmoved_of_marks (quiet : k.Quiet n) (marks : r.Marks) (served : k.Served r answer l) :
    Unmoved n k l := by
  rcases marks with reads | ⟨name, mismatch, rfl⟩
  · have spared : Spared n k l := .served served fun _ written => nomatch reads.symm.trans written
    exact spared.unmoved
  · cases served with
    | failed => exact .refl n k
    | patched _ _ _ old new answer found read =>
        have timed := (quiet.sound.tidy (c := .storageClasses) rfl).timed found
        obtain ⟨labels, rfl, same⟩ := Resource.decode_labelPatch timed read
        refine unmoved_write_storageClass found ⟨rfl, rfl, ?_, same⟩ quiet
          (Metadata.timed_toSeconds timed)
        exact congrArg (· && _) (Metadata.isDeleting_toSeconds (Resource.metadata old))

end Requests

section Programs

variable {n : String} {k m : Cluster} {α : Type} {a : α} {p : Program α}
  {allowed : Request → Prop}

theorem Program.Sends.unmoved {ended : α → Prop} (sends : p.Sends allowed ended)
    (step : ∀ {k l r answer}, k.Quiet n → allowed r → k.Served r answer l → Unmoved n k l)
    (quiet : k.Quiet n) (runs : p.RunsAmong (Unmoved n) k a m) : Unmoved n k m := by
  let invariant (l : Cluster) : Prop := l.Quiet n ∧ Unmoved n k l
  have upheld : p.Upholds (Unmoved n) (fun _ _ => True) (fun a l => ended a ∧ invariant l) k := by
    refine sends.upholds invariant ?_ ?_ ?_ ⟨quiet, .refl n k⟩
    · exact fun holds => holds.1.sound
    · exact fun holds others => ⟨others.quiet holds.1, holds.2.trans others⟩
    · intro l l' r answer holds isAllowed served
      have kept := step holds.1 isAllowed served
      exact ⟨⟨kept.quiet holds.1, holds.2.trans kept⟩, trivial⟩
  exact (upheld.runsAmong runs).2.2

theorem unmoved_component {op : Operator} {component : Component}
    (reconciles : component.reconciles) (other : component ≠ .declaration n) (quiet : k.Quiet n)
    (runs : (component.program op).RunsAmong (Unmoved n) k () m) : Unmoved n k m := by
  cases component with
  | declaration name =>
      have different : name ≠ n := fun same => other (congrArg _ same)
      exact (Program.Sends.discard (keepsWithin_reconcile op name)).unmoved
        (fun _ within served => ((confined_of_within within served).spared different.symm).unmoved)
        quiet runs
  | moduleConfig config =>
      exact (Program.Sends.discard (sends_moduleConfig op config)).unmoved unmoved_of_marks quiet
        runs
  | teardown => exact reconciles.elim

end Programs

/-- Between two passes over a declaration other passes run, and anybody does what leaves the
declaration alone. The declaration may have had passes without failures in between, too. -/
inductive Meanwhile (op : Operator) (n : String) (start : Cluster) : Cluster → Prop where
  | nothing : Meanwhile op n start start
  | run {k l : Cluster} (component : Component) (reconciles : component.reconciles)
      (other : component ≠ .declaration n)
      (runs : (component.program op).RunsAmong (Unmoved n) k () l) :
      Meanwhile op n start k → Meanwhile op n start l
  | changed {k l : Cluster} (unmoved : Unmoved n k l) :
      Meanwhile op n start k → Meanwhile op n start l
  | again {k : Cluster} (conditions : Conditions) :
      Meanwhile op n start k → Meanwhile op n start (k.passed op n conditions.calm)

section Quiescence

variable {op : Operator} {n : String} {k l : Cluster} {next : Next}

theorem unmoved_under (k : Cluster) (n : String) (conditions : Conditions) :
    Unmoved n k (k.under conditions) := by
  refine .of_same (fun sound => sound.under conditions) (fun c name _ => ?_) ?_
  · exact k.object?_under conditions c name
  · simp only [Cluster.config, Cluster.object?_under]

theorem AtPeace.looks_under (atPeace : AtPeace op n k next) (quiet : k.Quiet n)
    (conditions : Conditions) :
    Pass.Looks (DeclarationPass.reconcile op n) (k.under conditions.calm) next := by
  have unmoved := unmoved_under k n conditions.calm
  refine (atPeace.unmoved unmoved).looks (unmoved.sound quiet.sound) fun c verb => ?_
  rw [Cluster.refused_under]
  rfl

theorem AtPeace.meanwhile (atPeace : AtPeace op n k next) (quiet : k.Quiet n)
    (meanwhile : Meanwhile op n k l) : AtPeace op n l next ∧ l.Quiet n := by
  have moves : ∀ {k l}, AtPeace op n k next ∧ k.Quiet n → Unmoved n k l →
      AtPeace op n l next ∧ l.Quiet n := fun peace unmoved =>
    ⟨peace.1.unmoved unmoved, unmoved.quiet peace.2⟩
  induction meanwhile with
  | nothing => exact ⟨atPeace, quiet⟩
  | run component reconciles other runs _ inductionHypothesis =>
      exact moves inductionHypothesis
        (unmoved_component reconciles other inductionHypothesis.2 runs)
  | changed unmoved _ inductionHypothesis => exact moves inductionHypothesis unmoved
  | @again k conditions _ inductionHypothesis =>
      have same : k.passed op n conditions.calm = k.under conditions.calm :=
        congrArg Prod.snd (inductionHypothesis.1.looks_under inductionHypothesis.2 conditions).run
      rw [same]
      exact moves inductionHypothesis (unmoved_under k n conditions.calm)

end Quiescence

/-- After a pass without failures every later one writes nothing and comes to the same end, whatever
passes over other declarations and over the configuration ran in between. -/
theorem declaration_quiescent (op : Operator) {s l : Cluster} (reachable : s.Reachable)
    (lasting : s.NoneReleased) (n : String) (first later : Conditions)
    (meanwhile : Meanwhile op n (s.passed op n first.calm) l) :
    let pass := (DeclarationPass.reconcile op n).run
    ∃ next, (pass.run .direct (s.under first.calm)).1 = .ok next ∧
      (pass.run .direct (l.under later.calm)).1 = .ok next ∧
      ∀ r ∈ pass.requests (l.under later.calm), r.writes? = none := by
  intro pass
  have sound := reachable.sound.under first.calm
  have lasting := lasting.under first.calm
  obtain ⟨next, m, ran, atPeace⟩ := exists_atPeace op n sound lasting fun c verb => by
    rw [Cluster.refused_under]
    rfl
  have passed : s.passed op n first.calm = m := congrArg Prod.snd ran
  have quiet : m.Quiet n := by
    rw [← passed]
    constructor
    · exact Program.run_of_served Cluster.Sound (fun sound served => sound.served served) _ sound
    · exact Program.run_of_served Cluster.NoneReleased
        (fun lasting served => lasting.served served) _ lasting .storageClasses n
  rw [passed] at meanwhile
  obtain ⟨atPeace, quiet⟩ := atPeace.meanwhile quiet meanwhile
  have looks := atPeace.looks_under quiet later
  exact ⟨next, congrArg Prod.fst ran, congrArg Prod.fst looks.run, looks.reads⟩

def plainDeclaration : Declaration :=
  { metadata := { name := some "a" }
    spec :=
      { connection := { host := "host", share := "/share", nfsVersion := .v41 }
        reclaimPolicy := .delete
        volumeBindingMode := .immediate } }

def markedClass : StorageClass :=
  let c := (plainDeclaration.derive true Names.defaultNamespace).storageClass
  let labels := (c.metadata.labels.getD ∅).insert Names.mismatchLabel ModuleConfigPass.mismatchValue
  { c with metadata := { c.metadata with labels := some labels } }

def marked : Cluster :=
  (Cluster.setStore {} .declarations (Store.ofList [plainDeclaration])).setStore .storageClasses
    (Store.ofList [markedClass])

theorem reachable_marked : marked.Reachable := by
  refine .filled .storageClasses [markedClass] ?_ (.filled .declarations [plainDeclaration] ?_ .empty)
  all_goals
    intro object membership
    obtain rfl := List.mem_singleton.mp membership
    exact nofun

theorem lasting_marked : marked.NoneReleased := by
  refine .filled (.filled (k := {}) ?_ .declarations ?_) .storageClasses ?_
  · intro c name object present
    cases c <;> exact nomatch present
  all_goals
    intro object membership
    obtain rfl := List.mem_singleton.mp membership
    rfl

/-- The pass over the configuration takes the mark off after the first pass, and the next pass does
not mind. -/
theorem declaration_quiescent_marked :
    let conditions := Conditions.refusing .secrets .get
    let calm := conditions.calm
    let passed := marked.passed {} "a" calm
    let l := ((Component.moduleConfig ModuleConfig.singleton).program {} |>.run .direct passed).2
    let mark (k : Cluster) := (k.object? .storageClasses "a").bind fun c : StorageClass =>
      c.metadata.label? Names.mismatchLabel
    let pass := (DeclarationPass.reconcile {} "a").run
    mark passed = some ModuleConfigPass.mismatchValue ∧ mark l = none ∧
      ∃ next, (pass.run .direct (marked.under calm)).1 = .ok next ∧
        (pass.run .direct (l.under calm)).1 = .ok next ∧
        ∀ r ∈ pass.requests (l.under calm), r.writes? = none := by
  intro conditions calm passed l mark pass
  have runs : ∀ (component : Component) k, (component.program {}).RunsAmong (Unmoved "a") k ()
      ((component.program {}).run .direct k).2 :=
    fun component k => Program.runsAmong_run (Unmoved.refl "a") _ k
  have meanwhile : Meanwhile {} "a" passed l :=
    .run (.moduleConfig ModuleConfig.singleton) trivial nofun (runs _ _) .nothing
  refine ⟨by decide +kernel, by decide +kernel, ?_⟩
  exact declaration_quiescent {} reachable_marked lasting_marked "a" conditions conditions meanwhile

end NfsStorage

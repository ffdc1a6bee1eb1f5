import Mathlib.Data.List.Nodup
import NfsStorage.Proofs.Store.Conditions
import NfsStorage.Proofs.Teardown.Steps

/-!
# The outcome of the teardown

Whatever the servers refuse, a run of the teardown reports every failure once, and leaves of every
object what its own store allowed. A run that meets no failure leaves nothing that the module holds,
and it leaves the same whatever runs came before it.
-/

namespace NfsStorage.Teardown

section Together

variable {k : Cluster}

theorem asks_runSteps {allowed : Request → Prop} {list : List Step}
    (own : ∀ s ∈ list, ∀ r, r.collection = s.collection → allowed r) :
    (runSteps list).Asks allowed k := by
  induction list generalizing k with
  | nil => exact fun _ sent => nomatch sent
  | cons s rest inductionHypothesis =>
      refine Program.Asks.bind (Step.asks_run (own s (List.mem_cons_self ..)))
        (Program.Asks.bind ?_ fun _ sent => nomatch sent)
      exact inductionHypothesis fun other later => own other (List.mem_cons_of_mem _ later)

theorem faults_runSteps (list : List Step) :
    (runSteps list).faults k = ((runSteps list).run .direct k).1.flatMap Step.causes := by
  induction list generalizing k with
  | nil => rfl
  | cons s rest inductionHypothesis =>
      rw [runSteps, Program.faults_bind, Program.faults_bind, Program.run_bind, Program.run_bind,
        s.faults_run, inductionHypothesis, Program.faults_pure, List.append_nil, Program.run_pure,
        List.flatMap_append]

/-- Steps at work on different stores do together what each of them does alone. -/
theorem run_runSteps {list : List Step} (apart : (list.map Step.collection).Nodup) :
    let ended := (runSteps list).run .direct k
    ended.1 = list.flatMap (fun s => (s.run.run .direct k).1) ∧
      ∀ s ∈ list, ended.2.store s.collection = (s.run.run .direct k).2.store s.collection := by
  induction list generalizing k with
  | nil => exact ⟨rfl, fun _ none => nomatch none⟩
  | cons first rest inductionHypothesis =>
      obtain ⟨unlike, apart⟩ := List.nodup_cons.mp apart
      have others : ∀ s ∈ rest, s.collection ≠ first.collection :=
        fun s later same => unlike (same ▸ List.mem_map_of_mem later)
      let l := (first.run.run .direct k).2
      have clock : l.clock = k.clock := Program.clock_run _ _
      have elsewhere : ∀ s ∈ rest, l.store s.collection = k.store s.collection :=
        fun s later => Program.Asks.store_run (Step.asks_run fun r own here =>
          absurd (here.symm.trans own) (others s later))
      have alike : ∀ s ∈ rest, (s.run.run .direct l).1 = (s.run.run .direct k).1 ∧
          (s.run.run .direct l).2.store s.collection =
            (s.run.run .direct k).2.store s.collection :=
        fun s later => Program.Asks.run_congr (Step.asks_run fun _ own => own)
          (elsewhere s later) clock
      obtain ⟨reports, stores⟩ := inductionHypothesis (k := l) apart
      have here : ((runSteps rest).run .direct l).2.store first.collection =
          l.store first.collection :=
        Program.Asks.store_run (asks_runSteps fun s later r own same =>
          absurd (own.symm.trans same) (others s later))
      intro ended
      have ends : ended = ((first.run.run .direct k).1 ++ ((runSteps rest).run .direct l).1,
          ((runSteps rest).run .direct l).2) := by
        simp only [ended, runSteps, Program.run_bind, Program.run_pure, l]
      rw [ends, List.flatMap_cons]
      refine ⟨congrArg _ (reports.trans ?_), fun s membership => ?_⟩
      · exact congrArg List.flatten (List.map_congr_left fun s later => (alike s later).1)
      · rcases List.mem_cons.mp membership with rfl | later
        · exact here
        · exact (stores s later).trans (alike s later).2

theorem asks_runSteps_of_idle {list : List Step} (idle : ∀ s ∈ list, s.Idle k) :
    (runSteps list).Asks (fun r => r.writes? = none) k := by
  induction list with
  | nil => exact fun _ sent => nomatch sent
  | cons s rest inductionHypothesis =>
      have looks := Step.asks_run_of_idle (idle s (List.mem_cons_self ..))
      have rests := inductionHypothesis fun other later => idle other (List.mem_cons_of_mem _ later)
      refine Program.Asks.bind looks ?_
      rw [looks.run_of_reads]
      exact Program.Asks.bind rests fun _ sent => nomatch sent

end Together

theorem apart_steps : (steps.map Step.collection).Nodup := by decide

theorem kinds_steps : (steps.map Step.kind).Nodup := by decide

def torn (k : Cluster) (conditions : Conditions) : Cluster :=
  (run.run .direct (k.under conditions)).2

/-- In the stores of the teardown no object waits for its deletion with nothing left to hold it. -/
def Lasting (k : Cluster) : Prop :=
  ∀ s ∈ steps, ∀ name object, k.object? s.collection name = some object →
    Store.isReleased object = false

/-- What a run leaves of a cluster, with the failures that it reports. -/
structure Outcome (k l : Cluster) (errors : List Error) : Prop where
  reported : errors = steps.flatMap fun s => s.failures (k.store s.collection)
  done : ∀ s ∈ steps, s.Done (k.store s.collection) (l.store s.collection)
  elsewhere : ∀ c, c ∉ steps.map Step.collection → l.store c = k.store c
  held : ∀ s ∈ steps, ∀ name cause, .clearFinalizers s.kind name cause ∈ errors →
    ∃ object, k.object? s.collection name = some object ∧ l.object? s.collection name = some object
  storageClasses : ∀ name c, k.object? .storageClasses name = some c →
    c.provisioner ≠ Names.nfsDriver → l.object? .storageClasses name = some c
  snapshotClasses : ∀ name c, k.object? .snapshotClasses name = some c →
    c.driver ≠ Names.nfsDriver → l.object? .snapshotClasses name = some c

/-- Nothing holds the objects of a collection, and none of them is to go. -/
def Free (k : Cluster) (c : Collection) : Prop :=
  ∀ name object, k.object? c name = some object →
    (Resource.metadata object).finalizerList = [] ∧ Resource.isDeleting object = false

/-- There is nothing left for the teardown to do. -/
structure Clear (k : Cluster) : Prop where
  secrets : Free k .secrets
  configMaps : Free k .configMaps
  declarations : Free k .declarations
  storageClasses : ∀ name c, k.object? .storageClasses name = some c →
    c.provisioner ≠ Names.nfsDriver
  snapshotClasses : ∀ name c, k.object? .snapshotClasses name = some c →
    c.driver ≠ Names.nfsDriver

section Outcome

variable {k : Cluster}

theorem Step.Done.met {s : Step} {k l : Cluster}
    (done : s.Done (k.store s.collection) (l.store s.collection)) {name : String}
    {object : s.collection.Object} (found : k.object? s.collection name = some object) :
    (s.fate (k.refused s.collection) object).Met object (l.object? s.collection name) := by
  have fate := done name
  rw [show (k.store s.collection).get? name = some object from found] at fate
  exact fate

theorem Step.Done.exists_met {s : Step} {k l : Cluster}
    (done : s.Done (k.store s.collection) (l.store s.collection)) {name : String}
    {left : s.collection.Object} (found : l.object? s.collection name = some left) :
    ∃ object, k.object? s.collection name = some object ∧
      (s.fate (k.refused s.collection) object).Met object (some left) := by
  have fate := done name
  cases before : (k.store s.collection).get? name with
  | none =>
      rw [before] at fate
      exact nomatch fate.symm.trans found
  | some object =>
      refine ⟨object, before, ?_⟩
      rw [← found]
      exact done.met before

theorem Step.Done.same_of_not_takes {s : Step} {k l : Cluster}
    (done : s.Done (k.store s.collection) (l.store s.collection)) {name : String}
    {object : s.collection.Object} (found : k.object? s.collection name = some object)
    (leaves : s.takes object = false) : l.object? s.collection name = some object := by
  have met := done.met found
  rwa [Step.fate_eq_stays_of_not_takes leaves] at met

theorem done_run (reachable : k.Reachable) {s : Step} (listed : s ∈ steps) :
    s.Done (k.store s.collection) ((run.run .direct k).2.store s.collection) := by
  obtain ⟨-, stores⟩ := run_runSteps (k := k) apart_steps
  rw [run, stores s listed]
  exact (Step.run_run (Step.fair_of_mem listed) reachable).2

theorem run_eq_failures (reachable : k.Reachable) :
    (run.run .direct k).1 = steps.flatMap fun s => s.failures (k.store s.collection) := by
  obtain ⟨reports, -⟩ := run_runSteps (k := k) apart_steps
  exact reports.trans (congrArg List.flatten (List.map_congr_left fun s listed =>
    (Step.run_run (Step.fair_of_mem listed) reachable).1))

theorem outcome_run (reachable : k.Reachable) :
    Outcome k (run.run .direct k).2 (run.run .direct k).1 := by
  have spared : ∀ s ∈ steps, ∀ name object, k.object? s.collection name = some object →
      s.takes object = false → (run.run .direct k).2.object? s.collection name = some object :=
    fun s listed name object found => (done_run reachable listed).same_of_not_takes found
  simp only [steps, List.forall_mem_cons] at spared
  obtain ⟨-, -, storageClasses, snapshotClasses, -⟩ := spared
  refine ⟨run_eq_failures reachable, fun s => done_run reachable, fun c other => ?_,
    fun s listed name cause failed => ?_,
    fun name c found other => storageClasses name c found (decide_eq_false other),
    fun name c found other => snapshotClasses name c found (decide_eq_false other)⟩
  · exact Program.Asks.store_run (asks_runSteps fun s listed r own here =>
      absurd (List.mem_map.mpr ⟨s, listed, own.symm.trans here⟩) other)
  · rw [run_eq_failures reachable] at failed
    obtain ⟨s', listed', failed⟩ := List.mem_flatMap.mp failed
    obtain ⟨kind, object, present, rfl, stays⟩ := Step.exists_of_mem_failures failed
    obtain rfl := List.inj_on_of_nodup_map kinds_steps listed listed' kind
    have := (Step.fair_of_mem listed).lawful
    have found := (reachable.tidy s.collection).object?_of_mem present
    have met := (done_run reachable listed).met found
    rw [show s.fate (k.refused s.collection) object = .stays from stays] at met
    exact ⟨object, found, met⟩

end Outcome

section Calm

variable {k : Cluster} (conditions : Conditions)

theorem reachable_torn (reachable : k.Reachable) : (torn k conditions).Reachable :=
  .run _ (reachable.under conditions)

/-- After a run without failures, every object that a step takes is free, and the step does not
delete it. -/
theorem cleared_torn (reachable : k.Reachable) {s : Step} (listed : s ∈ steps) {name : String}
    {left : s.collection.Object}
    (found : (torn k conditions.calm).object? s.collection name = some left)
    (takes : s.takes left = true) :
    s.deletes = false ∧ (Resource.metadata left).finalizerList = [] ∧
      (Lasting k → Resource.isDeleting left = false) := by
  obtain ⟨object, before, met⟩ :=
    (done_run (reachable.under conditions.calm) listed).exists_met found
  rw [Cluster.refused_under] at met
  rw [Cluster.object?_under] at before
  obtain ⟨spares, bare, alive⟩ := Step.cleared_of_met (Step.fair_of_mem listed) met takes
  exact ⟨spares, bare, fun lasting => alive (lasting s listed name object before)⟩

theorem clear_torn (reachable : k.Reachable) (lasting : Lasting k) :
    Clear (torn k conditions.calm) := by
  have cleared : ∀ s ∈ steps, ∀ name left,
      (torn k conditions.calm).object? s.collection name = some left → s.takes left = true →
      s.deletes = false ∧ (Resource.metadata left).finalizerList = [] ∧
        Resource.isDeleting left = false := by
    intro s listed name left found takes
    obtain ⟨spares, bare, alive⟩ := cleared_torn conditions reachable listed found takes
    exact ⟨spares, bare, alive lasting⟩
  simp only [steps, List.forall_mem_cons] at cleared
  obtain ⟨secrets, configMaps, storageClasses, snapshotClasses, declarations, -⟩ := cleared
  refine ⟨fun name object found => (secrets name object found trivial).2,
    fun name object found => (configMaps name object found trivial).2,
    fun name object found => (declarations name object found trivial).2,
    fun name c found ours => ?_, fun name c found ours => ?_⟩
  · exact Bool.false_ne_true (storageClasses name c found (decide_eq_true ours)).1.symm
  · exact Bool.false_ne_true (snapshotClasses name c found (decide_eq_true ours)).1.symm

theorem run_calm (reachable : k.Reachable) :
    (run.run .direct (k.under conditions.calm)).1 = [] := by
  rw [run_eq_failures (reachable.under conditions.calm)]
  refine List.flatMap_eq_nil_iff.mpr fun s _ => Step.failures_calm ?_
  exact congrFun (Cluster.refused_under k conditions.calm) s.collection

theorem asks_torn (reachable : k.Reachable) (again : Conditions) :
    run.Asks (fun r => r.writes? = none) ((torn k conditions.calm).under again) := by
  refine asks_runSteps_of_idle fun s listed object present takes => ?_
  have := (Step.fair_of_mem listed).lawful
  have tidy := ((reachable_torn conditions.calm reachable).under again).tidy s.collection
  have found := tidy.object?_of_mem present
  rw [Cluster.object?_under] at found
  obtain ⟨spares, bare, -⟩ := cleared_torn conditions reachable listed found takes
  exact ⟨spares, bare⟩

end Calm

section Convergence

variable {k : Cluster}

theorem elsewhere_torn (reachable : k.Reachable) (conditions : Conditions) {c : Collection}
    (other : c ∉ steps.map Step.collection) (name : String) :
    (torn k conditions).object? c name = k.object? c name := by
  have same := (outcome_run (reachable.under conditions)).elsewhere c other
  exact (congrArg (·.get? name) same).trans (Cluster.object?_under ..)

/-- A run leaves what remains of every object in the end as it is. -/
theorem bind_remains_torn (reachable : k.Reachable) (conditions : Conditions) {s : Step}
    (listed : s ∈ steps) (name : String) :
    ((torn k conditions).object? s.collection name).bind s.remains =
      (k.object? s.collection name).bind s.remains := by
  have done := done_run (reachable.under conditions) listed
  cases before : k.object? s.collection name with
  | some object =>
      have met := done.met (before ▸ Cluster.object?_under ..)
      exact Step.bind_remains_of_met (Step.fair_of_mem listed) met
  | none =>
      cases after : (torn k conditions).object? s.collection name with
      | none => rfl
      | some left =>
          obtain ⟨object, found, -⟩ := done.exists_met after
          rw [Cluster.object?_under, before] at found
          exact nomatch found

theorem unversioned_torn (reachable : k.Reachable) (conditions : Conditions) {s : Step}
    (listed : s ∈ steps) (name : String) :
    ((torn k conditions.calm).object? s.collection name).map Resource.unversioned =
      (k.object? s.collection name).bind s.remains := by
  have := (Step.fair_of_mem listed).lawful
  have done := done_run (reachable.under conditions.calm) listed
  cases before : k.object? s.collection name with
  | some object =>
      have met := done.met (before ▸ Cluster.object?_under ..)
      rw [Cluster.refused_under] at met
      exact Step.map_unversioned_of_met met
  | none =>
      cases after : (torn k conditions.calm).object? s.collection name with
      | none => rfl
      | some left =>
          obtain ⟨object, found, -⟩ := done.exists_met after
          rw [Cluster.object?_under, before] at found
          exact nomatch found

/-- Runs that failed as they may change nothing about what the last one leaves. -/
theorem unversioned_attempts (reachable : k.Reachable) (attempts : List Conditions)
    (last once : Conditions) (c : Collection) (name : String) :
    ((torn (attempts.foldl torn k) last.calm).object? c name).map Resource.unversioned =
      ((torn k once.calm).object? c name).map Resource.unversioned := by
  induction attempts generalizing k with
  | nil =>
      by_cases listed : c ∈ steps.map Step.collection
      · obtain ⟨s, member, rfl⟩ := List.mem_map.mp listed
        exact (unversioned_torn reachable last member name).trans
          (unversioned_torn reachable once member name).symm
      · rw [List.foldl_nil, elsewhere_torn reachable last.calm listed,
          elsewhere_torn reachable once.calm listed]
  | cons first rest inductionHypothesis =>
      refine (inductionHypothesis (reachable_torn first reachable)).trans ?_
      by_cases listed : c ∈ steps.map Step.collection
      · obtain ⟨s, member, rfl⟩ := List.mem_map.mp listed
        rw [unversioned_torn (reachable_torn first reachable) once member,
          bind_remains_torn reachable first member, unversioned_torn reachable once member]
      · rw [elsewhere_torn (reachable_torn first reachable) once.calm listed,
          elsewhere_torn reachable first listed, elsewhere_torn reachable once.calm listed]

end Convergence

/-- A run reports exactly what failed and brings about the fate of every object, each store apart
from the others. Without failures nothing is left of the module and a run after it has nothing to
do, and what is left does not depend on the runs that failed before. -/
theorem teardown_exact {k : Cluster} (reachable : k.Reachable) (lasting : Lasting k)
    (conditions : Conditions) :
    let start := k.under conditions
    let (errors, l) := run.run .direct start
    Outcome start l errors ∧ run.faults start = errors.map Error.cause ∧
      (∀ other : Conditions, other.clock = conditions.clock → ∀ s ∈ steps,
        other.refused s.collection = conditions.refused s.collection →
        (torn k other).store s.collection = l.store s.collection) ∧
      (run.run .direct (k.under conditions.calm)).1 = [] ∧ Clear (torn k conditions.calm) ∧
      (∀ again : Conditions,
        run.Asks (fun r => r.writes? = none) ((torn k conditions.calm).under again)) ∧
      ∀ (attempts : List Conditions) (last : Conditions) (c : Collection) (name : String),
        ((torn (attempts.foldl torn k) last.calm).object? c name).map Resource.unversioned =
          ((torn k conditions.calm).object? c name).map Resource.unversioned := by
  refine ⟨outcome_run (reachable.under conditions),
    (faults_runSteps steps).trans List.map_eq_flatMap.symm,
    fun other clock s listed same => ?_, run_calm conditions reachable,
    clear_torn conditions reachable lasting, asks_torn conditions reachable,
    fun attempts last c name => unversioned_attempts reachable attempts last conditions c name⟩
  obtain ⟨-, here⟩ := run_runSteps (k := k.under conditions) apart_steps
  obtain ⟨-, there⟩ := run_runSteps (k := k.under other) apart_steps
  have alike : (k.under other).store s.collection = (k.under conditions).store s.collection := by
    rw [Cluster.store_under, Cluster.store_under, same]
  have congruent := Program.Asks.run_congr (Step.asks_run (s := s) fun _ own => own) alike clock
  exact ((there s listed).trans congruent.2).trans (here s listed).symm

/-- A secret that waits for its deletion, a class of the module and one of another driver. -/
def clinging : Cluster :=
  let held : Cluster := Cluster.setStore {} .secrets (Store.ofList [
    { metadata := {
        name := some "a"
        finalizers := some ["example.com/hold"]
        deletionTimestamp := some ⟨⟨2024, 1, 1⟩, 0, 0, 0, 0⟩ } }])
  held.setStore .storageClasses (Store.ofList [
    { metadata := { name := some "b", finalizers := some [Names.finalizer] }
      provisioner := Names.nfsDriver },
    { metadata := { name := some "c", finalizers := some [Names.finalizer] }
      provisioner := "example.com/other" }])

def hindered : Conditions where
  refused c verb :=
    match c, verb with
    | .secrets, .patch | .storageClasses, .delete => some 500
    | _, _ => none
  clock := ⟨⟨2024, 1, 2⟩, 0, 0, 0, 0⟩
  valid := by decide

/-- The secret keeps its finalizer and the class loses it but stays; a run without failures makes
both go, as it would have done at once. -/
theorem teardown_exact_clinging :
    clinging.Reachable ∧ Lasting clinging ∧
      (run.run .direct (clinging.under hindered)).1 =
        [.clearFinalizers "Secret" "a" (.api (Verb.patch.refusal 500 "a")),
          .delete "StorageClass" "b" (.api (Verb.delete.refusal 500 "b"))] ∧
      (torn clinging hindered).object? .secrets "a" = clinging.object? .secrets "a" ∧
      Clear (torn clinging hindered.calm) ∧
      ∀ c name, ((torn (torn clinging hindered) hindered.calm).object? c name).map
        Resource.unversioned = ((torn clinging hindered.calm).object? c name).map
          Resource.unversioned := by
  have reachable : clinging.Reachable := by
    refine .filledAlive .storageClasses rfl (.filled .secrets _ ?_ .empty)
    intro object membership
    obtain rfl := List.mem_singleton.mp membership
    rintro time ⟨⟩
    decide
  have lasting : clinging.NoneReleased := by
    refine .filled (.filled (k := {}) ?_ .secrets ?_) .storageClasses ?_
    · intro c name object present
      cases c <;> exact nomatch present
    all_goals decide
  have lasting : Lasting clinging := fun s _ => lasting s.collection
  obtain ⟨outcome, -, -, -, clear, -, converges⟩ := teardown_exact reachable lasting hindered
  have failures := outcome.reported
  refine ⟨reachable, lasting, ?_, ?_, clear, fun c name => converges [hindered] hindered c name⟩
  · exact failures.trans (by decide +kernel)
  · decide +kernel

end NfsStorage.Teardown

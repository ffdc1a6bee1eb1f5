import NfsStorage.Proofs.Orphans.Passes

/-!
# No orphans

A cluster that users and passes work on at the same time: a pass goes on by one request at a time,
and between its requests anybody else may go on. At no moment is a derived object there without its
declaration, and without the finalizer that keeps the declaration from going.
-/

namespace NfsStorage

open DeclarationPass (DerivedKind)

/-- What the operator does. There is one pass at a time over each declaration; passes over the
configuration may overlap. -/
inductive Task where
  | declaration (name : String)
  | moduleConfig (worker : Nat)
deriving DecidableEq

namespace Task

def own : Task → Option String
  | declaration name => some name
  | moduleConfig _ => none

/-- The programs that a task consists of, for an operator with any settings. -/
inductive Consists : Task → Program Unit → Prop where
  | declaration (op : Operator) (name : String) :
      Consists (.declaration name) (Functor.discard (DeclarationPass.reconcile op name).run)
  | moduleConfig (op : Operator) (worker : Nat) (name : String) :
      Consists (.moduleConfig worker) (Functor.discard (ModuleConfigPass.reconcile op name).run)

end Task

/-- What users ask for: they create, replace and delete declarations, and once a declaration has the
finalizer of the module they leave it on. -/
inductive Cluster.UserMayAsk (k : Cluster) : Request → Prop where
  | create (d : Declaration) : UserMayAsk k (.create .declarations d)
  | replace (name : String) (d : Declaration)
      (kept : k.Holds name → Names.finalizer ∈ d.metadata.finalizerList) :
      UserMayAsk k (.replace .declarations name d)
  | delete (name : String) : UserMayAsk k (.delete .declarations name)

/-- A cluster and what is left to do of each task that was begun. -/
structure System where
  cluster : Cluster
  tasks : Task → Option (Program Unit)

namespace System

def setTask (s : System) (task : Task) (rest : Option (Program Unit)) : System :=
  { s with tasks := fun other => if other = task then rest else s.tasks other }

/-- What may happen next. A task may end or be given up wherever it is. -/
inductive Step : System → System → Prop where
  | user {s : System} {r : Request} (asked : s.cluster.UserMayAsk r) :
      Step s { s with cluster := (s.cluster.serve r).2 }
  | moduleConfigs {s : System} (configs : Store ModuleConfig) :
      Step s { s with cluster := s.cluster.setStore .moduleConfigs configs }
  | refusals {s : System} (c : Collection) (refused : Verb → Option Nat) :
      Step s { s with cluster := s.cluster.withRefusals c refused }
  | clock {s : System} {clock : Time} (valid : clock.Valid) :
      Step s { s with cluster := { s.cluster with clock } }
  | start {s : System} {task : Task} {program : Program Unit} (idle : s.tasks task = none)
      (consists : task.Consists program) : Step s (s.setTask task (some program))
  | request {s : System} {task : Task} {r : Request}
      {next : Except StoreError r.Answer → Program Unit}
      (underWay : s.tasks task = some (.request r next)) :
      Step s { s.setTask task (some (next (s.cluster.serve r).1)) with
        cluster := (s.cluster.serve r).2 }
  | sleep {s : System} {task : Task} {milliseconds : Nat} {next : Program Unit}
      (underWay : s.tasks task = some (.sleep milliseconds next)) :
      Step s (s.setTask task (some next))
  | stop {s : System} (task : Task) : Step s (s.setTask task none)

inductive Reaches (start : System) : System → Prop where
  | refl : Reaches start start
  | step {s s' : System} : Reaches start s → Step s s' → Reaches start s'

theorem Reaches.run {start s : System} (reaches : start.Reaches s) {task : Task}
    {program : Program Unit} (underWay : s.tasks task = some program) :
    ∃ s', start.Reaches s' ∧ s'.cluster = (program.run .direct s.cluster).2 := by
  induction program generalizing s with
  | done a => exact ⟨s, reaches, rfl⟩
  | request r next inductionHypothesis =>
      exact inductionHypothesis _ (reaches.step (.request underWay)) (if_pos rfl)
  | sleep milliseconds next inductionHypothesis =>
      exact inductionHypothesis (s := s.setTask task (some next)) (reaches.step (.sleep underWay))
        (if_pos rfl)

/-- The cluster is guarded, and every task goes on as it may whatever the others do. -/
structure Orderly (s : System) : Prop where
  guarded : s.cluster.Guarded
  upheld : ∀ task program, s.tasks task = some program →
    program.Upholds (Trusts task.own) (Respects task.own) (fun _ _ => True) s.cluster

end System

theorem Respects.trusts_of_ne {task other : Task} {k l : Cluster}
    (respects : Respects task.own k l) (different : other ≠ task) : Trusts other.own k l := by
  refine respects.trusts fun n isOther isOwn => different ?_
  cases task with
  | moduleConfig worker => exact nomatch isOwn
  | declaration name =>
      cases other with
      | moduleConfig worker => exact nomatch isOther
      | declaration name' =>
          obtain rfl := Option.some.inj isOwn
          obtain rfl := Option.some.inj isOther
          rfl

theorem upholds_of_consists {task : Task} {program : Program Unit} {k : Cluster}
    (consists : task.Consists program) (guarded : k.Guarded) :
    program.Upholds (Trusts task.own) (Respects task.own) (fun _ _ => True) k := by
  cases consists with
  | declaration op name =>
      exact Program.Upholds.discard (works_reconcile op guarded) fun _ _ _ => trivial
  | moduleConfig op worker name =>
      exact Program.Upholds.discard (marks_reconcile op name guarded) fun _ _ _ => trivial

theorem respects_user {k : Cluster} {r : Request} (asked : k.UserMayAsk r) :
    Respects none k (k.serve r).2 := by
  intro guarded
  have written : ∀ {verb n} {new : Declaration}, new.metadata.Timed →
      (k.Holds n → Names.finalizer ∈ new.metadata.finalizerList) →
      (k.write .declarations verb n new).Guarded ∧
        ∀ m, none ≠ some m → Cluster.Spares m k (k.write .declarations verb n new) :=
    fun timed kept => ⟨guarded.write_declaration timed fun ⟨_, there⟩ => kept (guarded.held _ there),
      fun m _ => Cluster.spares_write_declaration kept m⟩
  have answered := k.served r
  generalize (k.serve r).1 = answer at answered
  generalize (k.serve r).2 = l at answered
  cases asked with
  | create d =>
      cases answered with
      | failed => exact Respects.refl none k guarded
      | created _ _ _ absent =>
          refine written (Store.timed_made d) fun ⟨held, present, _⟩ => ?_
          exact nomatch present.symm.trans absent
  | replace name d kept =>
      cases answered with
      | failed => exact Respects.refl none k guarded
      | replaced _ _ _ old _ found =>
          have timed := (guarded.sound.tidy (c := .declarations) rfl).timed found
          exact written timed kept
  | delete name =>
      cases answered with
      | failed => exact Respects.refl none k guarded
      | alreadyGone => exact Respects.refl none k guarded
      | deleted _ _ old found =>
          have timed := (guarded.sound.tidy (c := .declarations) rfl).timed found
          refine written (Store.timed_asked guarded.sound.clock timed)
            fun ⟨held, present, finalizer⟩ => ?_
          obtain rfl := Option.some.inj (found.symm.trans present)
          exact finalizer

theorem respects_of_same {own : Option String} {k l : Cluster}
    (clock : k.clock.Valid → l.clock.Valid)
    (same : ∀ c : Collection, c.isManaged = true →
      ∀ name, l.object? c name = k.object? c name) : Respects own k l := fun guarded =>
  ⟨guarded.of_same (clock guarded.sound.clock) same, fun n _ =>
    .of_same (same .declarations rfl n) fun kind => same _ kind.isManaged_collection _⟩

namespace System

theorem Orderly.of_respects {s : System} (orderly : s.Orderly) {l : Cluster}
    (respects : Respects none s.cluster l) : Orderly { s with cluster := l } where
  guarded := (respects orderly.guarded).1
  upheld task program underWay :=
    (orderly.upheld task program underWay).of_rely Trusts.trans (fun _ _ => trivial)
      (respects.trusts nofun)

theorem Orderly.setTask {s : System} (orderly : s.Orderly) {task : Task}
    {rest : Option (Program Unit)}
    (upheld : ∀ program, rest = some program →
      program.Upholds (Trusts task.own) (Respects task.own) (fun _ _ => True) s.cluster) :
    (s.setTask task rest).Orderly where
  guarded := orderly.guarded
  upheld other program underWay := by
    change (if other = task then rest else s.tasks other) = some program at underWay
    split at underWay
    next same =>
      subst same
      exact upheld program underWay
    next => exact orderly.upheld other program underWay

theorem Orderly.step {s s' : System} (orderly : s.Orderly) (step : Step s s') : s'.Orderly := by
  cases step with
  | user asked => exact orderly.of_respects (respects_user asked)
  | moduleConfigs configs =>
      refine orderly.of_respects (respects_of_same (fun valid => by simpa using valid) ?_)
      rintro c managed
      refine Cluster.object?_setStore_of_ne _ _ ?_
      rintro rfl
      exact nomatch managed
  | refusals c refused =>
      exact orderly.of_respects (respects_of_same
        (fun valid => by simpa [Cluster.withRefusals] using valid)
        fun d _ => Cluster.object?_withRefusals _ c d refused)
  | clock valid =>
      exact orderly.of_respects (respects_of_same (fun _ => valid)
        fun d _ => Cluster.object?_withClock _ _ d)
  | start idle consists =>
      refine orderly.setTask fun program started => ?_
      obtain rfl := Option.some.inj started
      exact upholds_of_consists consists orderly.guarded
  | @request task r next underWay =>
      obtain ⟨respects, rest⟩ := orderly.upheld _ _ underWay s.cluster
        fun guarded => ⟨guarded, fun n _ => .refl n _⟩
      refine ⟨(respects orderly.guarded).1, fun other program underWay' => ?_⟩
      change (if other = task then some (next (s.cluster.serve r).1) else s.tasks other) =
        some program at underWay'
      split at underWay'
      next same =>
        subst same
        obtain rfl := Option.some.inj underWay'
        exact rest
      next different =>
        exact (orderly.upheld other program underWay').of_rely Trusts.trans (fun _ _ => trivial)
          (respects.trusts_of_ne different)
  | sleep underWay =>
      refine orderly.setTask fun program rest => ?_
      obtain rfl := Option.some.inj rest
      have upheld := orderly.upheld _ _ underWay
      exact upheld
  | stop task =>
      refine orderly.setTask fun program started => ?_
      cases started

theorem Orderly.reaches {start s : System} (orderly : start.Orderly) (reaches : start.Reaches s) :
    s.Orderly := by
  induction reaches with
  | refl => exact orderly
  | step _ step inductionHypothesis => exact inductionHypothesis.step step

theorem orderly_of_empty {start : System} (reachable : start.cluster.Reachable)
    (empty : ∀ (kind : DerivedKind) name, start.cluster.object? kind.collection name = none)
    (idle : ∀ task, start.tasks task = none) : start.Orderly where
  guarded :=
    { sound := reachable.sound
      ours := fun kind name _ present => nomatch (empty kind name).symm.trans present
      held := fun kind n present => absurd (empty kind (kind.nameOf n)) present }
  upheld task _ underWay := nomatch (idle task).symm.trans underWay

/-- At every moment the derived objects that are there belong to a declaration that is there and
has the finalizer of the module. -/
theorem no_orphans {start s : System} (reachable : start.cluster.Reachable)
    (empty : ∀ (kind : DerivedKind) name, start.cluster.object? kind.collection name = none)
    (idle : ∀ task, start.tasks task = none) (reaches : start.Reaches s) {n : String}
    (present : s.cluster.object? .storageClasses n ≠ none ∨
      s.cluster.object? .secrets (Names.secretNameOf n) ≠ none ∨
      s.cluster.object? .snapshotClasses n ≠ none) :
    ∃ d, s.cluster.object? .declarations n = some d ∧
      Names.finalizer ∈ d.metadata.finalizerList := by
  have guarded := ((orderly_of_empty reachable empty idle).reaches reaches).guarded
  rcases present with storageClass | secret | snapshotClass
  · exact guarded.held .storageClass storageClass
  · exact guarded.held .secret secret
  · exact guarded.held .snapshotClass snapshotClass

def fresh : System where
  cluster := Cluster.setStore {} .declarations (Store.ofList [
    { metadata := { name := some "a" }
      spec :=
        { connection := { host := "host", share := "/share", nfsVersion := .v41 }
          reclaimPolicy := .delete
          volumeBindingMode := .immediate } }])
  tasks _ := none

/-- The first pass over a new declaration makes its storage class, and holds the declaration. -/
theorem no_orphans_fresh : ∃ s, fresh.Reaches s ∧ s.cluster.object? .storageClasses "a" ≠ none ∧
    ∃ d, s.cluster.object? .declarations "a" = some d ∧
      Names.finalizer ∈ d.metadata.finalizerList := by
  let pass : Program Unit := Functor.discard (DeclarationPass.reconcile {} "a").run
  have reachable : fresh.cluster.Reachable := .filled .declarations _ (by
    intro d membership
    obtain rfl := List.mem_singleton.mp membership
    exact nofun) .empty
  have empty : ∀ (kind : DerivedKind) name, fresh.cluster.object? kind.collection name = none := by
    intro kind name
    cases kind <;> rfl
  have begun : fresh.Reaches (fresh.setTask (.declaration "a") (some pass)) :=
    .step .refl (.start rfl (.declaration {} "a"))
  have underWay : (fresh.setTask (.declaration "a") (some pass)).tasks (.declaration "a") =
      some pass := rfl
  obtain ⟨s, reaches, cluster⟩ := begun.run underWay
  have made : s.cluster.object? .storageClasses "a" ≠ none := by
    rw [cluster]
    decide +kernel
  exact ⟨s, reaches, made, no_orphans reachable empty (fun _ => rfl) reaches (Or.inl made)⟩

end System

end NfsStorage

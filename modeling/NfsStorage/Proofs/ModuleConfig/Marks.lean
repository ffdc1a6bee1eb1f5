import Mathlib.Data.List.Basic
import NfsStorage.Controller.ModuleConfig
import NfsStorage.Proofs.Codec.Labels
import NfsStorage.Proofs.Program.Collecting
import NfsStorage.Proofs.Program.Upholds
import NfsStorage.Proofs.Store.Conditions
import NfsStorage.Proofs.Store.Listing
import NfsStorage.Proofs.Store.Verdict

/-!
# The marks of storage classes

A check of one declaration writes its storage class at most, and of it at most the mark: whether the
configuration accepts the declaration. If the write is refused the check says so, and the class stays
as it is.
-/

namespace NfsStorage.ModuleConfigPass

/-- The calls that failed, as far as an error tells of them. -/
def Error.causes : Error → List StoreError
  | getModuleConfig cause | listDeclarations cause | listStorageClasses cause
  | updateLabels _ cause => [cause]
  | missingStorageClass _ => []

/-- The metadata differ at most in the mark, in the version and in the fraction of a time. -/
structure Alike (m m' : Metadata) : Prop where
  fields : ∃ labels resourceVersion deletionTimestamp,
    m' = { m with labels, resourceVersion, deletionTimestamp }
  labels : ∀ key, key ≠ Names.mismatchLabel → m'.label? key = m.label? key
  seconds : m'.toSeconds.deletionTimestamp = m.toSeconds.deletionTimestamp

theorem Alike.refl (m : Metadata) : Alike m m := ⟨⟨_, _, _, rfl⟩, fun _ _ => rfl, rfl⟩

theorem alike_relabelled {m : Metadata} {name : String} (named : m.name = some name)
    {labels : Labels} (others : ∀ key, key ≠ Names.mismatchLabel →
      labels.get? key = m.label? key) (version : Option String) :
    Alike m { m.toSeconds with
      labels := some labels, resourceVersion := version, name := some name } where
  fields := ⟨some labels, version, m.toSeconds.deletionTimestamp, by rw [← named]; rfl⟩
  labels := others
  seconds := by
    change (m.deletionTimestamp.map Time.toSeconds).map Time.toSeconds = _
    rw [Option.map_map]
    rfl

theorem mismatchPatch_eq (mismatch : Bool) :
    mismatchPatch mismatch = .object [("metadata", .object [("labels", .object
      [(Names.mismatchLabel, (if mismatch then some mismatchValue else none).elim .null
        Json.string)])])] := by
  cases mismatch <;> rfl

/-- The mark of a class can always be set, and nothing else changes with it. -/
theorem exists_decode_mismatchPatch {c : StorageClass} (timed : c.metadata.Timed)
    (mismatch : Bool) :
    ∃ labels : Labels,
      decode (Json.merge (encode c) (mismatchPatch mismatch)) =
        some (Resource.withMetadata c { c.metadata.toSeconds with labels := some labels }) ∧
      labels.get? Names.mismatchLabel = (if mismatch then some mismatchValue else none) ∧
      ∀ key, key ≠ Names.mismatchLabel → labels.get? key = c.metadata.label? key := by
  obtain ⟨labels, read, marked, others⟩ := Resource.exists_decode_labelPatch (K := StorageClass) timed
    Names.mismatchLabel (if mismatch then some mismatchValue else none)
  rw [mismatchPatch_eq]
  refine ⟨labels, read, marked, fun key different => ?_⟩
  rw [others key different, Metadata.label?_eq]
  rfl

theorem isMarked_iff {c : StorageClass} :
    isMarked c = true ↔ c.metadata.label? Names.mismatchLabel = some "true" :=
  decide_eq_true_iff

theorem isAdmitted_iff {op : Operator} {config : ModuleConfig} {d : Declaration} :
    isAdmitted op config d = true ↔ config.validate op.tls d = .ok () := by
  rw [isAdmitted]
  cases config.validate op.tls d <;> simp

section SetMark

variable {k : Cluster} {c : StorageClass} {mismatch : Bool}

def unmarked? (c : StorageClass) (mismatch : Bool) (refused : Option Nat) : Option Error :=
  if isMarked c = mismatch then none
  else refused.map fun code => .updateLabels c.name (.api (Verb.patch.refusal code c.name))

/-- What is found in the place of a class after a pass set its mark, unless that was refused. -/
def Marked (c : StorageClass) (mismatch : Bool) (refused : Option Nat)
    (found : Option StorageClass) : Prop :=
  ∃ c', found = some c' ∧ c' = Resource.withMetadata c c'.metadata ∧
    Alike c.metadata c'.metadata ∧
    (unmarked? c mismatch refused = none → isMarked c' = mismatch)

theorem exists_of_unmarked?_eq_some {refused : Option Nat} {e : Error}
    (failed : unmarked? c mismatch refused = some e) : ∃ cause, e = .updateLabels c.name cause := by
  rw [unmarked?] at failed
  split at failed
  next => exact nomatch failed
  next =>
    obtain ⟨code, -, rfl⟩ := Option.map_eq_some_iff.mp failed
    exact ⟨_, rfl⟩

theorem marked_self (right : unmarked? c mismatch refused = none → isMarked c = mismatch) :
    Marked c mismatch refused (some c) :=
  ⟨c, rfl, rfl, .refl _, right⟩

theorem run_setMark (found : k.object? .storageClasses c.name = some c)
    (timed : c.metadata.Timed) (lasts : Store.isReleased c = false)
    (named : c.metadata.name = some c.name) :
    let ended := (ExceptT.run (setMark c mismatch)).run .direct k
    Pass.failures ended.1 = (unmarked? c mismatch (k.refused .storageClasses .patch)).toList ∧
      Marked c mismatch (k.refused .storageClasses .patch)
        (ended.2.object? .storageClasses c.name) := by
  by_cases right : isMarked c = mismatch
  · rw [setMark, if_pos right, unmarked?, if_pos right]
    exact ⟨rfl, found.symm ▸ marked_self fun _ => right⟩
  · rw [setMark, if_neg right]
    cases refused : k.refused .storageClasses .patch with
    | some code =>
        rw [Pass.run_bind, Pass.run_request,
          Cluster.serve_of_refused (r := .patch .storageClasses c.name _) refused, unmarked?,
          if_neg right]
        refine ⟨rfl, ?_⟩
        change Marked c mismatch _ (k.object? .storageClasses c.name)
        rw [found]
        refine marked_self fun unfailing => ?_
        rw [unmarked?, if_neg right] at unfailing
        exact nomatch unfailing
    | none =>
        obtain ⟨labels, read, marked, others⟩ := exists_decode_mismatchPatch timed mismatch
        obtain ⟨answer, served⟩ := Cluster.serve_of_verdict
          (r := .patch .storageClasses c.name (mismatchPatch mismatch)) refused
          (some (Resource.withMetadata c
            { c.metadata.toSeconds with labels := some labels })) (by
              change (Store.patching c.name _ (k.object? .storageClasses c.name)).map some = _
              rw [found, Store.patching, read]
              rfl)
        rw [Pass.run_bind, Pass.run_request, served, unmarked?, if_neg right]
        refine ⟨rfl, ?_⟩
        let relabelled : Metadata := { c.metadata.toSeconds with labels := some labels }
        have stays : Store.isReleased (Resource.withMetadata c relabelled) = false := by
          rw [← lasts, Store.isReleased, Resource.metadata_withMetadata]
          exact congrArg (· && _) (Metadata.isDeleting_toSeconds c.metadata)
        change Marked c mismatch _ (Cluster.object?
          (k.write .storageClasses .patch c.name (Resource.withMetadata c relabelled))
          .storageClasses c.name)
        rw [Cluster.object?_write_self, Store.isReleased_stamped, stays]
        refine ⟨_, rfl, rfl, alike_relabelled named others _, fun _ => ?_⟩
        change decide (labels.get? Names.mismatchLabel = some mismatchValue) = mismatch
        rw [marked]
        cases mismatch <;> rfl

end SetMark

section CheckAll

variable {op : Operator} {config : ModuleConfig} {classes : Dict StorageClass} {d : Declaration}
  {k : Cluster}

def trouble? (op : Operator) (config : ModuleConfig) (classes : Dict StorageClass)
    (refused : Option Nat) (d : Declaration) : Option Error :=
  match classes.get? d.name with
  | none => some (.missingStorageClass d.name)
  | some c =>
    if c.provisioner ≠ Names.nfsDriver then none
    else unmarked? c (!isAdmitted op config d) refused

def Checked (op : Operator) (config : ModuleConfig) (refused : Option Nat) (d : Declaration)
    (before after : Option StorageClass) : Prop :=
  match before with
  | none => after = none
  | some c =>
    if c.provisioner ≠ Names.nfsDriver then after = some c
    else Marked c (!isAdmitted op config d) refused after

theorem trouble?_eq_of_ours {refused : Option Nat} {c : StorageClass}
    (stored : classes.get? d.name = some c) (ours : c.provisioner = Names.nfsDriver) :
    trouble? op config classes refused d = unmarked? c (!isAdmitted op config d) refused := by
  rw [trouble?, stored]
  exact if_neg fun foreign => foreign ours

/-- A class of the module that is there after a check was there before, and its mark is right unless
setting it failed. -/
theorem exists_of_checked {refused : Option Nat} {before : Option StorageClass} {c' : StorageClass}
    (checked : Checked op config refused d before (some c'))
    (ours : c'.provisioner = Names.nfsDriver) :
    ∃ c, before = some c ∧ c.provisioner = Names.nfsDriver ∧
      Marked c (!isAdmitted op config d) refused (some c') := by
  unfold Checked at checked
  split at checked
  next => exact nomatch checked
  next c =>
    split at checked
    next foreign =>
      obtain rfl := Option.some.inj checked
      exact absurd ours foreign
    next native => exact ⟨c, rfl, Decidable.not_not.mp native, checked⟩

theorem checkAll_eq (op : Operator) (config : ModuleConfig) (classes : Dict StorageClass)
    (declarations : List Declaration) :
    checkAll op config classes declarations =
      Pass.collect (checkDeclaration op config classes) declarations := by
  induction declarations with
  | nil => rfl
  | cons d rest inductionHypothesis =>
      rw [checkAll, Pass.collect, inductionHypothesis]
      congr
      funext result
      cases result <;> rfl

/-- A check asks at most for the mark of a class of the module to be set right. -/
theorem asks_checkDeclaration_of_patch {allowed : Request → Prop}
    (patches : ∀ c, classes.get? d.name = some c → c.provisioner = Names.nfsDriver →
      isMarked c ≠ !isAdmitted op config d →
      allowed (.patch .storageClasses c.name (mismatchPatch (!isAdmitted op config d)))) :
    Pass.Asks allowed (checkDeclaration op config classes d) k := by
  unfold checkDeclaration setMark
  split
  next => exact fun _ sent => nomatch sent
  next c found =>
    split
    next => exact Pass.Asks.pure _
    next ours =>
      split
      next => exact Pass.Asks.pure _
      next wrong =>
        exact Pass.Asks.request_then (patches c found (Decidable.not_not.mp ours) wrong)
          fun _ => Pass.Asks.pure _

theorem reports_checkDeclaration :
    Pass.Reports Error.causes (checkDeclaration op config classes d) k := by
  unfold checkDeclaration setMark
  split
  next => exact Pass.Reports.throw rfl
  next =>
    split
    next => exact Pass.Reports.pure ()
    next =>
      split
      next => exact Pass.Reports.pure ()
      next => exact Pass.Reports.request_then (fun _ => rfl) fun _ => Pass.Reports.pure ()

/-- The classes that a pass goes by are those that it finds, under their names, with marks that can
be set. -/
structure Genuine (classes : Dict StorageClass) : Prop where
  named : ∀ {n c}, classes.get? n = some c → c.name = n ∧ c.metadata.name = some n
  timed : ∀ {n c}, classes.get? n = some c → c.metadata.Timed
  lasts : ∀ {n c}, classes.get? n = some c → Store.isReleased c = false

theorem run_checkDeclaration (genuine : Genuine classes)
    (found : k.object? .storageClasses d.name = classes.get? d.name) :
    let ended := (ExceptT.run (checkDeclaration op config classes d)).run .direct k
    Pass.failures ended.1 =
        (trouble? op config classes (k.refused .storageClasses .patch) d).toList ∧
      Checked op config (k.refused .storageClasses .patch) d (classes.get? d.name)
        (ended.2.object? .storageClasses d.name) := by
  unfold checkDeclaration trouble? Checked
  cases stored : classes.get? d.name with
  | none =>
      rw [stored] at found
      exact ⟨rfl, found⟩
  | some c =>
      rw [stored] at found
      obtain ⟨name, named⟩ := genuine.named stored
      simp only
      split
      next => exact ⟨rfl, found⟩
      next =>
        rw [← name] at found named ⊢
        exact run_setMark found (genuine.timed stored) (genuine.lasts stored) named

theorem run_checkAll {declarations : List Declaration}
    (apart : (declarations.map Declaration.name).Nodup) (genuine : Genuine classes)
    (found : ∀ n, k.object? .storageClasses n = classes.get? n) :
    let ended := (checkAll op config classes declarations).run .direct k
    ended.1 = declarations.filterMap
        (trouble? op config classes (k.refused .storageClasses .patch)) ∧
      ∀ d ∈ declarations, Checked op config (k.refused .storageClasses .patch) d
        (classes.get? d.name) (ended.2.object? .storageClasses d.name) := by
  have elsewhere {d other : Declaration} {l : Cluster} (different : other.name ≠ d.name) :
      ((ExceptT.run (checkDeclaration op config classes d)).run .direct l).2.object?
        .storageClasses other.name = l.object? .storageClasses other.name :=
    Program.Asks.object?_run (asks_checkDeclaration_of_patch fun c found _ _ _ written =>
      different ((Option.some.inj written).symm.trans (genuine.named found).1))
  rw [checkAll_eq, List.filterMap_eq_flatMap_toList]
  apply Pass.run_collect (f := checkDeclaration op config classes)
    (fun d l => l.refused = k.refused ∧
      l.object? .storageClasses d.name = classes.get? d.name)
    (fun d l => Checked op config (k.refused .storageClasses .patch) d
      (classes.get? d.name) (l.object? .storageClasses d.name))
  · intro d _ l ⟨refused, found⟩
    rw [← refused]
    exact run_checkDeclaration genuine found
  · refine (List.pairwise_map.mp apart).imp fun different => ⟨?_, fun met => ?_⟩
    · rintro l ⟨refused, present⟩
      exact ⟨(Program.refused_run _ _).trans refused,
        (elsewhere (Ne.symm different)).trans present⟩
    · rwa [elsewhere different]
  · exact fun d _ => ⟨rfl, found d.name⟩

end CheckAll

end NfsStorage.ModuleConfigPass

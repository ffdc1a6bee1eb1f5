import NfsStorage.Proofs.Store.Versioned
import NfsStorage.Leadership

/-!
# The contest for a lease

Any number of replicas compete for a lease. A round reads the lease once and writes it at most once,
and others go on between the two. Whoever has read the lease either has it still as it is in the
store, or has a version of it that is never given out again: a write that others have overtaken is
refused.
-/

namespace NfsStorage

/-- The request does not delete or patch the lease, though it may create or replace it. -/
def Request.SparesLease (lease : String) (r : Request) : Prop :=
  r.collection = .leases → r.writes? = some lease → r.verb = .create ∨ r.verb = .replace

namespace Leadership

/-- A round of a replica, at a time of its clock, and what is left to do of it. -/
structure Round where
  elector : Elector
  now : Time
  rest : Program (Except Error Bool)

/-- What a round has come to, once nothing is left to do of it. -/
def Round.result? (round : Round) : Option (Except Error Bool) :=
  match round.rest with
  | .done result => some result
  | .request .. | .sleep .. => none

/-- A request that was served, in a round or for somebody who does not compete. -/
structure Call where
  round : Option Nat
  request : Request
  before : Cluster

namespace Call

def answer (c : Call) : Except StoreError c.request.Answer := (c.before.serve c.request).1

def after (c : Call) : Cluster := (c.before.serve c.request).2

def Reads (c : Call) (lease : String) (found : Option Lease) : Prop :=
  c.request = .get .leases lease ∧ (c.before.serve (.get .leases lease)).1 = .ok found

/-- The call was to write the lease, and did. -/
def Writes (c : Call) (lease : String) : Prop :=
  c.request.collection = .leases ∧ c.request.writes? = some lease ∧
    ∃ answer, c.answer = .ok answer

end Call

/-- The lease is not held by anybody else, as far as can be told from what was found. -/
inductive Available (identity : String) (now : Time) : Option Lease → Prop where
  | absent : Available identity now none
  | unheld {found : Lease}
      (nobody : ∀ spec, found.spec = some spec → spec.holderIdentity.getD "" = "") :
      Available identity now (some found)
  | own {found : Lease} {spec : LeaseSpec} (given : found.spec = some spec)
      (holder : spec.holderIdentity = some identity) : Available identity now (some found)
  | undated {found : Lease} {spec : LeaseSpec} (given : found.spec = some spec)
      (undated : spec.renewTime = none ∨ spec.leaseDurationSeconds = none) :
      Available identity now (some found)
  | expired {found : Lease} {spec : LeaseSpec} {renewed : PreciseTime} {seconds : Int32}
      (given : found.spec = some spec) (renewal : spec.renewTime = some renewed)
      (duration : spec.leaseDurationSeconds = some seconds)
      (before : (renewed.time.moment.later seconds.toInt).isBefore now.moment = true) :
      Available identity now (some found)

/-- A cluster, the rounds that were begun, and all calls so far, the latest first. -/
structure Contest where
  cluster : Cluster
  rounds : Nat → Option Round := fun _ => none
  calls : List Call := []

namespace Contest

def setRound (t : Contest) (i : Nat) (round : Round) : Contest :=
  { t with rounds := fun j => if j = i then some round else t.rounds j }

/-- What may happen next. Every round is made for itself, whoever makes it and whatever time it is
made at; those who do not compete never take the lease away. -/
inductive Step (lease : String) : Contest → Contest → Prop where
  | begins {t : Contest} {i : Nat} {e : Elector} {now : Time} (fresh : t.rounds i = none)
      (competes : e.lease = lease) : Step lease t (t.setRound i ⟨e, now, (e.round now).run⟩)
  | goesOn {t : Contest} {i : Nat} {e : Elector} {now : Time} {r : Request}
      {next : Except StoreError r.Answer → Program (Except Error Bool)}
      (underWay : t.rounds i = some ⟨e, now, .request r next⟩) :
      Step lease t { t.setRound i ⟨e, now, next (t.cluster.serve r).1⟩ with
        cluster := (t.cluster.serve r).2
        calls := ⟨some i, r, t.cluster⟩ :: t.calls }
  | other {t : Contest} {r : Request} (spares : r.SparesLease lease) :
      Step lease t { t with
        cluster := (t.cluster.serve r).2
        calls := ⟨none, r, t.cluster⟩ :: t.calls }
  | refusals {t : Contest} (c : Collection) (refused : Verb → Option Nat) :
      Step lease t { t with cluster := t.cluster.withRefusals c refused }
  | clock {t : Contest} {clock : Time} (valid : clock.Valid) :
      Step lease t { t with cluster := { t.cluster with clock } }

inductive Reaches (lease : String) (start : Contest) : Contest → Prop where
  | refl : Reaches lease start start
  | step {t t' : Contest} : Reaches lease start t → Step lease t t' → Reaches lease start t'

/-- A round that is not over goes on by a call. -/
def turn (t : Contest) (i : Nat) : Contest :=
  match t.rounds i with
  | some ⟨e, now, .request r next⟩ =>
    { t.setRound i ⟨e, now, next (t.cluster.serve r).1⟩ with
      cluster := (t.cluster.serve r).2
      calls := ⟨some i, r, t.cluster⟩ :: t.calls }
  | _ => t

theorem Reaches.turn {lease : String} {start t : Contest} (reaches : Reaches lease start t)
    (i : Nat) : Reaches lease start (t.turn i) := by
  unfold Contest.turn
  split
  next underWay => exact reaches.step (.goesOn underWay)
  next => exact reaches

end Contest

section Calls

variable {lease : String} {c : Call} {found : Option Lease} {k l : Cluster} {calls : List Call}

theorem Call.served (c : Call) : c.before.Served c.request c.answer c.after :=
  c.before.served c.request

theorem Call.object?_of_not_writes (unwritten : ¬ c.Writes lease) :
    c.after.object? .leases lease = c.before.object? .leases lease := by
  have served := c.served
  cases answered : c.answer with
  | error e =>
      rw [answered] at served
      rw [served.eq_of_error]
  | ok answer =>
      exact served.object? fun isLease writes => unwritten ⟨isLease.symm, writes, _, answered⟩

theorem Call.Reads.answered (reads : c.Reads lease found) :
    c.after = c.before ∧ found = c.before.object? .leases lease := by
  obtain ⟨round, request, k⟩ := c
  obtain ⟨same, answered⟩ := reads
  obtain rfl : request = .get .leases lease := same
  have served := k.served (.get .leases lease)
  have answered : (k.serve (.get .leases lease)).1 = .ok found := answered
  rw [answered] at served
  refine ⟨rfl, ?_⟩
  generalize (k.serve (.get .leases lease)).2 = l at served
  cases served
  rfl

/-- The lease was written: it has the latest version, and it is there unless it was going. -/
structure Rewritten (lease : String) (k l : Cluster) : Prop where
  version : (l.store .leases).version = (k.store .leases).version + 1
  stamped : ∀ current : Lease, l.object? .leases lease = some current →
    current.metadata.resourceVersion = some (toString (k.leases.version + 1))
  stays : (∀ old : Lease, k.object? .leases lease = some old → old.metadata.isDeleting = false) →
    ∃ current : Lease, l.object? .leases lease = some current ∧
      current.metadata.isDeleting = false

theorem rewritten_write (verb : Verb) {new : Lease}
    (stays : (∀ old : Lease, k.object? .leases lease = some old →
      old.metadata.isDeleting = false) → new.metadata.isDeleting = false) :
    Rewritten lease k (k.write .leases verb lease new) where
  version := k.version_write .leases verb lease new
  stamped current present := by
    rcases Cluster.eq_stamped_of_object?_write _ _ _ _ _ present with ⟨-, rfl, -⟩ | ⟨different, -⟩
    · rfl
    · exact absurd rfl different
  stays undeleted := by
    have staying : new.metadata.isDeleting = false := stays undeleted
    have unreleased : Store.isReleased ((k.store .leases).stamped lease new) = false :=
      Bool.and_eq_false_iff.mpr (Or.inl staying)
    refine ⟨(k.store .leases).stamped lease new, ?_, staying⟩
    rw [Cluster.object?_write_self, unreleased]
    rfl

theorem Call.Writes.rewritten (writes : c.Writes lease) (spares : c.request.SparesLease lease) :
    Rewritten lease c.before c.after := by
  obtain ⟨isLease, name, answer, answered⟩ := writes
  have served := c.served
  rw [answered] at served
  obtain ⟨round, r, k⟩ := c
  have spares := spares isLease name
  have served : k.Served r (.ok answer) (k.serve r).2 := served
  change Rewritten lease k (k.serve r).2
  generalize (k.serve r).2 = l at served
  clear answered
  cases served with
  | got | gotIn | listed => exact nomatch name
  | created c object answer absent =>
      obtain rfl : c = .leases := isLease
      obtain rfl := Option.some.inj name
      exact rewritten_write .create fun _ => rfl
  | replaced c name' object old answer present =>
      obtain rfl : c = .leases := isLease
      obtain rfl := Option.some.inj name
      exact rewritten_write .replace fun undeleted => undeleted old present
  | alreadyGone | deleted | patched | patchedStatus => exact absurd spares (by simp [Request.verb])

/-- What was found of the lease is no longer what the store has, and never will be again. -/
inductive Outdated (lease : String) (k : Cluster) : Option Lease → Prop where
  | absent {current : Lease} (present : k.object? .leases lease = some current)
      (staying : current.metadata.isDeleting = false) : Outdated lease k none
  | found {found : Lease} {version : Nat} (earlier : version ≤ (k.store .leases).version)
      (read : found.metadata.resourceVersion = some (toString version))
      (changed : ∀ current : Lease, k.object? .leases lease = some current →
        current.metadata.resourceVersion ≠ found.metadata.resourceVersion) :
      Outdated lease k (some found)

/-- Nobody has written the lease since it was read, or what was found is outdated. -/
inductive Since (lease : String) (found : Option Lease) (between : List Call) (k : Cluster) :
    Prop where
  | current (unwritten : ∀ c ∈ between, ¬ c.Writes lease)
      (same : k.object? .leases lease = found) : Since lease found between k
  | outdated (outdated : Outdated lease k found) : Since lease found between k

theorem Rewritten.changed (rewritten : Rewritten lease k l) {found : Lease} {version : Nat}
    (earlier : version ≤ (k.store .leases).version)
    (read : found.metadata.resourceVersion = some (toString version)) :
    Outdated lease l (some found) := by
  refine .found (by rw [rewritten.version]; exact Nat.le_succ_of_le earlier) read ?_
  intro current present
  rw [rewritten.stamped current present, read]
  intro same
  have equal : k.leases.version + 1 = version := eq_of_toString_eq (Option.some.inj same)
  have earlier : version ≤ k.leases.version := earlier
  omega

theorem Rewritten.outdated (rewritten : Rewritten lease k l)
    (versioned : (k.store .leases).Versioned) (same : k.object? .leases lease = found) :
    Outdated lease l found := by
  cases found with
  | none =>
      obtain ⟨current, present, staying⟩ := rewritten.stays fun old there => nomatch same.symm.trans there
      exact .absent present staying
  | some found =>
      obtain ⟨version, earlier, read⟩ := versioned.versioned same
      exact rewritten.changed earlier read

theorem Outdated.rewritten (outdated : Outdated lease k found) (rewritten : Rewritten lease k l) :
    Outdated lease l found := by
  cases outdated with
  | absent present staying =>
      obtain ⟨current, present, staying⟩ := rewritten.stays fun old there => by
        obtain rfl := Option.some.inj (present.symm.trans there)
        exact staying
      exact .absent present staying
  | found earlier read _ => exact rewritten.changed earlier read

theorem Outdated.of_same (outdated : Outdated lease k found)
    (same : l.object? .leases lease = k.object? .leases lease)
    (later : (k.store .leases).version ≤ (l.store .leases).version) : Outdated lease l found := by
  cases outdated with
  | absent present staying => exact .absent (same.trans present) staying
  | found earlier read changed =>
      exact .found (Nat.le_trans earlier later) read fun current present =>
        changed current (same.symm.trans present)

theorem Since.of_same (since : Since lease found calls k)
    (same : l.object? .leases lease = k.object? .leases lease)
    (later : (k.store .leases).version ≤ (l.store .leases).version) : Since lease found calls l := by
  cases since with
  | current unwritten unchanged => exact .current unwritten (same.trans unchanged)
  | outdated outdated => exact .outdated (outdated.of_same same later)

theorem Since.call (since : Since lease found calls c.before)
    (versioned : (c.before.store .leases).Versioned) (spares : c.request.SparesLease lease) :
    Since lease found (c :: calls) c.after := by
  by_cases writes : c.Writes lease
  · have rewritten := writes.rewritten spares
    cases since with
    | current _ same => exact .outdated (rewritten.outdated versioned same)
    | outdated outdated => exact .outdated (outdated.rewritten rewritten)
  · have same := Call.object?_of_not_writes writes
    cases since with
    | current unwritten unchanged =>
        exact .current (List.forall_mem_cons.mpr ⟨writes, unwritten⟩) (same.trans unchanged)
    | outdated outdated => exact .outdated (outdated.of_same same (c.served.version_le .leases))

end Calls

end Leadership

end NfsStorage

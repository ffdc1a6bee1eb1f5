import Mathlib.Algebra.Group.Nat.Defs
import Mathlib.Data.List.Chain
import NfsStorage.Proofs.Leadership.Rounds

/-!
# The books of a lease

Every write of a lease is entered with the replica that made it and the time of its clock. While
nobody but the replicas writes the lease, what it says of itself can be told from the entries: who
holds it, when the holder took it and last renewed it, and how often it has changed hands. A round
that loses makes no entry, because its write was refused.
-/

namespace NfsStorage.Leadership

/-- A write of a lease: who made it, and at what time of its clock. -/
structure Entry where
  holder : String
  now : Time
deriving DecidableEq

/-- The first entry of the tenure that the latest one belongs to. Entries come the latest first. -/
def Entry.takeover (latest : Entry) : List Entry → Entry
  | [] => latest
  | previous :: earlier =>
    if previous.holder = latest.holder then previous.takeover earlier else latest

/-- How often the holder changed from one entry to the next. -/
def changes : List Entry → Nat
  | latest :: previous :: earlier =>
    changes (previous :: earlier) + if previous.holder = latest.holder then 0 else 1
  | _ => 0

/-- The clock of every entry shows what the clock of the one before showed, or a later time. -/
def Forward (entries : List Entry) : Prop :=
  entries.IsChain fun later earlier => later.now.moment.isBefore earlier.now.moment = false

theorem Forward.takeover {latest : Entry} {earlier : List Entry}
    (forward : Forward (latest :: earlier)) :
    latest.now.moment.isBefore (latest.takeover earlier).now.moment = false := by
  have step {a b c : Moment} (first : a.isBefore b = false) (second : b.isBefore c = false) :
      a.isBefore c = false := by
    simp [Moment.isBefore] at first second ⊢
    omega
  induction earlier generalizing latest with
  | nil => simp [Entry.takeover, Moment.isBefore]
  | cons previous earlier inductionHypothesis =>
      obtain ⟨here, rest⟩ := List.isChain_cons_cons.mp forward
      rw [Entry.takeover]
      split
      · exact step here (inductionHypothesis rest)
      · simp [Moment.isBefore]

/-- What a lease says of itself is so, going by the entries. Its counter is as wide as it is. -/
structure BearsOut (spec : LeaseSpec) (latest : Entry) (earlier : List Entry) : Prop where
  holder : spec.holderIdentity = some latest.holder
  renewTime : spec.renewTime = some ⟨latest.now⟩
  acquireTime : spec.acquireTime = some ⟨(latest.takeover earlier).now⟩
  transitions : ∃ count : Int32, spec.leaseTransitions = some count ∧
    (changes (latest :: earlier) < 2 ^ 31 → count.toInt = changes (latest :: earlier))

/-- There is no lease before the first entry, and after it the lease bears out the entries. -/
inductive Accords : List Entry → Option Lease → Prop where
  | unmade : Accords [] none
  | made {latest : Entry} {earlier : List Entry} {current : Lease} {spec : LeaseSpec}
      (staying : current.metadata.isDeleting = false) (given : current.spec = some spec)
      (bearsOut : BearsOut spec latest earlier) : Accords (latest :: earlier) (some current)

theorem Accords.staying {entries : List Entry} {current : Lease}
    (accords : Accords entries (some current)) : current.metadata.isDeleting = false := by
  cases accords with
  | made staying => exact staying

section Specification

variable {e : Elector} {now : Time} {spec current : LeaseSpec} {entries earlier : List Entry}
  {latest : Entry}

theorem BearsOut.renewed (bearsOut : BearsOut current latest earlier)
    (own : latest.holder = e.identity) :
    BearsOut (e.renewed now current) ⟨e.identity, now⟩ (latest :: earlier) where
  holder := rfl
  renewTime := rfl
  acquireTime := by
    rw [Entry.takeover, if_pos own]
    exact bearsOut.acquireTime
  transitions := by
    obtain ⟨count, counted, exact⟩ := bearsOut.transitions
    refine ⟨count, by rw [Elector.renewed, counted, Option.getD_some], fun few => ?_⟩
    rw [changes, if_pos own, Nat.add_zero] at few ⊢
    exact exact few

theorem BearsOut.acquired {found : Lease} (bearsOut : BearsOut current latest earlier)
    (given : found.spec = some current) (other : latest.holder ≠ e.identity) :
    BearsOut (e.acquired now (some found)) ⟨e.identity, now⟩ (latest :: earlier) where
  holder := rfl
  renewTime := rfl
  acquireTime := by
    rw [Entry.takeover, if_neg other]
    rfl
  transitions := by
    obtain ⟨count, counted, exact⟩ := bearsOut.transitions
    refine ⟨count + 1, by simp [Elector.acquired, given, counted], fun few => ?_⟩
    rw [changes, if_neg other] at few ⊢
    have before := exact (by omega)
    rw [Int32.toInt_add, before]
    change Int.bmod ((changes (latest :: earlier) : Int) + 1) (2 ^ 32) = _
    rw [Int.bmod_eq_of_le] <;> omega

theorem bearsOut_made (e : Elector) (now : Time) :
    BearsOut (e.acquired now none) ⟨e.identity, now⟩ [] where
  holder := rfl
  renewTime := rfl
  acquireTime := rfl
  transitions := ⟨0, rfl, fun _ => rfl⟩

/-- Whatever is decided to be written goes on with the entries. -/
theorem Accords.written {found : Option Lease} (accords : Accords entries found)
    (decided : e.specToWrite? now found = some spec) {written : Lease}
    (staying : written.metadata.isDeleting = false) (given : written.spec = some spec) :
    Accords (⟨e.identity, now⟩ :: entries) (some written) := by
  cases accords with
  | unmade =>
      obtain rfl := Option.some.inj decided
      exact .made staying given (bearsOut_made e now)
  | @made latest earlier found current _ present bearsOut =>
      refine .made staying given ?_
      have holder : current.holderIdentity.getD "" = latest.holder := by
        rw [bearsOut.holder, Option.getD_some]
      simp only [Elector.specToWrite?, Option.bind_some, present, decision, holder] at decided
      by_cases own : latest.holder = e.identity
      · rw [if_pos own] at decided
        obtain rfl := Option.some.inj decided
        exact bearsOut.renewed own
      · rw [if_neg own] at decided
        have taken : e.acquired now (some found) = spec := by
          by_cases unheld : latest.holder = ""
          · rw [if_pos unheld] at decided
            exact Option.some.inj decided
          · by_cases expired : isExpired current now = true
            · rw [if_neg unheld, if_pos expired] at decided
              exact Option.some.inj decided
            · rw [if_neg unheld, if_neg expired] at decided
              cases decided
        rw [← taken]
        exact bearsOut.acquired present own

end Specification

namespace Call

/-- The call was to write the lease, and did. -/
def enters (c : Call) (lease : String) : Bool :=
  c.request.collection = .leases && c.request.writes? = some lease && c.answer.isOk

theorem enters_iff {c : Call} {lease : String} : c.enters lease = true ↔ c.Writes lease := by
  simp only [enters, Writes, Bool.and_eq_true, decide_eq_true_eq, and_assoc]
  cases c.answer <;> simp [Except.isOk, Except.toBool]

end Call

namespace Contest

def entered? (t : Contest) (lease : String) (c : Call) : Option Entry :=
  if c.enters lease then
    (c.round.bind t.rounds).map fun round => ⟨round.elector.identity, round.now⟩
  else none

/-- All entries, the latest first. -/
def book (t : Contest) (lease : String) : List Entry := t.calls.filterMap (t.entered? lease)

end Contest

section Books

variable {lease : String} {i : Nat} {calls : List Call} {k : Cluster} {e : Elector} {now : Time}
  {t t' : Contest}

/-- A round writes what it decided on, and did so from the lease as it was before the write. -/
theorem Stage.wrote_spec {r : Request}
    {next : Except StoreError r.Answer → Program (Except Error Bool)}
    (stage : Stage lease i calls k e now (.request r next)) (writes : r.writes? = some lease)
    {answer : r.Answer} (answered : (k.serve r).1 = .ok answer) :
    ∃ spec, e.specToWrite? now (k.object? .leases lease) = some spec ∧
      ∀ current : Lease, (k.serve r).2.object? .leases lease = some current →
        current.spec = some spec := by
  cases stage with
  | unread competes left idle =>
      rw [run_round] at left
      cases left
      exact nomatch writes
  | @read between earlier read found spec competes decided left sequence reading others since =>
      subst competes
      have served := k.served r
      rw [answered] at served
      have current (timely : ¬ Outdated e.lease k found) : k.object? .leases e.lease = found := by
        cases since with
        | current unwritten same => exact same
        | outdated outdated => exact absurd outdated timely
      refine ⟨spec, ?_, ?_⟩
      · cases found with
        | none =>
            cases left
            rw [current (not_outdated_of_created served rfl)]
            exact decided
        | some found =>
            cases left
            rw [current (not_outdated_of_replaced answered rfl)]
            exact decided
      · intro current present
        generalize (k.serve r).2 = l at served present
        cases found with
        | none =>
            cases left
            cases served with
            | created =>
                rcases Cluster.eq_stamped_of_object?_write _ _ _ _ _ present with
                  ⟨-, rfl, -⟩ | ⟨elsewhere, -⟩
                · rfl
                · exact absurd rfl elsewhere
        | some found =>
            cases left
            cases served with
            | replaced =>
                rcases Cluster.eq_stamped_of_object?_write _ _ _ _ _ present with
                  ⟨-, rfl, -⟩ | ⟨elsewhere, -⟩
                · rfl
                · exact absurd rfl elsewhere
  | won left => exact nomatch left
  | lost left => exact nomatch left

namespace Contest

theorem entered?_setRound {round : Round} {c : Call}
    (same : c.round = some i → ∃ before, t.rounds i = some before ∧
      before.elector = round.elector ∧ before.now = round.now) :
    (t.setRound i round).entered? lease c = t.entered? lease c := by
  unfold entered?
  split
  · cases own : c.round with
    | none => rfl
    | some j =>
        by_cases here : j = i
        · subst here
          obtain ⟨before, begun, elector, now⟩ := same own
          simp [setRound, begun, elector, now]
        · simp [setRound, here]
  · rfl

theorem book_setRound {round : Round}
    (same : ∀ c ∈ t.calls, c.round = some i → ∃ before, t.rounds i = some before ∧
      before.elector = round.elector ∧ before.now = round.now) :
    (t.setRound i round).book lease = t.book lease :=
  List.filterMap_congr fun c membership => entered?_setRound (same c membership)

theorem accords_of_not_writes {c : Call} (unwritten : ¬ c.Writes lease)
    (cluster : t'.cluster = c.after) (calls : t'.calls = c :: t.calls)
    (before : c.before = t.cluster)
    (entries : ∀ c ∈ t.calls, t'.entered? lease c = t.entered? lease c)
    (accords : Accords (t.book lease) (t.cluster.object? .leases lease)) :
    Accords (t'.book lease) (t'.cluster.object? .leases lease) := by
  have silent : t'.entered? lease c = none :=
    if_neg fun enters => unwritten (Call.enters_iff.mp enters)
  rw [book, calls, List.filterMap_cons_none silent, List.filterMap_congr entries, cluster,
    Call.object?_of_not_writes unwritten, before]
  exact accords

/-- What one step does to a lease that nobody else writes is entered. -/
theorem accords_step (fair : t.Fair lease) (step : Step lease t t')
    (alone : ∀ c ∈ t'.calls, c.Writes lease → c.round ≠ none)
    (accords : Accords (t.book lease) (t.cluster.object? .leases lease)) :
    Accords (t'.book lease) (t'.cluster.object? .leases lease) := by
  cases step with
  | @begins i e now fresh competes =>
      rw [book_setRound fun c membership own => absurd fresh (fair.begun c membership i own)]
      exact accords
  | @goesOn i e now r next underWay =>
      let call : Call := ⟨some i, r, t.cluster⟩
      have entries (c : Call) : (t.setRound i ⟨e, now, next call.answer⟩).entered? lease c =
          t.entered? lease c := entered?_setRound fun _ => ⟨_, underWay, rfl, rfl⟩
      have stage := fair.staged i e now _ underWay
      by_cases writes : call.Writes lease
      · obtain ⟨isLease, named, answer, answered⟩ := id writes
        obtain ⟨spec, decided, written⟩ := stage.wrote_spec named answered
        have rewritten := writes.rewritten stage.goesOn.1
        obtain ⟨current, present, staying⟩ := rewritten.stays fun old found => by
          have found : t.cluster.object? .leases lease = some old := found
          rw [found] at accords
          exact accords.staying
        have entry : t.entered? lease call = some ⟨e.identity, now⟩ := by
          rw [entered?, if_pos (Call.enters_iff.mpr writes)]
          simp [call, underWay]
        let ahead := t.setRound i ⟨e, now, next call.answer⟩
        change Accords (List.filterMap (ahead.entered? lease) (call :: t.calls))
          (call.after.object? .leases lease)
        rw [List.filterMap_congr fun c _ => entries c, List.filterMap_cons_some entry, present]
        exact accords.written decided staying (written current present)
      · exact accords_of_not_writes writes rfl rfl rfl (fun c _ => entries c) accords
  | @other r spares =>
      let call : Call := ⟨none, r, t.cluster⟩
      have unwritten : ¬ call.Writes lease := fun writes =>
        alone call (List.mem_cons_self ..) writes rfl
      exact accords_of_not_writes unwritten rfl rfl rfl (fun _ _ => rfl) accords
  | refusals c refused =>
      rw [Cluster.object?_withRefusals]
      exact accords
  | clock valid => exact accords

theorem calls_step (step : Step lease t t') : ∀ c ∈ t.calls, c ∈ t'.calls := by
  intro c membership
  cases step with
  | begins | refusals | clock => exact membership
  | goesOn | other => exact List.mem_cons_of_mem _ membership

theorem accords_reaches {start : Contest} (fair : start.Fair lease)
    (unmade : start.cluster.object? .leases lease = none) (unread : start.calls = [])
    (reaches : Reaches lease start t) (alone : ∀ c ∈ t.calls, c.Writes lease → c.round ≠ none) :
    Accords (t.book lease) (t.cluster.object? .leases lease) := by
  induction reaches with
  | refl =>
      rw [book, unread, unmade]
      exact .unmade
  | step before step inductionHypothesis =>
      exact accords_step (fair.reaches before) step alone
        (inductionHypothesis fun c membership => alone c (calls_step step c membership))

end Contest

end Books

/-- A lease that was not there at first and that only competing replicas write says of itself what
is so, after every write and until the next: the last to write it holds it and renewed it then, the
holder has had it since the first write of its tenure, which was no later, and the counter is the
number of times that the holder changed. -/
theorem lease_tells_history {lease : String} {k : Cluster} (reachable : k.Reachable)
    (absent : k.object? .leases lease = none) {t : Contest}
    (reaches : Contest.Reaches lease { cluster := k } t)
    (alone : ∀ c ∈ t.calls, c.Writes lease → c.round ≠ none)
    (forward : Forward (t.book lease)) (few : changes (t.book lease) < 2 ^ 31 - 1)
    {latest : Entry} {earlier : List Entry} (entered : t.book lease = latest :: earlier) :
    ∃ (current : Lease) (spec : LeaseSpec) (count : Int32),
      t.cluster.object? .leases lease = some current ∧ current.spec = some spec ∧
      spec.holderIdentity = some latest.holder ∧
      spec.renewTime = some ⟨latest.now⟩ ∧
      spec.acquireTime = some ⟨(latest.takeover earlier).now⟩ ∧
      latest.now.moment.isBefore (latest.takeover earlier).now.moment = false ∧
      spec.leaseTransitions = some count ∧ count.toInt = changes (latest :: earlier) := by
  have start : Contest.Fair lease { cluster := k } := by
    constructor
    · exact reachable
    · exact fun c none => nomatch none
    · exact fun i e now rest none => nomatch none
  have accords := Contest.accords_reaches start absent rfl reaches alone
  rw [entered] at accords forward few
  generalize present : t.cluster.object? .leases lease = found at accords
  cases accords with
  | @made _ _ current spec _ given bearsOut =>
      obtain ⟨count, counted, exact⟩ := bearsOut.transitions
      exact ⟨current, spec, count, rfl, given, bearsOut.holder, bearsOut.renewTime,
        bearsOut.acquireTime, forward.takeover, counted, exact (by omega)⟩

def clockAt (second : Nat) : Time := ⟨⟨2024, 1, 1⟩, 10, 0, second, 0⟩

def lined : Contest :=
  let begins (t : Contest) (i : Nat) (identity : String) (second : Nat) : Contest :=
    t.setRound i ⟨{ identity }, clockAt second, (Elector.round { identity } (clockAt second)).run⟩
  begins (begins (begins (begins { cluster := {} } 0 "a" 0) 1 "a" 5) 2 "b" 30) 3 "b" 32

/-- The one takes the lease and reads it to renew it, but the other takes over before it does and
renews it instead. -/
def handedOver : Contest := [0, 0, 1, 2, 2, 1, 3, 3].foldl Contest.turn lined

theorem reaches_handedOver :
    Contest.Reaches controllerLease { cluster := {} } handedOver := by
  have turns (order : List Nat) {t : Contest}
      (reaches : Contest.Reaches controllerLease { cluster := {} } t) :
      Contest.Reaches controllerLease { cluster := {} } (order.foldl Contest.turn t) := by
    induction order generalizing t with
    | nil => exact reaches
    | cons i order inductionHypothesis => exact inductionHypothesis (reaches.turn i)
  apply turns
  exact .step (.step (.step (.step .refl (.begins rfl rfl)) (.begins rfl rfl)) (.begins rfl rfl))
    (.begins rfl rfl)

theorem book_handedOver : handedOver.book controllerLease =
    [⟨"b", clockAt 32⟩, ⟨"b", clockAt 30⟩, ⟨"a", clockAt 0⟩] := by
  decide +kernel

theorem lease_tells_history_handed_over :
    ∃ (current : Lease) (spec : LeaseSpec) (count : Int32),
      handedOver.cluster.object? .leases controllerLease = some current ∧
      current.spec = some spec ∧ spec.holderIdentity = some "b" ∧
      spec.renewTime = some ⟨clockAt 32⟩ ∧ spec.acquireTime = some ⟨clockAt 30⟩ ∧
      spec.leaseTransitions = some count ∧ count.toInt = 1 := by
  have inRounds : handedOver.calls.all (·.round.isSome) = true := by decide +kernel
  have alone : ∀ c ∈ handedOver.calls, c.Writes controllerLease → c.round ≠ none :=
    fun c membership _ unbegun => by
      have begun := List.all_eq_true.mp inRounds c membership
      rw [unbegun] at begun
      exact nomatch begun
  have forward : Forward (handedOver.book controllerLease) := by
    rw [book_handedOver]
    unfold Forward
    decide +kernel
  have few : changes (handedOver.book controllerLease) < 2 ^ 31 - 1 := by
    rw [book_handedOver]
    decide
  obtain ⟨current, spec, count, present, given, holder, renewed, acquired, -, counted, same⟩ :=
    lease_tells_history .empty rfl reaches_handedOver alone forward few book_handedOver
  exact ⟨current, spec, count, present, given, holder, renewed, acquired, counted, same⟩

end NfsStorage.Leadership

import NfsStorage.Proofs.Leadership.Rounds
import NfsStorage.Proofs.Program.Endings

/-!
# How leadership ends

A leader goes from round to round. Its requests may be answered in whatever way and however late,
and it bears failures for as long as the deadline allows. Leadership ends when somebody else is
found to hold the lease, and when a round fails after the deadline. It ends as well with the first
write that meets a conflict, even if the lease still names the leader and was renewed just before.
-/

namespace NfsStorage

/-- The end of a program whose requests are answered thus. -/
def Program.answered {α : Type} (answer : (r : Request) → Except StoreError r.Answer) :
    Program α → α
  | .done a => a
  | .request r next => (next (answer r)).answered answer
  | .sleep _ next => next.answered answer

namespace Leadership

/-- A round of a leader: the time on its clock, what the server answers when the lease is read and
when it is written, and when the round was over, in milliseconds. -/
structure Turn where
  now : Time
  read : Except StoreError (Option Lease)
  written : Except StoreError Lease
  ended : Nat

def Turn.answer (turn : Turn) : (r : Request) → Except StoreError r.Answer
  | .get .leases _ => turn.read
  | .create .leases _ | .replace .leases _ _ => turn.written
  | _ => .error .undecodable

end Leadership

namespace Elector

open Leadership

def result (e : Elector) (turn : Turn) : Except Error Bool :=
  (e.round turn.now).run.answered turn.answer

/-- Hold the lease from turn to turn, for as long as that goes well. The answer is why leadership
ended, if it did. -/
def holdThrough (e : Elector) (lastRenewal : Nat) : List Turn → Option Error
  | [] => none
  | turn :: rest =>
    match e.afterRound lastRenewal turn.ended (e.result turn) with
    | .ok renewal => e.holdThrough renewal rest
    | .error cause => some cause

/-- When the lease was renewed last. -/
def lastRenewal (e : Elector) (begun : Nat) : List Turn → Nat
  | [] => begun
  | turn :: rest =>
    match e.result turn with
    | .ok true => e.lastRenewal turn.ended rest
    | _ => e.lastRenewal begun rest

end Elector

namespace Leadership

variable {e : Elector}

/-- Leadership ends with a turn, and why. -/
inductive Turn.Ends (e : Elector) (turn : Turn) (lastRenewal : Nat) : Error → Prop where
  /-- Somebody else holds the lease and has not let it expire. -/
  | foreign {found : Lease} {spec : LeaseSpec} {holder : String}
      (read : turn.read = .ok (some found)) (given : found.spec = some spec)
      (held : spec.holderIdentity = some holder) (someone : holder ≠ "")
      (other : holder ≠ e.identity) (alive : isExpired spec turn.now = false) :
      Ends e turn lastRenewal (.lost e.lease)
  /-- The lease was to be written, and has changed since it was read. -/
  | conflict {found : Option Lease} {spec : LeaseSpec} {cause : StoreError}
      (read : turn.read = .ok found) (decided : e.specToWrite? turn.now found = some spec)
      (refused : turn.written = .error cause) (conflict : cause.isConflict = true) :
      Ends e turn lastRenewal (.lost e.lease)
  /-- The round failed after the deadline. -/
  | overdue {cause : Error} (failed : e.result turn = .error cause)
      (late : renewDeadline < turn.ended - lastRenewal) : Ends e turn lastRenewal cause

theorem result_eq (e : Elector) (turn : Turn) :
    e.result turn = match turn.read with
      | .error cause => .error (.getLease e.lease cause)
      | .ok found =>
        match e.specToWrite? turn.now found with
        | none => .ok false
        | some _ => e.holdsAfter turn.written := by
  have read : turn.answer (.get .leases e.lease) = turn.read := rfl
  rw [Elector.result, run_round, Program.answered, read]
  cases turn.read with
  | error cause => rfl
  | ok found =>
      simp only [respond]
      cases e.specToWrite? turn.now found with
      | none => rfl
      | some spec => cases found <;> rfl

theorem decision_eq_heldBy_iff {found : Option LeaseSpec} {identity holder : String} {now : Time} :
    decision found identity now = .heldBy holder ↔ ∃ spec, found = some spec ∧
      spec.holderIdentity = some holder ∧ holder ≠ "" ∧ holder ≠ identity ∧
      isExpired spec now = false := by
  constructor
  · intro decided
    cases found with
    | none => cases decided
    | some spec =>
        simp only [decision] at decided
        split at decided
        next => cases decided
        next other =>
          split at decided
          next => cases decided
          next someone =>
            split at decided
            next => cases decided
            next alive =>
              obtain rfl := Decision.heldBy.inj decided
              cases held : spec.holderIdentity with
              | none => exact absurd (congrArg (Option.getD · "") held) someone
              | some holder =>
                  rw [held] at other someone
                  exact ⟨spec, rfl, held, someone, other, Bool.eq_false_iff.mpr alive⟩
  · rintro ⟨spec, rfl, held, someone, other, alive⟩
    simp [decision, held, someone, other, alive]

theorem specToWrite?_eq_none_iff {now : Time} {found : Option Lease} :
    e.specToWrite? now found = none ↔
      ∃ holder, decision (found.bind (·.spec)) e.identity now = .heldBy holder := by
  unfold Elector.specToWrite?
  split
  next holder decided => simp [decided]
  next decided => simp [decided]
  next decided => simp [decided]

section Turns

variable {turn : Turn} {lastRenewal : Nat} {cause : Error}

/-- A round in which the lease is not held either found it with somebody else or met a conflict. -/
theorem ends_of_result_eq_ok_false (lost : e.result turn = .ok false) :
    turn.Ends e lastRenewal (.lost e.lease) := by
  rw [result_eq] at lost
  split at lost
  next => cases lost
  next found read =>
    split at lost
    next unwritten =>
      obtain ⟨holder, decided⟩ := specToWrite?_eq_none_iff.mp unwritten
      obtain ⟨spec, there, held, someone, other, alive⟩ := decision_eq_heldBy_iff.mp decided
      obtain ⟨lease, rfl, given⟩ := Option.bind_eq_some_iff.mp there
      exact .foreign read given held someone other alive
    next spec decided =>
      cases written : turn.written with
      | ok answer =>
          rw [written] at lost
          cases lost
      | error cause =>
          rw [written, Elector.holdsAfter] at lost
          split at lost
          next conflict => exact .conflict read decided written conflict
          next => cases lost

/-- What leadership ends with is what the leader makes of the round. -/
theorem afterRound_eq_error_iff :
    e.afterRound lastRenewal turn.ended (e.result turn) = .error cause ↔
      turn.Ends e lastRenewal cause := by
  constructor
  · intro ended
    cases outcome : e.result turn with
    | ok holds =>
        rw [outcome] at ended
        cases holds with
        | true => exact nomatch ended
        | false =>
            obtain rfl := Except.error.inj ended
            exact ends_of_result_eq_ok_false outcome
    | error failure =>
        rw [outcome, Elector.afterRound] at ended
        split at ended
        next late =>
          obtain rfl := Except.error.inj ended
          exact .overdue outcome late
        next => exact nomatch ended
  · intro ends
    cases ends with
    | @foreign found _ _ read given held someone other alive =>
        have unwritten : e.specToWrite? turn.now (some found) = none :=
          specToWrite?_eq_none_iff.mpr
            ⟨_, decision_eq_heldBy_iff.mpr ⟨_, given, held, someone, other, alive⟩⟩
        rw [result_eq, read]
        simp only [unwritten]
        rfl
    | conflict read decided refused conflict =>
        rw [result_eq, read]
        simp only [decided, refused, Elector.holdsAfter, conflict, if_true]
        rfl
    | overdue failed late => rw [failed, Elector.afterRound, if_pos late]

theorem lastRenewal_cons {renewal : Nat} (rest : List Turn)
    (lasts : e.afterRound lastRenewal turn.ended (e.result turn) = .ok renewal) :
    e.lastRenewal lastRenewal (turn :: rest) = e.lastRenewal renewal rest := by
  rw [Elector.lastRenewal]
  split
  next renewed =>
    rw [renewed] at lasts
    obtain rfl := Except.ok.inj lasts
    rfl
  next unrenewed =>
    cases outcome : e.result turn with
    | ok holds =>
        rw [outcome] at lasts
        cases holds with
        | true => exact absurd outcome unrenewed
        | false => exact nomatch lasts
    | error failure =>
        rw [outcome, Elector.afterRound] at lasts
        split at lasts
        next => exact nomatch lasts
        next =>
          obtain rfl := Except.ok.inj lasts
          rfl

end Turns

theorem holdThrough_append {begun : Nat} {earlier : List Turn}
    (lasts : e.holdThrough begun earlier = none) (later : List Turn) :
    e.holdThrough begun (earlier ++ later) =
      e.holdThrough (e.lastRenewal begun earlier) later := by
  induction earlier generalizing begun with
  | nil => rfl
  | cons turn others inductionHypothesis =>
      rw [Elector.holdThrough] at lasts
      rw [List.cons_append, Elector.holdThrough]
      cases outcome : e.afterRound begun turn.ended (e.result turn) with
      | error failure =>
          rw [outcome] at lasts
          exact nomatch lasts
      | ok renewal =>
          rw [outcome] at lasts
          rw [lastRenewal_cons others outcome]
          exact inductionHypothesis lasts

/-- If leadership ends, it outlasts all turns before some turn. -/
theorem exists_ends_of_holdThrough {begun : Nat} {turns : List Turn} {cause : Error}
    (ended : e.holdThrough begun turns = some cause) : ∃ earlier turn later,
      turns = earlier ++ turn :: later ∧ e.holdThrough begun earlier = none ∧
      turn.Ends e (e.lastRenewal begun earlier) cause := by
  induction turns generalizing begun with
  | nil => exact nomatch ended
  | cons turn rest inductionHypothesis =>
      rw [Elector.holdThrough] at ended
      cases outcome : e.afterRound begun turn.ended (e.result turn) with
      | error failure =>
          rw [outcome] at ended
          obtain rfl := Option.some.inj ended
          exact ⟨[], turn, rest, rfl, rfl, afterRound_eq_error_iff.mp outcome⟩
      | ok renewal =>
          rw [outcome] at ended
          obtain ⟨earlier, last, later, rfl, lasts, ends⟩ := inductionHypothesis ended
          refine ⟨turn :: earlier, last, later, rfl, ?_, ?_⟩
          · rw [Elector.holdThrough, outcome]
            exact lasts
          · rwa [lastRenewal_cons earlier outcome]

/-- Leadership ends with the first turn that ends it. -/
theorem holdThrough_eq_some_iff {begun : Nat} {turns : List Turn} {cause : Error} :
    e.holdThrough begun turns = some cause ↔ ∃ earlier turn later,
      turns = earlier ++ turn :: later ∧ e.holdThrough begun earlier = none ∧
      turn.Ends e (e.lastRenewal begun earlier) cause := by
  refine ⟨exists_ends_of_holdThrough, ?_⟩
  rintro ⟨earlier, turn, later, rfl, lasts, ends⟩
  rw [holdThrough_append lasts, Elector.holdThrough, afterRound_eq_error_iff.mpr ends]

/-- The turns of a leader that does not wait for answers: one after each pause. -/
def Paced (clock : Nat → Time) (elapsed : Nat) : List Turn → Prop
  | [] => True
  | turn :: rest =>
    turn.ended = elapsed + retryPeriod ∧ turn.now = clock turn.ended ∧
      Paced clock turn.ended rest

theorem exists_turn_of_mayEnd {now : Time} {outcome : Except Error Bool} (ended : Nat)
    (ends : (e.round now).run.MayEnd outcome) :
    ∃ turn : Turn, turn.now = now ∧ turn.ended = ended ∧ e.result turn = outcome := by
  rw [run_round] at ends
  cases ends with
  | request answer rest =>
      cases answer with
      | error cause =>
          cases rest
          refine ⟨⟨now, .error cause, .error .undecodable, ended⟩, rfl, rfl, ?_⟩
          rw [result_eq]
      | ok found =>
          simp only [respond] at rest
          split at rest
          next unwritten =>
            cases rest
            refine ⟨⟨now, .ok found, .error .undecodable, ended⟩, rfl, rfl, ?_⟩
            rw [result_eq]
            simp only [unwritten]
          next spec decided =>
            obtain ⟨written, asked, rest⟩ := exists_of_mayEnd_bind rest
            cases rest
            refine ⟨⟨now, .ok found, written, ended⟩, rfl, rfl, ?_⟩
            rw [result_eq]
            simp only [decided]

theorem exists_turns_of_mayEnd {clock : Nat → Time} {lastRenewal elapsed left : Nat}
    {answer : Option Error} (ends : (e.holdFrom clock lastRenewal elapsed left).MayEnd answer) :
    ∃ turns, Paced clock elapsed turns ∧ answer = e.holdThrough lastRenewal turns := by
  induction left using Nat.strongRecOn generalizing lastRenewal elapsed with
  | ind left inductionHypothesis =>
      rw [Elector.holdFrom] at ends
      split at ends
      next more =>
        cases ends with
        | sleep rest =>
            obtain ⟨outcome, round, rest⟩ := exists_of_mayEnd_bind rest
            obtain ⟨turn, now, ended, came⟩ :=
              exists_turn_of_mayEnd (elapsed + retryPeriod) round
            rw [← came, ← ended] at rest
            have now : turn.now = clock turn.ended := by rw [now, ended]
            split at rest
            next renewal lasts =>
              have less : left - retryPeriod < left := by
                simp only [retryPeriod] at more ⊢
                omega
              obtain ⟨turns, paced, same⟩ := inductionHypothesis _ less rest
              refine ⟨turn :: turns, ⟨ended, now, paced⟩, ?_⟩
              rw [Elector.holdThrough, lasts]
              exact same
            next cause lost =>
              cases rest
              refine ⟨[turn], ⟨ended, now, trivial⟩, ?_⟩
              rw [Elector.holdThrough, lost]
      next =>
        cases ends with
        | sleep rest =>
            cases rest
            exact ⟨[], trivial, rfl⟩

/-- However its requests are answered, a leader goes from turn to turn. However long the turns take,
leadership ends with the first in which somebody else is found to hold a lease that has not expired,
or the write of the lease meets a conflict, or which fails after the deadline. -/
theorem leadership_ends (e : Elector) (clock : Nat → Time) (span : Nat) :
    (∀ answer, (e.hold clock span).MayEnd answer →
      ∃ turns, Paced clock 0 turns ∧ answer = e.holdThrough 0 turns) ∧
    ∀ begun turns cause, e.holdThrough begun turns = some cause ↔ ∃ earlier turn later,
      turns = earlier ++ turn :: later ∧ e.holdThrough begun earlier = none ∧
      turn.Ends e (e.lastRenewal begun earlier) cause :=
  ⟨fun _ ends => exists_turns_of_mayEnd ends, fun _ _ _ => holdThrough_eq_some_iff⟩

/-- A lease whose holder has just renewed it, and whose replacements meet a conflict. -/
def contended : Cluster :=
  let filled : Cluster := Cluster.setStore {} .leases (Store.ofList [
    { metadata := { name := some controllerLease }
      spec := some
        { holderIdentity := some "a"
          renewTime := some ⟨⟨⟨2024, 1, 1⟩, 10, 0, 0, 0⟩⟩
          leaseDurationSeconds := some leaseSeconds } }])
  filled.withRefusals .leases fun verb => if verb = .replace then some 409 else none

def holding : Option Error × Cluster :=
  (Elector.hold { identity := "a" } (fun _ => ⟨⟨2024, 1, 1⟩, 10, 0, 2, 0⟩) 3000).run .direct
    contended

theorem holding_eq : holding.1 = some (.lost controllerLease) ∧
    (holding.2.object? .leases controllerLease).bind
      (fun lease : Lease => lease.spec.bind (·.holderIdentity)) = some "a" := by
  rw [holding, Elector.hold, Elector.holdFrom, if_pos (by decide)]
  decide +kernel

theorem leadership_ends_contended : ∃ turns earlier turn later,
    Paced (fun _ => ⟨⟨2024, 1, 1⟩, 10, 0, 2, 0⟩) 0 turns ∧ turns = earlier ++ turn :: later ∧
      turn.Ends { identity := "a" } (Elector.lastRenewal { identity := "a" } 0 earlier)
        (.lost controllerLease) := by
  obtain ⟨runs, ends⟩ :=
    leadership_ends { identity := "a" } (fun _ => ⟨⟨2024, 1, 1⟩, 10, 0, 2, 0⟩) 3000
  obtain ⟨turns, paced, same⟩ := runs holding.1 (mayEnd_run _ contended)
  obtain ⟨earlier, turn, later, split, -, ended⟩ :=
    (ends 0 turns _).mp (same.symm.trans holding_eq.1)
  exact ⟨turns, earlier, turn, later, paced, split, ended⟩

/-- Leadership ends with the first conflict, before the deadline, and the lease still names the
leader. -/
theorem leadership_lost_by_conflict :
    3000 < renewDeadline ∧ holding.1 = some (.lost controllerLease) ∧
      (holding.2.object? .leases controllerLease).bind
        (fun lease : Lease => lease.spec.bind (·.holderIdentity)) = some "a" :=
  ⟨by decide, holding_eq⟩

end Leadership

end NfsStorage

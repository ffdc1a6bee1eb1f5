import NfsStorage.Proofs.Leadership.Contest

/-!
# Rounds

A round is unread until it has the lease in hand, and then either ends or is about to write it. A
write that goes through follows on the read with no other in between, because what was read is not
outdated yet; any other end of a round leaves the lease as it is.
-/

namespace NfsStorage.Leadership

section Rounds

variable {lease : String} {i : Nat} {calls : List Call} {k : Cluster} {e : Elector} {now : Time}
  {rest : Program (Except Error Bool)}

/-- The second half of a round. -/
def respond (e : Elector) (now : Time) (found : Option Lease) : Program (Except Error Bool) :=
  match e.specToWrite? now found with
  | none => .done (.ok false)
  | some spec => (e.write found spec).bind fun answer => .done (e.holdsAfter answer)

theorem run_round (e : Elector) (now : Time) :
    (e.round now).run = .request (.get .leases e.lease) fun
      | .error cause => .done (.error (.getLease e.lease cause))
      | .ok found => respond e now found := by
  change Program.request _ _ = _
  congr 1
  funext answer
  cases answer with
  | error cause => rfl
  | ok found =>
      change ExceptT.bindCont _ (.ok found) = respond e now found
      simp only [ExceptT.bindCont, respond]
      cases e.specToWrite? now found <;> rfl

theorem available_of_specToWrite? {e : Elector} {now : Time} {found : Option Lease}
    {spec : LeaseSpec} (decided : e.specToWrite? now found = some spec) :
    Available e.identity now found := by
  cases found with
  | none => exact .absent
  | some found =>
      cases given : found.spec with
      | none => exact .unheld fun spec present => nomatch given.symm.trans present
      | some current =>
          simp only [Elector.specToWrite?, Option.bind_some, given, decision] at decided
          by_cases unheld : current.holderIdentity.getD "" = ""
          · refine .unheld fun spec present => ?_
            obtain rfl := Option.some.inj (given.symm.trans present)
            exact unheld
          · by_cases own : current.holderIdentity.getD "" = e.identity
            · refine .own given ?_
              cases holder : current.holderIdentity with
              | none => simp [holder] at unheld
              | some name => simpa [holder] using own
            · rw [if_neg own, if_neg unheld] at decided
              by_cases expired : isExpired current now = true
              · unfold isExpired at expired
                split at expired
                next renewed seconds renewal duration =>
                  exact .expired given renewal duration expired
                next incomplete =>
                  refine .undated given ?_
                  cases renewal : current.renewTime with
                  | none => exact Or.inl rfl
                  | some renewed =>
                      cases duration : current.leaseDurationSeconds with
                      | none => exact Or.inr rfl
                      | some seconds => exact (incomplete renewed seconds renewal duration).elim
              · rw [if_neg expired] at decided
                exact nomatch decided

/-- The calls of a round that won the lease. -/
inductive Won (lease : String) (i : Nat) (e : Elector) (now : Time) : List Call → Prop where
  | intro (later between earlier : List Call) {write read : Call} {found : Option Lease}
      (reading : read.round = some i ∧ read.Reads lease found)
      (writing : write.round = some i ∧ write.Writes lease)
      (others : ∀ c ∈ later ++ between ++ earlier, c.round ≠ some i)
      (unwritten : ∀ c ∈ between, ¬ c.Writes lease)
      (available : Available e.identity now found) :
      Won lease i e now (later ++ write :: (between ++ read :: earlier))

inductive Stage (lease : String) (i : Nat) (calls : List Call) (k : Cluster) (e : Elector)
    (now : Time) (rest : Program (Except Error Bool)) : Prop where
  | unread (competes : e.lease = lease) (left : rest = (e.round now).run)
      (idle : ∀ c ∈ calls, c.round ≠ some i)
  | read (between earlier : List Call) {read : Call} {found : Option Lease} {spec : LeaseSpec}
      (competes : e.lease = lease) (decided : e.specToWrite? now found = some spec)
      (left : rest = (e.write found spec).bind fun answer => .done (e.holdsAfter answer))
      (sequence : calls = between ++ read :: earlier)
      (reading : read.round = some i ∧ read.Reads lease found)
      (others : ∀ c ∈ between ++ earlier, c.round ≠ some i)
      (since : Since lease found between k)
  | won (left : rest = .done (.ok true)) (won : Won lease i e now calls)
  | lost {result : Except Error Bool} (left : rest = .done result) (lost : result ≠ .ok true)
      (unchanged : ∀ c ∈ calls, c.round = some i → c.after = c.before)

theorem Stage.call {c : Call} (stage : Stage lease i calls c.before e now rest)
    (other : c.round ≠ some i) (versioned : (c.before.store .leases).Versioned)
    (spares : c.request.SparesLease lease) : Stage lease i (c :: calls) c.after e now rest := by
  cases stage with
  | unread competes rest idle =>
      exact .unread competes rest (List.forall_mem_cons.mpr ⟨other, idle⟩)
  | read between earlier competes decided rest sequence reading others since =>
      refine .read (c :: between) earlier competes decided rest (congrArg (c :: ·) sequence)
        reading ?_ (since.call versioned spares)
      exact List.forall_mem_cons.mpr ⟨other, others⟩
  | won rest won =>
      obtain ⟨later, between, earlier, reading, writing, others, unwritten, available⟩ := won
      refine .won rest (.intro (c :: later) between earlier reading writing ?_ unwritten available)
      exact List.forall_mem_cons.mpr ⟨other, others⟩
  | lost rest lost unchanged =>
      refine .lost rest lost (List.forall_mem_cons.mpr ⟨fun own => absurd own other, unchanged⟩)

theorem Stage.of_same {l : Cluster} (stage : Stage lease i calls k e now rest)
    (same : l.object? .leases lease = k.object? .leases lease)
    (later : (k.store .leases).version ≤ (l.store .leases).version) :
    Stage lease i calls l e now rest := by
  cases stage with
  | unread competes left idle => exact .unread competes left idle
  | read between earlier competes decided left sequence reading others since =>
      exact .read between earlier competes decided left sequence reading others
        (since.of_same same later)
  | won left won => exact .won left won
  | lost left lost unchanged => exact .lost left lost unchanged

theorem holdsAfter_error_ne (e : Elector) (cause : StoreError) :
    e.holdsAfter (.error cause) ≠ .ok true := by
  simp only [Elector.holdsAfter]
  split <;> exact nofun

theorem not_outdated_of_created {object answer : Lease} {l : Cluster}
    (served : k.Served (.create .leases object) (.ok answer) l) (named : Resource.name object = lease) :
    ¬ Outdated lease k none := by
  rintro ⟨present, -⟩
  cases served with
  | created _ _ _ absent =>
      rw [named] at absent
      exact nomatch absent.symm.trans present

theorem not_outdated_of_replaced {found object answer : Lease}
    (answered : (k.serve (.replace .leases lease object)).1 = .ok answer)
    (version : object.metadata.resourceVersion = found.metadata.resourceVersion) :
    ¬ Outdated lease k (some found) := by
  intro outdated
  cases outdated with
  | found earlier read changed =>
      have stale : ∃ cause, k.serve (.replace .leases lease object) = (.error cause, k) := by
        apply k.serve_replace_of_stale
        · exact fun missing => nomatch (version.trans read).symm.trans missing
        · exact fun old present same => changed old present (same.trans version)
      obtain ⟨cause, refused⟩ := stale
      rw [refused] at answered
      exact nomatch answered

/-- A round ends with its write, which went through only if nobody was faster. -/
theorem Stage.wrote {c : Call} {between earlier : List Call} {read : Call} {found : Option Lease}
    {result : Except Error Bool} (own : c.round = some i)
    (name : c.request.collection = .leases ∧ c.request.writes? = some lease)
    (accepted : ∀ answer, c.answer = .ok answer →
      result = .ok true ∧ ¬ Outdated lease c.before found)
    (refused : ∀ e, c.answer = .error e → result ≠ .ok true)
    (reading : read.round = some i ∧ read.Reads lease found)
    (others : ∀ c ∈ between ++ earlier, c.round ≠ some i)
    (since : Since lease found between c.before)
    (available : Available e.identity now found) :
    Stage lease i (c :: (between ++ read :: earlier)) c.after e now (.done result) := by
  cases answered : c.answer with
  | ok answer =>
      obtain ⟨rfl, timely⟩ := accepted answer answered
      cases since with
      | current unwritten same =>
          exact .won rfl (.intro [] between earlier reading ⟨own, name.1, name.2, answer, answered⟩
            others unwritten available)
      | outdated outdated => exact absurd outdated timely
  | error e =>
      have served := c.served
      rw [answered] at served
      refine .lost rfl (refused e answered) fun call membership mine => ?_
      rcases List.mem_cons.mp membership with rfl | before
      · exact served.eq_of_error
      · rcases List.mem_append.mp before with inBetween | sinceRead
        · exact absurd mine (others call (List.mem_append_left _ inBetween))
        · rcases List.mem_cons.mp sinceRead with rfl | sinceEarlier
          · exact reading.2.answered.1
          · exact absurd mine (others call (List.mem_append_right _ sinceEarlier))

/-- A round goes on by reading the lease, or by writing it as it was read. -/
theorem Stage.goesOn {r : Request} {next : Except StoreError r.Answer → Program (Except Error Bool)}
    (stage : Stage lease i calls k e now (.request r next)) :
    r.SparesLease lease ∧
      Stage lease i (⟨some i, r, k⟩ :: calls) (k.serve r).2 e now (next (k.serve r).1) := by
  cases stage with
  | unread competes left idle =>
      subst competes
      rw [run_round] at left
      cases left
      refine ⟨fun _ writes => (nomatch writes), ?_⟩
      let read : Call := ⟨some i, .get .leases e.lease, k⟩
      have same : read.after = k := rfl
      have untouched : ∀ c ∈ read :: calls, c.round = some i → c.after = c.before :=
        List.forall_mem_cons.mpr ⟨fun _ => same, fun c before own => absurd own (idle c before)⟩
      change Stage e.lease i (read :: calls) read.after e now _
      cases answered : (k.serve (.get .leases e.lease)).1 with
      | error cause => exact .lost rfl nofun untouched
      | ok found =>
          simp only [respond]
          cases decided : e.specToWrite? now found with
          | none => exact .lost rfl nofun untouched
          | some spec =>
              have reads : read.Reads e.lease found := ⟨rfl, answered⟩
              refine .read [] calls rfl decided rfl rfl ⟨rfl, reads⟩ idle
                (.current (List.forall_mem_nil _) ?_)
              rw [same]
              exact reads.answered.2.symm
  | @read between earlier read found spec competes decided left sequence reading others since =>
      subst competes
      rw [sequence]
      have available := available_of_specToWrite? decided
      cases found with
      | none =>
          let object : Lease := { metadata := { name := some e.lease }, spec := some spec }
          let write : Call := ⟨some i, .create .leases object, k⟩
          have written : ∀ answer, write.answer = .ok answer →
              e.holdsAfter write.answer = .ok true ∧ ¬ Outdated e.lease k none := by
            intro answer answered
            have served := write.served
            rw [answered] at served ⊢
            exact ⟨rfl, not_outdated_of_created served rfl⟩
          cases left
          refine ⟨fun _ _ => Or.inl rfl, ?_⟩
          change Stage e.lease i (write :: _) write.after e now (.done (e.holdsAfter write.answer))
          refine Stage.wrote rfl ⟨rfl, rfl⟩ written (fun cause refused => ?_) reading others since
            available
          rw [refused]
          exact holdsAfter_error_ne e cause
      | some found =>
          let object : Lease := { found with spec := some spec }
          let write : Call := ⟨some i, .replace .leases e.lease object, k⟩
          have written : ∀ answer, write.answer = .ok answer →
              e.holdsAfter write.answer = .ok true ∧ ¬ Outdated e.lease k (some found) := by
            intro answer answered
            have timely : ¬ Outdated e.lease k (some found) :=
              not_outdated_of_replaced answered rfl
            rw [answered]
            exact ⟨rfl, timely⟩
          cases left
          refine ⟨fun _ _ => Or.inr rfl, ?_⟩
          change Stage e.lease i (write :: _) write.after e now (.done (e.holdsAfter write.answer))
          refine Stage.wrote rfl ⟨rfl, rfl⟩ written (fun cause refused => ?_) reading others since
            available
          rw [refused]
          exact holdsAfter_error_ne e cause
  | won left => exact nomatch left
  | lost left => exact nomatch left

end Rounds

namespace Contest

/-- Every round that was begun is at one of its stages, and all its calls are in the record. -/
structure Fair (lease : String) (t : Contest) : Prop where
  reachable : t.cluster.Reachable
  begun : ∀ c ∈ t.calls, ∀ i, c.round = some i → t.rounds i ≠ none
  staged : ∀ i e now rest, t.rounds i = some ⟨e, now, rest⟩ →
    Stage lease i t.calls t.cluster e now rest

variable {lease : String} {t t' start : Contest}

theorem setRound_ne_none (t : Contest) (i : Nat) (round : Round) {j : Nat}
    (begun : t.rounds j ≠ none) : (t.setRound i round).rounds j ≠ none := by
  by_cases same : j = i
  · simp [setRound, same]
  · simpa [setRound, same] using begun

theorem Fair.of_same {k : Cluster} (fair : t.Fair lease) (reachable : k.Reachable)
    (same : k.object? .leases lease = t.cluster.object? .leases lease)
    (version : (k.store .leases).version = (t.cluster.store .leases).version) :
    Fair lease { t with cluster := k } where
  reachable := reachable
  begun := fair.begun
  staged i e now rest underWay :=
    (fair.staged i e now rest underWay).of_same same (Nat.le_of_eq version.symm)

theorem Fair.step (fair : t.Fair lease) (step : Step lease t t') : t'.Fair lease := by
  have versioned := fair.reachable.versioned .leases
  cases step with
  | @begins i e now fresh competes =>
      have idle : ∀ c ∈ t.calls, c.round ≠ some i := fun c membership own =>
        fair.begun c membership i own fresh
      constructor
      · exact fair.reachable
      · exact fun c membership j own => t.setRound_ne_none i _ (fair.begun c membership j own)
      · intro j e' now' rest underWay
        by_cases same : j = i
        · subst same
          simp only [setRound, if_true, Option.some.injEq, Round.mk.injEq] at underWay
          obtain ⟨rfl, rfl, rfl⟩ := underWay
          exact .unread competes rfl idle
        · simp only [setRound, if_neg same] at underWay
          exact fair.staged j e' now' rest underWay
  | @goesOn i e now r next underWay =>
      obtain ⟨spares, ahead⟩ := (fair.staged i e now _ underWay).goesOn
      constructor
      · exact fair.reachable.served r
      · intro c membership j own
        apply t.setRound_ne_none i
        rcases List.mem_cons.mp membership with rfl | before
        · obtain rfl := Option.some.inj own
          exact underWay ▸ Option.some_ne_none _
        · exact fair.begun c before j own
      · intro j e' now' rest later
        by_cases same : j = i
        · subst same
          simp only [setRound, if_true, Option.some.injEq, Round.mk.injEq] at later
          obtain ⟨rfl, rfl, rfl⟩ := later
          exact ahead
        · simp only [setRound, if_neg same] at later
          have other : some i ≠ some j := fun equal => same (Option.some.inj equal).symm
          exact (fair.staged j e' now' rest later).call (c := ⟨some i, r, t.cluster⟩) other
            versioned spares
  | @other r spares =>
      constructor
      · exact fair.reachable.served r
      · intro c membership j own
        rcases List.mem_cons.mp membership with rfl | before
        · exact nomatch own
        · exact fair.begun c before j own
      · intro j e now rest underWay
        exact (fair.staged j e now rest underWay).call (c := ⟨none, r, t.cluster⟩) nofun versioned
          spares
  | refusals c refused =>
      refine fair.of_same (fair.reachable.refusing c refused)
        (Cluster.object?_withRefusals _ _ _ _ _) ?_
      rw [Cluster.withRefusals]
      by_cases same : .leases = c
      · subst same
        rw [Cluster.store_setStore]
      · rw [Cluster.store_setStore_of_ne _ _ same]
  | clock valid => exact fair.of_same (fair.reachable.ticked valid) rfl rfl

theorem Fair.reaches (fair : start.Fair lease) (reaches : Reaches lease start t) :
    t.Fair lease := by
  induction reaches with
  | refl => exact fair
  | step _ step inductionHypothesis => exact inductionHypothesis.step step

end Contest

/-- A round that ends with the lease in hand found it available, and nobody else wrote it between
the round's read and its write. A round that ends otherwise has changed nothing. -/
theorem no_live_lease_stolen {lease : String} {k : Cluster} (reachable : k.Reachable) {t : Contest}
    (reaches : Contest.Reaches lease { cluster := k } t) {i : Nat} {round : Round}
    (begun : t.rounds i = some round) {result : Except Error Bool}
    (ended : round.result? = some result) :
    (result = .ok true →
      ∃ (later between earlier : List Call) (write read : Call) (found : Option Lease),
        t.calls = later ++ write :: (between ++ read :: earlier) ∧
        (read.round = some i ∧ read.Reads lease found) ∧
        (write.round = some i ∧ write.Writes lease) ∧
        (∀ c ∈ later ++ between ++ earlier, c.round ≠ some i) ∧
        (∀ c ∈ between, ¬ c.Writes lease) ∧
        Available round.elector.identity round.now found) ∧
    (result ≠ .ok true → ∀ c ∈ t.calls, c.round = some i → c.after = c.before) := by
  have start : Contest.Fair lease { cluster := k } := by
    constructor
    · exact reachable
    · exact fun c none => nomatch none
    · exact fun i e now rest none => nomatch none
  obtain ⟨e, now, rest⟩ := round
  have stage := (start.reaches reaches).staged i e now rest begun
  cases stage with
  | unread _ left =>
      rw [left, run_round] at ended
      exact nomatch ended
  | @read _ _ _ found _ _ _ left =>
      rw [left] at ended
      cases found <;> exact nomatch ended
  | won left won =>
      rw [left] at ended
      obtain rfl := Option.some.inj ended
      refine ⟨fun _ => ?_, fun lost => absurd rfl lost⟩
      generalize t.calls = calls at won ⊢
      obtain ⟨later, between, earlier, reading, writing, others, unwritten, available⟩ := won
      exact ⟨later, between, earlier, _, _, _, rfl, reading, writing, others, unwritten, available⟩
  | lost left lost unchanged =>
      rw [left] at ended
      obtain rfl := Option.some.inj ended
      exact ⟨fun won => absurd won lost, fun _ => unchanged⟩

def lapsed : Cluster :=
  Cluster.setStore {} .leases (Store.ofList [
    { metadata := { name := some controllerLease }
      spec := some
        { holderIdentity := some "gone"
          renewTime := some ⟨⟨⟨2024, 1, 1⟩, 10, 0, 0, 0⟩⟩
          leaseDurationSeconds := some leaseSeconds } }])

def entered : Contest :=
  let now : Time := ⟨⟨2024, 1, 1⟩, 10, 1, 0, 0⟩
  (Contest.setRound { cluster := lapsed } 0
    ⟨{ identity := "a" }, now, (Elector.round { identity := "a" } now).run⟩).setRound 1
    ⟨{ identity := "b" }, now, (Elector.round { identity := "b" } now).run⟩

def raced : Contest := (((entered.turn 0).turn 1).turn 0).turn 1

/-- The one takes the lease over, and the other has changed nothing. -/
theorem no_live_lease_stolen_raced :
    Contest.Reaches controllerLease { cluster := lapsed } raced ∧
      (raced.rounds 0).bind Round.result? = some (.ok true) ∧
      (raced.rounds 1).bind Round.result? = some (.ok false) ∧
      (∃ c ∈ raced.calls, c.round = some 0 ∧ c.Writes controllerLease) ∧
      ∀ c ∈ raced.calls, c.round = some 1 → c.after = c.before := by
  have reachable : lapsed.Reachable := by
    refine .filled .leases _ ?_ .empty
    intro object membership
    obtain rfl := List.mem_singleton.mp membership
    exact nofun
  have begun : Contest.Reaches controllerLease { cluster := lapsed } entered :=
    .step (.step .refl (.begins rfl rfl)) (.begins rfl rfl)
  have reaches : Contest.Reaches controllerLease { cluster := lapsed } raced :=
    (((begun.turn 0).turn 1).turn 0).turn 1
  have succeeds : ∀ {ended : Option (Except Error Bool)} {holds : Bool},
      ended.map Except.toOption = some (some holds) → ended = some (.ok holds) := by
    intro ended holds answered
    obtain ⟨result, rfl, same⟩ := Option.map_eq_some_iff.mp answered
    cases result with
    | error cause => exact nomatch same
    | ok answer => exact congrArg (some ∘ Except.ok) (Option.some.inj same)
  have first : (raced.rounds 0).bind Round.result? = some (.ok true) :=
    succeeds (by decide +kernel)
  have second : (raced.rounds 1).bind Round.result? = some (.ok false) :=
    succeeds (by decide +kernel)
  refine ⟨reaches, first, second, ?_, ?_⟩
  · obtain ⟨round, begun, ended⟩ := Option.bind_eq_some_iff.mp first
    obtain ⟨later, between, earlier, write, read, found, sequence, -, writing, -⟩ :=
      (no_live_lease_stolen reachable reaches begun ended).1 rfl
    refine ⟨write, ?_, writing⟩
    rw [sequence]
    exact List.mem_append_right _ (List.mem_cons_self ..)
  · obtain ⟨round, begun, ended⟩ := Option.bind_eq_some_iff.mp second
    exact (no_live_lease_stolen reachable reaches begun ended).2 nofun

end NfsStorage.Leadership

import NfsStorage.Proofs.Program.Asking
import NfsStorage.Proofs.Program.Calls
import NfsStorage.Proofs.Program.Recorded

/-!
# Passes over many items

Some passes go through a list and do not stop at a failure: they collect the errors and go on. If
what is done to one item leaves the others alone, every item is treated as it would have been alone,
and the errors are those of the items in their order.
-/

namespace NfsStorage.Pass

variable {α ε : Type} {f : α → Pass ε Unit} {items : List α} {k : Cluster}

def failures : Except ε Unit → List ε
  | .ok () => []
  | .error e => [e]

def collect (f : α → Pass ε Unit) : List α → Program (List ε)
  | [] => pure []
  | a :: rest => do
    let result ← (f a).run
    let others ← collect f rest
    return failures result ++ others

theorem asks_collect {allowed : Request → Prop}
    (each : ∀ a ∈ items, ∀ l, Asks allowed (f a) l) : (collect f items).Asks allowed k := by
  induction items generalizing k with
  | nil => exact fun _ sent => nomatch sent
  | cons a rest inductionHypothesis =>
      refine Program.Asks.bind (each a (List.mem_cons_self ..) k)
        (Program.Asks.bind ?_ fun _ sent => nomatch sent)
      exact inductionHypothesis fun b later => each b (List.mem_cons_of_mem _ later)

theorem upholds_collect {rely guarantee : Cluster → Cluster → Prop} {kept : Cluster → Prop}
    (each : ∀ a ∈ items, ∀ l, kept l →
      Upholds rely guarantee (fun _ => kept) (fun _ => kept) (f a) l) (start : kept k) :
    Program.Upholds rely guarantee (fun _ => kept) (collect f items) k := by
  induction items generalizing k with
  | nil => exact start
  | cons a rest inductionHypothesis =>
      apply Program.Upholds.bind
      refine Program.Upholds.mono (each a (List.mem_cons_self ..) k start) fun result l ended => ?_
      rw [outcome_same] at ended
      apply Program.Upholds.bind
      have later := inductionHypothesis (fun b there => each b (List.mem_cons_of_mem _ there)) ended
      exact Program.Upholds.mono later fun _ _ ended => ended

/-- What a pass calls for it calls for at the turn of one of its items. -/
theorem exists_of_recorded_collect {m : Cluster} {calls : List Program.Call} {errors : List ε}
    (runs : (collect f items).Recorded k calls errors m) {c : Program.Call} (made : c ∈ calls) :
    ∃ a ∈ items, ∃ l own result l', Recorded (f a) l own result l' ∧ c ∈ own := by
  induction items generalizing k m calls errors with
  | nil =>
      obtain ⟨rfl, -⟩ := Program.recorded_pure runs
      exact nomatch made
  | cons a rest inductionHypothesis =>
      obtain ⟨result, l, own, later, rfl, first, after⟩ := Program.recorded_bind runs
      obtain ⟨others, l', turns, last, rfl, remaining, done⟩ := Program.recorded_bind after
      obtain ⟨rfl, -⟩ := Program.recorded_pure done
      rw [List.append_nil] at made
      rcases List.mem_append.mp made with here | there
      · exact ⟨a, List.mem_cons_self .., k, own, result, l, first, here⟩
      · obtain ⟨b, membership, turn⟩ := inductionHypothesis remaining there
        exact ⟨b, List.mem_cons_of_mem _ membership, turn⟩

theorem faults_collect {causes : ε → List StoreError}
    (each : ∀ a ∈ items, ∀ l, Reports causes (f a) l) :
    (collect f items).faults k = ((collect f items).run .direct k).1.flatMap causes := by
  induction items generalizing k with
  | nil => rfl
  | cons a rest inductionHypothesis =>
      have first := each a (List.mem_cons_self ..) k
      rw [Reports] at first
      rw [collect, Program.faults_bind, Program.faults_bind, Program.run_bind, Program.run_bind,
        Program.faults_pure, List.append_nil, first,
        inductionHypothesis fun b later => each b (List.mem_cons_of_mem _ later),
        Program.run_pure, List.flatMap_append]
      congr
      cases ((ExceptT.run (f a)).run .direct k).1 with
      | ok _ => rfl
      | error e => exact (List.flatMap_singleton ..).symm

/-- What is true of an item that its turn has come to, and what is true after its turn, no other
turn disturbs. -/
structure Undisturbed (f : α → Pass ε Unit) (ready met : α → Cluster → Prop) (a b : α) : Prop where
  ready : ∀ {l}, ready b l → ready b ((ExceptT.run (f a)).run .direct l).2
  met : ∀ {l}, met a l → met a ((ExceptT.run (f b)).run .direct l).2

/-- What a turn makes of its item is what the whole pass makes of it. -/
theorem run_collect (ready met : α → Cluster → Prop) {trouble : α → List ε}
    (turn : ∀ a ∈ items, ∀ l, ready a l →
      failures ((ExceptT.run (f a)).run .direct l).1 = trouble a ∧
        met a ((ExceptT.run (f a)).run .direct l).2)
    (apart : items.Pairwise (Undisturbed f ready met)) (start : ∀ a ∈ items, ready a k) :
    let ended := (collect f items).run .direct k
    ended.1 = items.flatMap trouble ∧ ∀ a ∈ items, met a ended.2 := by
  induction items generalizing k with
  | nil => exact ⟨rfl, fun _ none => nomatch none⟩
  | cons a rest inductionHypothesis =>
      obtain ⟨first, apart⟩ := List.pairwise_cons.mp apart
      obtain ⟨failed, met'⟩ := turn a (List.mem_cons_self ..) k (start a (List.mem_cons_self ..))
      let l := ((ExceptT.run (f a)).run .direct k).2
      obtain ⟨reported, meets⟩ := inductionHypothesis (k := l)
        (fun b later => turn b (List.mem_cons_of_mem _ later)) apart
        fun b later => (first b later).ready (start b (List.mem_cons_of_mem _ later))
      have lasts : ∀ items : List α, (∀ b ∈ items, Undisturbed f ready met a b) →
          ∀ {m}, met a m → met a ((collect f items).run .direct m).2 := by
        intro items
        induction items with
        | nil => exact fun _ _ met => met
        | cons b rest inductionHypothesis =>
            intro undisturbed m met
            rw [collect, Program.run_bind, Program.run_bind]
            exact inductionHypothesis
              (fun c later => undisturbed c (List.mem_cons_of_mem _ later))
              ((undisturbed b (List.mem_cons_self ..)).met met)
      intro ended
      have ends : ended = (failures ((ExceptT.run (f a)).run .direct k).1 ++
          ((collect f rest).run .direct l).1, ((collect f rest).run .direct l).2) := by
        simp only [ended, collect, Program.run_bind, Program.run_pure, l]
      rw [ends, failed, reported]
      refine ⟨rfl, fun b membership => ?_⟩
      rcases List.mem_cons.mp membership with rfl | later
      · exact lasts rest first met'
      · exact meets b later

end NfsStorage.Pass

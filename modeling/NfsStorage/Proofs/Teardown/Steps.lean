import NfsStorage.Proofs.Program.Collecting
import NfsStorage.Proofs.Program.Isolated
import NfsStorage.Proofs.Store.Verdict
import NfsStorage.Proofs.Teardown.Fate

/-!
# The steps of the teardown

Object by object, a step brings about the fate of what it takes and reports what went wrong. Each
step keeps to its own store, so that together the steps do what each of them does alone.
-/

namespace NfsStorage.Teardown

namespace Step

variable (s : Step)

def remove (name : String) : Pass Error Unit :=
  if s.deletes then Pass.request (.delete s.collection name) (.delete s.kind name) else pure ()

theorem dispose_eq (object : s.collection.Object) :
    s.dispose object =
      if (Resource.metadata object).finalizerList.isEmpty then s.remove (Resource.name object)
      else (do
        let _ ← Pass.request (.patch s.collection (Resource.name object) (finalizersPatch []))
          (.clearFinalizers s.kind (Resource.name object))
        s.remove (Resource.name object)) := by
  simp only [dispose, remove]
  cases (Resource.metadata object).finalizerList.isEmpty <;> rfl

theorem disposeAll_eq (objects : List s.collection.Object) :
    s.disposeAll objects = Pass.collect s.dispose objects := by
  induction objects with
  | nil => rfl
  | cons object rest inductionHypothesis =>
      rw [disposeAll, Pass.collect, inductionHypothesis]
      congr
      funext result
      cases result <;> rfl

def proceed : Except StoreError (List s.collection.Object) → Program (List Error)
  | .ok objects => s.disposeAll (objects.filter s.takes)
  | .error e => pure [.list s.kind e]

theorem run_eq : s.run = Program.call (.list s.collection) >>= s.proceed := by
  rw [run]
  congr

section Requests

variable {s} {allowed : Request → Prop} {k : Cluster}

theorem asks_remove {name : String} (deletes : allowed (.delete s.collection name)) :
    Pass.Asks allowed (s.remove name) k := by
  rw [remove]
  split
  · exact Pass.Asks.request _ deletes
  · exact Pass.Asks.pure _

theorem asks_dispose {object : s.collection.Object}
    (patches : allowed (.patch s.collection (Resource.name object) (finalizersPatch [])))
    (deletes : allowed (.delete s.collection (Resource.name object))) :
    Pass.Asks allowed (s.dispose object) k := by
  rw [dispose_eq]
  split
  · exact asks_remove deletes
  · exact Pass.Asks.request_then patches fun _ => asks_remove deletes

theorem asks_disposeAll {objects : List s.collection.Object}
    (patches : ∀ object ∈ objects,
      allowed (.patch s.collection (Resource.name object) (finalizersPatch [])))
    (deletes : ∀ object ∈ objects, allowed (.delete s.collection (Resource.name object))) :
    (s.disposeAll objects).Asks allowed k := by
  rw [disposeAll_eq]
  exact Pass.asks_collect fun object membership _ =>
    asks_dispose (patches object membership) (deletes object membership)

theorem asks_run (own : ∀ r, r.collection = s.collection → allowed r) : s.run.Asks allowed k := by
  rw [run_eq]
  refine Program.Asks.bind (fun r sent => ?_) ?_
  · obtain rfl := List.mem_singleton.mp sent
    exact own _ rfl
  · cases ((Program.call (.list s.collection)).run .direct k).1 with
    | ok objects => exact asks_disposeAll (fun _ _ => own _ rfl) fun _ _ => own _ rfl
    | error e => exact fun _ sent => nomatch sent

/-- The step finds nothing to do. -/
def Idle (s : Step) (k : Cluster) : Prop :=
  ∀ object ∈ (k.store s.collection).objects.values, s.takes object = true →
    s.deletes = false ∧ (Resource.metadata object).finalizerList = []

theorem asks_run_of_idle (idle : s.Idle k) : s.run.Asks (fun r => r.writes? = none) k := by
  rw [run_eq]
  refine Program.Asks.bind (fun r sent => ?_) ?_
  · obtain rfl := List.mem_singleton.mp sent
    rfl
  · change Program.Asks _ (s.proceed (k.serve (.list s.collection)).1) _
    cases answered : (k.serve (.list s.collection)).1 with
    | error e => exact fun _ sent => nomatch sent
    | ok objects =>
        obtain ⟨-, rfl, -⟩ := Cluster.serve_list_eq_ok_iff.mp (Prod.ext answered rfl)
        rw [proceed, disposeAll_eq]
        refine Pass.asks_collect fun object taken l => ?_
        obtain ⟨listed, takes⟩ := List.mem_filter.mp taken
        obtain ⟨spares, bare⟩ := idle object listed takes
        rw [dispose_eq, bare, List.isEmpty_nil, if_pos rfl, remove, spares]
        exact Pass.Asks.pure _

end Requests

section Reports

variable {k : Cluster}

def causes (e : Error) : List StoreError := [e.cause]

theorem reports_remove (name : String) : Pass.Reports causes (s.remove name) k := by
  rw [remove]
  split
  · exact Pass.Reports.request fun e => rfl
  · exact Pass.Reports.pure ()

theorem reports_dispose (object : s.collection.Object) :
    Pass.Reports causes (s.dispose object) k := by
  rw [dispose_eq]
  split
  · exact s.reports_remove _
  · exact Pass.Reports.request_then (fun _ => rfl) fun _ => s.reports_remove _

theorem faults_disposeAll (objects : List s.collection.Object) :
    (s.disposeAll objects).faults k =
      ((s.disposeAll objects).run .direct k).1.flatMap causes := by
  rw [disposeAll_eq]
  exact Pass.faults_collect fun object _ _ => s.reports_dispose object

theorem faults_run : s.run.faults k = (s.run.run .direct k).1.flatMap causes := by
  rw [run_eq, Program.run_call_bind]
  cases answered : (k.serve (.list s.collection)).1 with
  | ok objects => exact (Program.faults_call_bind_of_ok answered).trans (s.faults_disposeAll _)
  | error e => exact Program.faults_call_bind_of_error answered

end Reports

section Effects

variable {s} {k : Cluster} {object : s.collection.Object}

theorem run_remove (fair : s.Fair) (name : String)
    (bare : ∀ object, k.object? s.collection name = some object →
      (Resource.metadata object).finalizerList = []) :
    let ended := (ExceptT.run (s.remove name)).run .direct k
    Pass.failures ended.1 = s.undeleted (k.refused s.collection) name ∧
      ended.2.object? s.collection name =
        if s.deletes && (k.refused s.collection .delete).isNone then none
        else k.object? s.collection name := by
  have := fair.lawful
  intro ended
  cases deletes : s.deletes with
  | false =>
      have idle : ended = (.ok (), k) := by
        simp only [ended, remove, deletes]
        rfl
      rw [idle, undeleted, deletes]
      exact ⟨rfl, rfl⟩
  | true =>
      have asks : ended = ((k.serve (.delete s.collection name)).1.mapError
          (.delete s.kind name), (k.serve (.delete s.collection name)).2) := by
        simp only [ended, remove, deletes]
        rfl
      cases refused : k.refused s.collection .delete with
      | some code =>
          rw [asks, Cluster.serve_of_refused (r := .delete s.collection name) refused, undeleted,
            deletes, refused]
          exact ⟨rfl, rfl⟩
      | none =>
          obtain ⟨answered, gone⟩ := Cluster.serve_delete_of_bare refused bare
          rw [asks, answered, gone, undeleted, deletes, refused]
          exact ⟨rfl, rfl⟩

theorem object?_write_heldBy [LawfulResource s.collection.Object] (verb : Verb) :
    (k.write s.collection verb (Resource.name object) (Resource.heldBy object [])).object?
        s.collection (Resource.name object) =
      if Resource.isDeleting object then none
      else some (Store.withVersion (Resource.freed object)
        ((k.store s.collection).version + 1)) := by
  have released : Store.isReleased (Resource.heldBy object []) = Resource.isDeleting object := by
    rw [Store.isReleased, Resource.finalizerList_heldBy, Resource.metadata_heldBy,
      List.isEmpty_nil, Bool.and_true]
    exact Metadata.isDeleting_toSeconds _
  rw [Cluster.object?_write_self, Store.isReleased_stamped, released]
  cases alive : Resource.isDeleting object with
  | true => rfl
  | false =>
      have undated : (Resource.metadata object).deletionTimestamp = none :=
        Option.isSome_eq_false_iff.mp alive |> Option.isNone_iff_eq_none.mp
      simp [Store.stamped, Store.withVersion, Resource.heldBy, Resource.freed,
        Metadata.toSeconds, undated]

theorem run_dispose (fair : s.Fair) (reachable : k.Reachable)
    (found : k.object? s.collection (Resource.name object) = some object) :
    let ended := (ExceptT.run (s.dispose object)).run .direct k
    Pass.failures ended.1 = s.failuresOf (k.refused s.collection) object ∧
      (s.fateOf (k.refused s.collection) object).Met object
        (ended.2.object? s.collection (Resource.name object)) := by
  have := fair.lawful
  have tidy := reachable.tidy s.collection
  cases finalizers : (Resource.metadata object).finalizerList with
  | nil =>
      have bare : (Resource.metadata object).finalizerList.isEmpty = true := by
        rw [finalizers]
        rfl
      obtain ⟨reported, left⟩ := run_remove (k := k) fair (Resource.name object)
        fun other present => by
          obtain rfl := Option.some.inj (found.symm.trans present)
          exact finalizers
      rw [dispose_eq, if_pos bare]
      refine ⟨reported.trans ?_, ?_⟩
      · simp only [failuresOf, finalizers]
      · rw [left, found, fateOf, bare]
        cases s.deletes && (k.refused s.collection .delete).isNone <;> exact rfl
  | cons first rest =>
      have held : ¬ (Resource.metadata object).finalizerList.isEmpty = true := by
        rw [finalizers]
        exact Bool.false_ne_true
      rw [dispose_eq, if_neg held, Pass.run_bind, Pass.run_request]
      cases refused : k.refused s.collection .patch with
      | some code =>
          rw [Cluster.serve_of_refused (r := .patch s.collection (Resource.name object) _) refused]
          refine ⟨?_, ?_⟩
          · simp only [failuresOf, finalizers, refused]
            rfl
          · simp only [fateOf, finalizers, refused]
            exact found
      | none =>
          obtain ⟨answer, served⟩ :=
            Cluster.serve_finalizersPatch refused found (tidy.timed found) []
          rw [served]
          obtain ⟨reported, left⟩ := run_remove
            (k := k.write s.collection .patch (Resource.name object) (Resource.heldBy object []))
            fair (Resource.name object) fun other present => by
              rw [object?_write_heldBy] at present
              split at present
              · cases present
              · obtain rfl := Option.some.inj present
                simp [Store.withVersion, Metadata.finalizerList]
          rw [Cluster.refused_write, object?_write_heldBy] at left
          rw [Cluster.refused_write] at reported
          refine ⟨?_, ?_⟩
          · rw [failuresOf, finalizers, refused]
            exact reported
          · change Fate.Met object _
              (((ExceptT.run (s.remove (Resource.name object))).run .direct _).2.object? _ _)
            rw [left, fateOf, finalizers, refused]
            cases s.deletes && (k.refused s.collection .delete).isNone
            · cases Resource.isDeleting object
              · exact ⟨_, rfl⟩
              · exact rfl
            · exact rfl

/-- What the step does with an object it does with each of them, as long as no two have one
name. -/
theorem run_disposeAll (fair : s.Fair) {objects : List s.collection.Object}
    (reachable : k.Reachable) (apart : (objects.map Resource.name).Nodup)
    (found : ∀ object ∈ objects,
      k.object? s.collection (Resource.name object) = some object) :
    let ended := (s.disposeAll objects).run .direct k
    ended.1 = objects.flatMap (s.failuresOf (k.refused s.collection)) ∧
      ∀ object ∈ objects, (s.fateOf (k.refused s.collection) object).Met object
        (ended.2.object? s.collection (Resource.name object)) := by
  have elsewhere {object other : s.collection.Object} {l : Cluster}
      (different : Resource.name other ≠ Resource.name object) :
      ((ExceptT.run (s.dispose object)).run .direct l).2.object? s.collection
        (Resource.name other) = l.object? s.collection (Resource.name other) :=
    Program.Asks.object?_run (asks_dispose
      (fun _ written => different (Option.some.inj written).symm)
      fun _ written => different (Option.some.inj written).symm)
  rw [disposeAll_eq]
  apply Pass.run_collect (f := s.dispose)
    (fun object l => l.Reachable ∧ l.refused = k.refused ∧
      l.object? s.collection (Resource.name object) = some object)
    (fun object l => (s.fateOf (k.refused s.collection) object).Met object
      (l.object? s.collection (Resource.name object)))
  · intro object _ l ⟨reachable, refused, present⟩
    rw [← refused]
    exact run_dispose fair reachable present
  · refine (List.pairwise_map.mp apart).imp fun different => ⟨?_, fun met => ?_⟩
    · rintro l ⟨reachable, refused, present⟩
      exact ⟨reachable.run _, (Program.refused_run _ _).trans refused,
        (elsewhere (Ne.symm different)).trans present⟩
    · rwa [elsewhere different]
  · exact fun object membership => ⟨reachable, rfl, found object membership⟩

theorem run_run (fair : s.Fair) (reachable : k.Reachable) :
    let ended := s.run.run .direct k
    ended.1 = s.failures (k.store s.collection) ∧
      s.Done (k.store s.collection) (ended.2.store s.collection) := by
  have := fair.lawful
  have tidy := reachable.tidy s.collection
  intro ended
  have named {name} {object} (found : (k.store s.collection).get? name = some object) :
      Resource.name object = name := tidy.named found
  cases refused : (k.store s.collection).refused .list with
  | some code =>
      have ends : ended = ([.list s.kind (.api (Verb.list.refusal code ""))], k) := by
        simp only [ended, run_eq]
        rw [Program.run_call_bind, Cluster.serve_of_refused (r := .list s.collection) refused]
        rfl
      rw [ends, failures, refused]
      refine ⟨rfl, fun name => ?_⟩
      cases found : (k.store s.collection).get? name with
      | none => rfl
      | some object =>
          simp only [fate, refused]
          exact rfl
  | none =>
      let taken := (k.store s.collection).objects.values.filter s.takes
      have ends : ended = (s.disposeAll taken).run .direct k := by
        simp only [ended, run_eq]
        rw [Program.run_call_bind, Cluster.serve_list_eq_ok_iff.mpr ⟨refused, rfl, rfl⟩]
        rfl
      have mem_taken {object} : object ∈ taken ↔
          k.object? s.collection (Resource.name object) = some object ∧ s.takes object = true := by
        rw [List.mem_filter, tidy.mem_values_iff]
      have apart : (taken.map Resource.name).Nodup :=
        tidy.nodup_names.sublist (List.filter_sublist.map _)
      obtain ⟨reports, meets⟩ := run_disposeAll fair reachable apart fun object membership =>
        (mem_taken.mp membership).1
      rw [ends, failures, refused]
      refine ⟨reports, fun name => ?_⟩
      have untaken (leaves : ∀ object, k.object? s.collection name = some object →
          s.takes object = false) : ((s.disposeAll taken).run .direct k).2.object? s.collection
            name = k.object? s.collection name := by
        have other {object} (membership : object ∈ taken) : Resource.name object ≠ name := by
          rintro rfl
          obtain ⟨found, takes⟩ := mem_taken.mp membership
          exact Bool.false_ne_true ((leaves object found).symm.trans takes)
        exact Program.Asks.object?_run (asks_disposeAll
          (fun object membership _ written => other membership (Option.some.inj written))
          fun object membership _ written => other membership (Option.some.inj written))
      cases found : (k.store s.collection).get? name with
      | none =>
          exact (untaken fun object present =>
            absurd (present.symm.trans found) (Option.some_ne_none object)).trans found
      | some object =>
          change (s.fate _ object).Met object (((s.disposeAll taken).run .direct k).2.object? _ _)
          cases takes : s.takes object with
          | true =>
              obtain rfl := named found
              have met := meets object (mem_taken.mpr ⟨found, takes⟩)
              rw [fate, refused, takes]
              exact met
          | false =>
              rw [fate_eq_stays_of_not_takes takes, untaken fun other present => by
                obtain rfl := Option.some.inj (found.symm.trans present)
                exact takes]
              exact found

end Effects

end Step

end NfsStorage.Teardown

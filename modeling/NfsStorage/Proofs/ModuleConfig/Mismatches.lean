import NfsStorage.Proofs.ModuleConfig.Marks

/-!
# Storage classes that do not match the configuration

A pass over the configuration that can read marks the classes of all declarations that stay, however
many of them are missing or cannot be written, and tells of each of these once. It touches no other
class, and nothing but the marks.
-/

namespace NfsStorage.ModuleConfigPass

namespace Failure

def errors : Failure → List Error
  | one e => [e]
  | several errors => errors

def causes (f : Failure) : List StoreError := f.errors.flatMap Error.causes

end Failure

/-- What a pass reads is not refused. -/
structure Reads (k : Cluster) : Prop where
  moduleConfigs : k.refused .moduleConfigs .get = none
  declarations : k.refused .declarations .list = none
  storageClasses : k.refused .storageClasses .list = none

def configOf (k : Cluster) (name : String) : ModuleConfig :=
  (k.object? .moduleConfigs name).getD .unset

def live (k : Cluster) : List Declaration :=
  (k.store .declarations).objects.values.filter fun d => !d.isDeleting

def troubles (op : Operator) (k : Cluster) (name : String) : List Error :=
  (live k).filterMap (trouble? op (configOf k name) (k.store .storageClasses).objects
    (k.refused .storageClasses .patch))

/-- A class of the module's driver that goes by the name of a declaration that stays. -/
structure Belongs (k : Cluster) (n : String) (c : StorageClass) (d : Declaration) : Prop where
  stored : k.object? .storageClasses n = some c
  ours : c.provisioner = Names.nfsDriver
  declared : k.object? .declarations n = some d
  stays : d.isDeleting = false

section Reconcile

variable {op : Operator} {k : Cluster} {name : String}

theorem ofList_classes (reachable : k.Reachable) :
    Dict.ofList ((k.store .storageClasses).objects.values.map fun c : StorageClass =>
      (c.name, c)) = (k.store .storageClasses).objects :=
  (reachable.tidy .storageClasses).ofList_values

theorem mem_live_iff (reachable : k.Reachable) {d : Declaration} :
    d ∈ live k ↔ k.object? .declarations d.name = some d ∧ d.isDeleting = false := by
  rw [live, List.mem_filter, (reachable.tidy .declarations).mem_values_iff, Bool.not_eq_true']
  rfl

theorem asks_reconcile_of_patch {allowed : Request → Prop} (reachable : k.Reachable)
    (reads : ∀ r, r.writes? = none → allowed r)
    (patches : ∀ n c d, Belongs k n c d → isMarked c ≠ !isAdmitted op (configOf k name) d →
      ∀ change, allowed (.patch .storageClasses n change)) :
    Pass.Asks allowed (reconcile op name) k := by
  unfold reconcile
  refine Pass.Asks.bind (Pass.Asks.request _ (reads _ rfl)) fun found l looked => ?_
  obtain ⟨-, rfl, rfl⟩ := Pass.succeeds_get.mp looked
  refine Pass.Asks.bind (Pass.Asks.request _ (reads _ rfl)) fun declarations m listed => ?_
  obtain ⟨-, rfl, rfl⟩ := Pass.succeeds_list.mp listed
  refine Pass.Asks.bind (Pass.Asks.request _ (reads _ rfl)) fun classes m' listed => ?_
  obtain ⟨-, rfl, rfl⟩ := Pass.succeeds_list.mp listed
  refine Pass.Asks.bind (Program.Asks.bind ?_ fun _ sent => nomatch sent)
    fun _ _ _ _ sent => nomatch sent
  rw [ofList_classes reachable, checkAll_eq]
  refine Pass.asks_collect fun d membership l => asks_checkDeclaration_of_patch ?_
  intro c stored ours wrong
  obtain ⟨declared, stays⟩ := (mem_live_iff reachable).mp membership
  have same : c.name = d.name := (reachable.tidy .storageClasses).named stored
  rw [same]
  exact patches d.name c d ⟨stored, ours, declared, stays⟩ wrong _

def conclude (op : Operator) (config : ModuleConfig) (classes : Dict StorageClass)
    (declarations : List Declaration) : Pass Failure Next := do
  let errors ← checkAll op config classes declarations
  ExceptT.mk (pure (summary errors))

theorem conclude_eq (config : ModuleConfig) (classes : Dict StorageClass)
    (declarations : List Declaration) :
    ExceptT.run (conclude op config classes declarations) =
      checkAll op config classes declarations >>= fun errors => pure (summary errors) :=
  Pass.run_lift_bind _ _

theorem errors_summary (errors : List Error) :
    Pass.told Failure.errors (summary errors) = errors := by
  rcases errors with _ | ⟨e, _ | ⟨e', rest⟩⟩ <;> rfl

theorem told_causes (result : Except Failure Next) :
    Pass.told Failure.causes result = (Pass.told Failure.errors result).flatMap Error.causes := by
  cases result <;> rfl

theorem reports_conclude (config : ModuleConfig) (classes : Dict StorageClass)
    (declarations : List Declaration) :
    Pass.Reports Failure.causes (conclude op config classes declarations) k := by
  have faults : (checkAll op config classes declarations).faults k =
      ((checkAll op config classes declarations).run .direct k).1.flatMap Error.causes := by
    rw [checkAll_eq]
    exact Pass.faults_collect fun d _ _ => reports_checkDeclaration
  rw [Pass.Reports, conclude_eq, Program.run_bind, Program.run_pure, Program.faults_bind,
    Program.faults_pure, List.append_nil, faults]
  rw [told_causes, errors_summary]

theorem reports_reconcile : Pass.Reports Failure.causes (reconcile op name) k := by
  unfold reconcile
  refine Pass.Reports.bind (Pass.Reports.request fun _ => rfl) fun found l _ => ?_
  refine Pass.Reports.bind (Pass.Reports.request fun _ => rfl) fun declarations m _ => ?_
  refine Pass.Reports.bind (Pass.Reports.request fun _ => rfl) fun listed m' _ => ?_
  exact reports_conclude _ _ _

theorem run_reconcile (reads : Reads k) (reachable : k.Reachable) :
    let checked := (checkAll op (configOf k name) (k.store .storageClasses).objects
      (live k)).run .direct k
    (ExceptT.run (reconcile op name)).run .direct k = (summary checked.1, checked.2) := by
  rw [reconcile, Pass.Succeeds.run_bind (Pass.succeeds_get.mpr ⟨reads.moduleConfigs, rfl, rfl⟩),
    Pass.Succeeds.run_bind (Pass.succeeds_list.mpr ⟨reads.declarations, rfl, rfl⟩),
    Pass.Succeeds.run_bind (Pass.succeeds_list.mpr ⟨reads.storageClasses, rfl, rfl⟩),
    ofList_classes reachable]
  change (ExceptT.run (conclude op (configOf k name) _ (live k))).run .direct k = _
  rw [conclude_eq, Program.run_bind]
  rfl

theorem genuine_objects (reachable : k.Reachable) (lasting : k.NoneReleased)
    (named : ∀ n (c : StorageClass), k.object? .storageClasses n = some c →
      c.metadata.name ≠ none) : Genuine (k.store .storageClasses).objects where
  named {n c} found := by
    have name : c.name = n := (reachable.tidy .storageClasses).named found
    obtain ⟨given, has⟩ := Option.ne_none_iff_exists'.mp (named n c found)
    refine ⟨name, has.trans (congrArg some (Eq.trans ?_ name))⟩
    rw [StorageClass.name, Metadata.nameAny, has]
    rfl
  timed found := (reachable.tidy .storageClasses).timed found
  lasts found := lasting .storageClasses _ _ found

theorem summary_eq_ok_iff {errors : List Error} :
    summary errors = .ok .awaitChange ↔ errors = [] := by
  rcases errors with _ | ⟨e, _ | ⟨e', rest⟩⟩ <;> simp [summary]

theorem troubles_eq_nil_iff :
    troubles op k name = [] ↔ (∀ d ∈ live k, k.object? .storageClasses d.name ≠ none) ∧
      (troubles op k name).flatMap Error.causes = [] := by
  constructor
  · intro quiet
    rw [quiet]
    refine ⟨fun d membership missing => ?_, rfl⟩
    have untroubled := List.filterMap_eq_nil_iff.mp quiet d membership
    rw [trouble?, show (k.store .storageClasses).objects.get? d.name = none from missing]
      at untroubled
    exact Option.some_ne_none _ untroubled
  · rintro ⟨present, uncaused⟩
    refine List.eq_nil_iff_forall_not_mem.mpr fun e membership => ?_
    obtain ⟨d, live, failed⟩ := List.mem_filterMap.mp membership
    have uncaused := List.flatMap_eq_nil_iff.mp uncaused e membership
    rw [trouble?] at failed
    split at failed
    next missing => exact present d live missing
    next =>
      split at failed
      next => cases failed
      next =>
        obtain ⟨cause, rfl⟩ := exists_of_unmarked?_eq_some failed
        exact List.cons_ne_nil _ _ uncaused

theorem name_of_trouble? (reachable : k.Reachable) {d : Declaration} {e : Error}
    (troubled : trouble? op (configOf k name) (k.store .storageClasses).objects
      (k.refused .storageClasses .patch) d = some e) :
    e = .missingStorageClass d.name ∧ k.object? .storageClasses d.name = none ∨
      ∃ cause, e = .updateLabels d.name cause := by
  unfold trouble? at troubled
  split at troubled
  next missing => exact Or.inl ⟨(Option.some.inj troubled).symm, missing⟩
  next c stored =>
    split at troubled
    next => exact nomatch troubled
    next =>
      obtain ⟨cause, rfl⟩ := exists_of_unmarked?_eq_some troubled
      have same : c.name = d.name := (reachable.tidy .storageClasses).named stored
      exact Or.inr ⟨cause, congrArg (Error.updateLabels · cause) same⟩

/-- Nothing is reported twice, since no two declarations have one name. -/
theorem nodup_troubles (reachable : k.Reachable) : (troubles op k name).Nodup := by
  have apart : ((live k).map Declaration.name).Nodup :=
    (reachable.tidy .declarations).nodup_names.sublist (List.filter_sublist.map _)
  refine List.Pairwise.filterMap _ ?_ (List.pairwise_map.mp apart)
  rintro d d' different e troubled _ troubled' rfl
  rcases name_of_trouble? reachable troubled with ⟨rfl, -⟩ | ⟨cause, rfl⟩ <;>
    rcases name_of_trouble? reachable troubled' with ⟨same, -⟩ | ⟨cause', same⟩
  · exact different (Error.missingStorageClass.inj same)
  · exact nomatch same
  · exact nomatch same
  · exact different (Error.updateLabels.inj same).1

theorem missing_mem_troubles_iff (reachable : k.Reachable) {n : String} :
    .missingStorageClass n ∈ troubles op k name ↔
      ∃ d ∈ live k, d.name = n ∧ k.object? .storageClasses n = none := by
  rw [troubles, List.mem_filterMap]
  constructor
  · rintro ⟨d, stays, troubled⟩
    rcases name_of_trouble? reachable troubled with ⟨same, missing⟩ | ⟨_, same⟩
    · obtain rfl := Error.missingStorageClass.inj same
      exact ⟨d, stays, rfl, missing⟩
    · exact nomatch same
  · rintro ⟨d, stays, rfl, missing⟩
    refine ⟨d, stays, ?_⟩
    rw [trouble?, show (k.store .storageClasses).objects.get? d.name = none from missing]

/-- The pass fails with the errors of its declarations and leaves their classes checked. -/
theorem reconcile_checked (op : Operator) (name : String) (reads : Reads k)
    (reachable : k.Reachable) (lasting : k.NoneReleased)
    (named : ∀ n (c : StorageClass), k.object? .storageClasses n = some c →
      c.metadata.name ≠ none) :
    let ended := (ExceptT.run (reconcile op name)).run .direct k
    ended.1 = summary (troubles op k name) ∧
      ∀ d ∈ live k, Checked op (configOf k name) (k.refused .storageClasses .patch) d
        (k.object? .storageClasses d.name) (ended.2.object? .storageClasses d.name) := by
  have apart : ((live k).map Declaration.name).Nodup :=
    (reachable.tidy .declarations).nodup_names.sublist (List.filter_sublist.map _)
  rw [run_reconcile reads reachable]
  exact (run_checkAll apart (genuine_objects reachable lasting named) fun _ => rfl).imp_left
    (congrArg summary)

theorem unmarked?_eq_none {n : String} {c : StorageClass} {d : Declaration}
    (reachable : k.Reachable) (belongs : Belongs k n c d)
    (unfailing : ∀ cause, .updateLabels n cause ∉ troubles op k name) :
    unmarked? c (!isAdmitted op (configOf k name) d) (k.refused .storageClasses .patch) = none := by
  have declared : d.name = n := (reachable.tidy .declarations).named belongs.declared
  have stored : c.name = n := (reachable.tidy .storageClasses).named belongs.stored
  subst declared
  refine Option.eq_none_iff_forall_ne_some.mpr fun e failed => ?_
  obtain ⟨cause, rfl⟩ := exists_of_unmarked?_eq_some failed
  rw [stored] at failed
  refine unfailing cause (List.mem_filterMap.mpr ⟨d, ?_, ?_⟩)
  · exact (mem_live_iff reachable).mpr ⟨belongs.declared, belongs.stays⟩
  · rw [trouble?_eq_of_ours belongs.stored belongs.ours, failed]

theorem store_reconcile (reachable : k.Reachable) {c : Collection} (other : c ≠ .storageClasses) :
    ((ExceptT.run (reconcile op name)).run .direct k).2.store c = k.store c :=
  Program.Asks.store_run (asks_reconcile_of_patch reachable (fun _ reads _ => reads)
    fun _ _ _ _ _ _ same => absurd same.symm other)

theorem asks_reconcile_again (reads : Reads k) (reachable : k.Reachable)
    (lasting : k.NoneReleased)
    (named : ∀ n (c : StorageClass), k.object? .storageClasses n = some c →
      c.metadata.name ≠ none)
    (unfailing : ∀ n cause, .updateLabels n cause ∉ troubles op k name) (again : Conditions) :
    Pass.Asks (fun r => r.writes? = none) (reconcile op name)
      (((ExceptT.run (reconcile op name)).run .direct k).2.under again) := by
  obtain ⟨-, checked⟩ := reconcile_checked op name reads reachable lasting named
  have same : ∀ {c : Collection}, c ≠ .storageClasses → ∀ n,
      (((ExceptT.run (reconcile op name)).run .direct k).2.under again).object? c n =
        k.object? c n := by
    intro c other n
    rw [Cluster.object?_under, Cluster.object?, store_reconcile reachable other]
    rfl
  refine asks_reconcile_of_patch ((reachable.run _).under again) (fun r reads => reads)
    fun n c' d belongs wrong => ?_
  obtain ⟨stored, ours, declared, stays⟩ := belongs
  rw [Cluster.object?_under] at stored
  rw [same (by decide)] at declared
  rw [configOf, same (by decide)] at wrong
  obtain rfl : d.name = n := (reachable.tidy .declarations).named declared
  have checked := checked d ((mem_live_iff reachable).mpr ⟨declared, stays⟩)
  rw [stored] at checked
  obtain ⟨c, before, native, c'', present, -, -, right⟩ := exists_of_checked checked ours
  obtain rfl := Option.some.inj present
  exact absurd (right (unmarked?_eq_none reachable ⟨before, native, declared, stays⟩
    (unfailing d.name))) wrong

end Reconcile

/-- A pass that can read succeeds if every declaration that stays has a class and no call fails;
otherwise it reports every class that is missing and every call that failed, each once and in the
order of the declarations, and nothing else. Of the cluster it changes no more than the marks of
the classes that belong to declarations, and each of these is right, unless its error says that it
could not be written. If all could be, the next pass has nothing to write. -/
theorem mismatches_marked (op : Operator) {k : Cluster} (reachable : k.Reachable)
    (lasting : k.NoneReleased)
    (named : ∀ n (c : StorageClass), k.object? .storageClasses n = some c → c.metadata.name ≠ none)
    (reads : Reads k) (name : String) :
    let pass := (reconcile op name).run
    let result := (pass.run .direct k).1
    let l := (pass.run .direct k).2
    let errors := Pass.told Failure.errors result
    (errors = troubles op k name ∧ errors.Nodup ∧
      (∀ n, .missingStorageClass n ∈ errors ↔
        ∃ d ∈ live k, d.name = n ∧ k.object? .storageClasses n = none) ∧
      errors.flatMap Error.causes = pass.faults k ∧
      (result = .ok .awaitChange ↔
        (∀ d ∈ live k, k.object? .storageClasses d.name ≠ none) ∧ pass.faults k = [])) ∧
      (∀ c, c ≠ .storageClasses → l.store c = k.store c) ∧
      (∀ n, (∀ c d, ¬ Belongs k n c d) →
        l.object? .storageClasses n = k.object? .storageClasses n) ∧
      (∀ n c d, Belongs k n c d → ∃ c', l.object? .storageClasses n = some c' ∧
        c' = Resource.withMetadata c c'.metadata ∧ Alike c.metadata c'.metadata ∧
        ((∀ cause, .updateLabels n cause ∉ errors) →
          (c'.metadata.label? Names.mismatchLabel = some "true" ↔
            (configOf k name).validate op.tls d ≠ .ok ()))) ∧
      (pass.faults k = [] → ∀ again : Conditions,
        pass.Asks (fun r => r.writes? = none) (l.under again)) := by
  intro pass result l errors
  obtain ⟨concluded, checked⟩ : result = summary (troubles op k name) ∧
      ∀ d ∈ live k, Checked op (configOf k name)
        (k.refused .storageClasses .patch) d (k.object? .storageClasses d.name)
        (l.object? .storageClasses d.name) :=
    reconcile_checked op name reads reachable lasting named
  have reported : errors = troubles op k name :=
    (congrArg (Pass.told Failure.errors) concluded).trans (errors_summary _)
  have faults : errors.flatMap Error.causes = pass.faults k :=
    ((told_causes result).symm.trans reports_reconcile.symm)
  have found {n c d} (belongs : Belongs k n c d) : Checked op (configOf k name)
      (k.refused .storageClasses .patch) d (k.object? .storageClasses n)
      (l.object? .storageClasses n) := by
    have declared : d.name = n := (reachable.tidy .declarations).named belongs.declared
    subst declared
    exact checked d ((mem_live_iff reachable).mpr ⟨belongs.declared, belongs.stays⟩)
  refine ⟨⟨reported, reported ▸ nodup_troubles reachable, fun n => ?_, faults, ?_⟩,
    fun c => store_reconcile reachable, fun n unrelated => ?_, fun n c d belongs => ?_,
    fun unfailing again => ?_⟩
  · rw [reported]
    exact missing_mem_troubles_iff reachable
  · rw [concluded, summary_eq_ok_iff, ← faults, reported]
    exact troubles_eq_nil_iff
  · exact Program.Asks.object?_run (asks_reconcile_of_patch reachable
      (fun r reads => Request.avoids_of_reads reads) fun n' c d belongs _ _ _ written =>
        unrelated c d (Option.some.inj written ▸ belongs))
  · have checked := found belongs
    rw [belongs.stored, Checked, if_neg fun foreign => foreign belongs.ours] at checked
    obtain ⟨c', stored, same, alike, right⟩ := checked
    refine ⟨c', stored, same, alike, fun unfailing => ?_⟩
    rw [reported] at unfailing
    have right := right (unmarked?_eq_none reachable belongs unfailing)
    rw [← isMarked_iff, right, Bool.not_eq_true', ← Bool.not_eq_true, isAdmitted_iff]
  · refine asks_reconcile_again reads reachable lasting named (fun n cause failed => ?_) again
    rw [← faults, reported] at unfailing
    exact nomatch List.flatMap_eq_nil_iff.mp unfailing _ failed

/-- A declaration that nothing but a configuration with support for version 3 accepts, and one
without a storage class. -/
def unmatched : Cluster :=
  let declared (name : String) (nfsVersion : NfsVersion) : Declaration :=
    { metadata := { name := some name }
      spec :=
        { connection := { host := "host", share := "/share", nfsVersion }
          reclaimPolicy := .delete
          volumeBindingMode := .immediate } }
  (Cluster.setStore {} .declarations (Store.ofList [declared "a" .v3, declared "b" .v41])).setStore
    .storageClasses (Store.ofList [
      { metadata := { name := some "a" }
        provisioner := Names.nfsDriver }])

/-- Without a configuration the one is marked, and that the other has no class is all there is to
report. -/
theorem mismatches_marked_unmatched :
    let pass := (reconcile {} ModuleConfig.singleton).run
    let l := (pass.run .direct unmatched).2
    unmatched.Reachable ∧ unmatched.NoneReleased ∧ Reads unmatched ∧
      Pass.told Failure.errors (pass.run .direct unmatched).1 = [.missingStorageClass "b"] ∧
      ∃ c' : StorageClass, l.object? .storageClasses "a" = some c' ∧
        c'.metadata.label? Names.mismatchLabel = some "true" := by
  have reachable : unmatched.Reachable :=
    .filledAlive .storageClasses rfl (.filledAlive .declarations rfl .empty)
  have lasting : unmatched.NoneReleased := by
    refine .filled (.filled (k := {}) ?_ .declarations ?_) .storageClasses ?_
    · intro c name object present
      cases c <;> exact nomatch present
    all_goals decide
  have named : ∀ n (c : StorageClass), unmatched.object? .storageClasses n = some c →
      c.metadata.name ≠ none := by
    intro n c found
    obtain ⟨object, membership, version, rfl, -⟩ := Store.exists_mem_of_get?_ofList found
    obtain rfl := List.mem_singleton.mp membership
    exact Option.some_ne_none _
  have reads : Reads unmatched := ⟨rfl, rfl, rfl⟩
  intro pass l
  obtain ⟨⟨reported, -⟩, -, -, marks, -⟩ :=
    mismatches_marked {} reachable lasting named reads ModuleConfig.singleton
  have errors : troubles {} unmatched ModuleConfig.singleton = [.missingStorageClass "b"] := by
    decide +kernel
  obtain ⟨c', stored, -, -, right⟩ := marks "a" _ _ ⟨rfl, rfl, rfl, rfl⟩
  refine ⟨reachable, lasting, reads, reported.trans errors, c', stored, ?_⟩
  refine (right fun cause => ?_).mpr (by decide)
  rw [reported, errors]
  exact fun failed => nomatch List.mem_singleton.mp failed

end NfsStorage.ModuleConfigPass

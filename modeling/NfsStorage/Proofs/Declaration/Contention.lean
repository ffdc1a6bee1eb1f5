import NfsStorage.Proofs.Derived.Careful

/-!
# Passes among others

Between any two calls of a pass over a declaration others may write its derived objects. What the
pass makes or renews is what it has looked at just before, and if that has changed since, the pass
ends with an error and leaves the object to the others.
-/

namespace NfsStorage

open DeclarationPass (DerivedKind updated)
open Program (Call)
open Pass (Recorded Sends)

variable {kind : DerivedKind} {op : Operator} {d : Declaration} {α β : Type}

/-- Whatever others do meanwhile, the pass makes and renews derived objects of a kind with care. -/
def TakesCare (kind : DerivedKind) (desired : kind.collection.Object)
    (x : Pass DeclarationPass.Error α) : Prop :=
  ∀ k calls result m, k.Reachable → Recorded x k calls result m →
    CarefulWrites kind desired calls (∃ e, result = .error e)

namespace TakesCare

variable {desired : kind.collection.Object}

theorem of_sends {x : Pass DeclarationPass.Error α} {p : α → Prop}
    (sends : Sends (fun r => ¬ r.Makes kind.collection) p x) : TakesCare kind desired x :=
  fun _ _ _ _ reachable runs => .of_idle (Program.Sends.recorded sends runs reachable).2

theorem pure (a : α) : TakesCare kind desired (pure a) :=
  of_sends (p := fun _ => True) (Sends.pure trivial)

theorem bind {x : Pass DeclarationPass.Error α} {f : α → Pass DeclarationPass.Error β}
    (first : TakesCare kind desired x) (rest : ∀ a, TakesCare kind desired (f a)) :
    TakesCare kind desired (x >>= f) := by
  intro k calls result m reachable runs
  rcases Pass.recorded_bind runs with ⟨e, rfl, ended⟩ | ⟨a, l, early, late, rfl, before, after⟩
  · intro earlier write later split makes
    obtain ⟨seen, careful⟩ := first _ _ _ _ reachable ended earlier write later split makes
    exact ⟨seen, careful.mono fun _ => ⟨e, rfl⟩⟩
  · have there := (Program.Recorded.reachable before reachable).1
    have unfailing : ¬ ∃ e, (Except.ok a : Except DeclarationPass.Error α) = .error e := nofun
    exact (first _ _ _ _ reachable before).append (rest a _ _ _ _ there after)
      (fun failed => absurd failed unfailing) fun failed => absurd failed unfailing

end TakesCare

theorem sends_stripFinalizers (name : String) (live : Option kind.collection.Object)
    (failure : StoreError → DeclarationPass.Error) :
    Sends (fun r => ¬ r.Makes kind.collection) (fun _ => True)
      (DeclarationPass.stripFinalizers name live failure) := by
  unfold DeclarationPass.stripFinalizers
  cases live with
  | none => exact Sends.pure trivial
  | some object =>
      simp only
      split
      next => exact Sends.pure trivial
      next =>
        exact Sends.request_then (Request.not_makes_of_verb nofun nofun) (Sends.pure trivial)

/-- An object that is deleted and made anew is made only if nothing has come in its place. -/
theorem careful_recreate {looked : Call} {rest : List Call} {m : Cluster}
    {live : Option kind.collection.Object} {failure : StoreError → DeclarationPass.Error}
    {result : Except DeclarationPass.Error (Option String)}
    (idle : Idle kind.collection [looked]) (reachable : looked.after.Reachable)
    (runs : Recorded (do
      DeclarationPass.stripFinalizers (Resource.name (kind.wanted op d)) live failure
      Pass.request (.delete kind.collection (Resource.name (kind.wanted op d))) failure
      let _ ← Pass.request (.create kind.collection (kind.wanted op d)) failure
      return none) looked.after rest result m) :
    CarefulWrites kind (kind.wanted op d) (looked :: rest) (∃ e, result = .error e) := by
  have stripped : ∀ {calls ended l}, Recorded (DeclarationPass.stripFinalizers
      (Resource.name (kind.wanted op d)) live failure) looked.after calls ended l →
      Idle kind.collection calls :=
    fun runs => (Program.Sends.recorded (sends_stripFinalizers _ live failure) runs reachable).2
  rcases Pass.recorded_bind runs with ⟨e, rfl, strips⟩ | ⟨_, l, first, rest, rfl, strips, goesOn⟩
  · exact .of_idle (idle.append (stripped strips))
  · -- Whoever may still hold the object, the pass takes its place to be empty from here on.
    obtain ⟨there, rest, -, rfl, ends⟩ := Pass.recorded_request_bind goesOn
    let deletion : Call := ⟨.delete kind.collection (Resource.name (kind.wanted op d)), there⟩
    have idle : Idle kind.collection ([looked] ++ first ++ [deletion]) :=
      (idle.append (stripped strips)).append
        (List.forall_mem_singleton.mpr (Request.not_makes_of_verb nofun nofun))
    rcases ends with ⟨-, rfl, -⟩ | ⟨_, deleted, makes⟩
    · exact .of_idle idle
    · obtain ⟨place, -, rfl, fails⟩ := Pass.recorded_request_then makes
      have shows : deletion.Shows kind.collection (Resource.name (kind.wanted op d)) none :=
        .deleted rfl (Call.fault?_eq_none_iff.mpr ⟨_, deleted⟩)
      have careful := (Careful.create shows ([looked] ++ first) place).mono fails
      have writes := CarefulWrites.of_last idle careful
      rwa [List.append_assoc, List.append_assoc] at writes

/-- What was judged is carried out on what was seen. -/
theorem careful_apply {looked : Call} {rest : List Call} {m : Cluster}
    {live : Option kind.collection.Object} {deleting : Bool} {action : Action}
    {result : Except DeclarationPass.Error (Option String)}
    (judged : kind.Judged live deleting (.ok action))
    (saw : looked.Saw kind.collection (Resource.name (kind.wanted op d)) live)
    (reachable : looked.before.Reachable)
    (runs : Recorded (DeclarationPass.apply kind live (kind.wanted op d) action) looked.after rest
      result m) :
    CarefulWrites kind (kind.wanted op d) (looked :: rest) (∃ e, result = .error e) := by
  have idle : Idle kind.collection [looked] := List.forall_mem_singleton.mpr saw.not_makes
  cases judged with
  | gone | inForm | foreign =>
      obtain ⟨rfl, -, -⟩ := Pass.recorded_pure runs
      exact .of_idle idle
  | missing =>
      obtain ⟨l, -, rfl, fails⟩ := Pass.recorded_request_then runs
      exact .of_last idle ((Careful.create (.looked saw) [] l).mono fails)
  | outOfForm live =>
      obtain ⟨l, leads, rfl, fails⟩ := Pass.recorded_request_then runs
      exact .of_last idle ((Careful.replace saw [] reachable leads).mono fails)
  | unwanted live =>
      have sends : Sends (fun r => ¬ r.Makes kind.collection) (fun _ => True)
          (DeclarationPass.apply kind (some live) (kind.wanted op d) .delete) := by
        refine Sends.bind ((sends_stripFinalizers _ _ _).mono fun _ _ => ?_)
        exact Sends.request_then (Request.not_makes_of_verb nofun nofun) (Sends.pure trivial)
      have there : looked.after.Reachable := saw.after_eq ▸ reachable
      exact .of_idle (idle.append (Program.Sends.recorded sends runs there).2)
  | fixed live => exact careful_recreate idle (saw.after_eq ▸ reachable) runs

theorem takesCare_sync (kind : DerivedKind) (op : Operator) (d : Declaration) (deleting : Bool) :
    TakesCare kind (kind.wanted op d) (DeclarationPass.sync kind (kind.wanted op d) deleting) := by
  intro k calls result m reachable runs
  obtain ⟨l, rest, leads, rfl, ends⟩ := Pass.recorded_request_bind runs
  let looked : Call := ⟨.get kind.collection (Resource.name (kind.wanted op d)), l⟩
  have idle : Idle kind.collection [looked] :=
    List.forall_mem_singleton.mpr (Request.not_makes_of_verb nofun nofun)
  rcases ends with ⟨-, rfl, -⟩ | ⟨live, answered, applies⟩
  · exact .of_idle idle
  · have judged := kind.judged live (kind.wanted op d) deleting
    generalize kind.action live (kind.wanted op d) deleting = verdict at judged applies
    cases verdict with
    | ok action =>
        exact careful_apply judged (Call.saw_get answered) (leads.reachable reachable) applies
    | error foreign =>
        obtain ⟨rfl, -, -⟩ := Pass.recorded_pure applies
        exact .of_idle idle

theorem takesCare_syncDerived (kind : DerivedKind) (op : Operator) (d : Declaration)
    (deleting : Bool) :
    TakesCare kind (kind.wanted op d) (DeclarationPass.syncDerived op d deleting) := by
  have each : ∀ other : DerivedKind, TakesCare kind (kind.wanted op d)
      (DeclarationPass.sync other (other.wanted op d) deleting) := by
    intro other
    by_cases same : other = kind
    · subst same
      exact takesCare_sync other op d deleting
    · -- What is done for another kind is done in another collection.
      refine .of_sends ((keepsTo_sync (other.name_wanted op d) deleting).weaken
        fun r concerns makes => same ?_)
      exact DerivedKind.collection_injective (concerns.collection.symm.trans makes.collection)
  rw [DeclarationPass.syncDerived_eq]
  refine .bind (each .storageClass) fun _ => ?_
  refine .bind (each .secret) fun _ => ?_
  exact .bind (each .snapshotClass) fun _ => .pure _

theorem takesCare_patchFinalizers (kind : DerivedKind) (desired : kind.collection.Object)
    (name : String) (finalizers : List String) :
    TakesCare kind desired (DeclarationPass.patchFinalizers name finalizers) :=
  .of_sends (p := fun _ => True)
    (Sends.request_then (Request.not_makes_of_verb nofun nofun) (Sends.pure trivial))

theorem takesCare_converge (kind : DerivedKind) (op : Operator) (d : Declaration) :
    TakesCare kind (kind.wanted op d) (DeclarationPass.converge op d) := by
  have afterwards : TakesCare kind (kind.wanted op d) (DeclarationPass.establish op d) := by
    refine .bind (.of_sends (p := fun _ => True) ?_) fun found => ?_
    · exact Sends.request (Request.not_makes_of_verb nofun nofun) fun _ _ => trivial
    · simp only
      split
      next => exact .pure _
      next => exact .bind (takesCare_syncDerived kind op d false) fun _ => .pure _
  rw [DeclarationPass.converge_eq]
  split
  next => exact .bind (takesCare_patchFinalizers kind _ _ _) fun _ => afterwards
  next => exact afterwards

theorem takesCare_release (kind : DerivedKind) (op : Operator) (d : Declaration) :
    TakesCare kind (kind.wanted op d) (DeclarationPass.release op d) := by
  unfold DeclarationPass.release
  refine .bind (takesCare_syncDerived kind op d true) fun _ => ?_
  simp only
  split
  next => exact .bind (takesCare_patchFinalizers kind _ _ _) fun _ => .pure _
  next => exact .pure _

theorem sends_updateStatus (status : DeclarationStatus) :
    Sends (fun r => r.collection = .declarations) (fun _ => True)
      (DeclarationPass.updateStatus d status) := by
  unfold DeclarationPass.updateStatus
  split
  next => exact Sends.pure trivial
  next => exact Sends.request_then rfl (Sends.pure trivial)

/-- After its work a pass does no more than tell what came of it. -/
theorem recorded_reconcileFound {k m : Cluster} {calls : List Call}
    {result : Except DeclarationPass.Error Next} (reachable : k.Reachable)
    (runs : (DeclarationPass.reconcileFound op d).Recorded k calls result m) :
    ∃ ended written l first rest, calls = first ++ rest ∧
      Recorded (if d.isDeleting then DeclarationPass.release op d
        else DeclarationPass.converge op d) k first ended l ∧
      (∀ call ∈ rest, call.request.collection = .declarations) ∧
      result = DeclarationPass.joinResults op ended written := by
  obtain ⟨ended, l, first, rest, rfl, works, goesOn⟩ := Program.recorded_bind runs
  cases called : DeclarationPass.statusAfter ended with
  | none =>
      rw [called] at goesOn
      cases goesOn
      exact ⟨ended, _, _, first, [], rfl, works, List.forall_mem_nil _, rfl⟩
  | some status =>
      rw [called] at goesOn
      obtain ⟨written, m, told, none, rfl, tells, ends⟩ := Program.recorded_bind goesOn
      cases ends
      have there := (Program.Recorded.reachable works reachable).1
      have told := (Program.Sends.recorded (sends_updateStatus status) tells there).2
      exact ⟨ended, written, l, first, _, rfl, works, by rwa [List.append_nil], rfl⟩

/-- A pass that could not write an object ends with an error, and leaves the object alone. -/
theorem careful_reconcileFound (kind : DerivedKind) {k m : Cluster} {calls : List Call}
    {result : Except DeclarationPass.Error Next} (reachable : k.Reachable)
    (runs : (DeclarationPass.reconcileFound op d).Recorded k calls result m) :
    CarefulWrites kind (kind.wanted op d) calls (∃ e, result = .error e) := by
  obtain ⟨ended, written, l, first, rest, rfl, works, tells, rfl⟩ :=
    recorded_reconcileFound reachable runs
  have careful : CarefulWrites kind (kind.wanted op d) first (∃ e, ended = .error e) := by
    cases state : d.isDeleting with
    | true =>
        rw [state] at works
        exact takesCare_release kind op d _ _ _ _ reachable works
    | false =>
        rw [state] at works
        exact takesCare_converge kind op d _ _ _ _ reachable works
  have elsewhere : ∀ call ∈ rest, call.request.collection ≠ kind.collection := fun call made same =>
    kind.collection_ne_declarations (same.symm.trans (tells call made))
  refine careful.append (.of_idle fun call made makes => elsewhere call made makes.collection) ?_
    fun _ call made => Call.leaves_of_collection_ne (elsewhere call made) _
  rintro ⟨e, rfl⟩
  cases written <;> exact ⟨_, rfl⟩

/-- A call of a pass is the look at its declaration, or comes of what was seen there. -/
theorem recorded_reconcile {n : String} {k m : Cluster} {earlier later : List Call} {call : Call}
    {result : Except DeclarationPass.Error Next} (reachable : k.Reachable)
    (runs : Recorded (DeclarationPass.reconcile op n) k (earlier ++ call :: later) result m) :
    call.request = .get .declarations n ∨
      ∃ d read between, earlier = read :: between ∧ read.Saw .declarations n (some d) ∧
        d.name = n ∧ read.after.Reachable ∧
        (DeclarationPass.reconcileFound op d).Recorded read.after (between ++ call :: later)
          result m := by
  obtain ⟨l, rest, leads, split, ends⟩ := Pass.recorded_request_bind runs
  cases earlier with
  | nil =>
      obtain ⟨rfl, -⟩ := List.cons.inj split
      exact Or.inl rfl
  | cons read between =>
      obtain ⟨rfl, rfl⟩ := List.cons.inj split
      have goesOn : between ++ call :: later ≠ [] := List.append_ne_nil_of_right_ne_nil _ nofun
      rcases ends with ⟨-, none, -⟩ | ⟨found, answered, follows⟩
      · exact absurd none goesOn
      · have there := leads.reachable reachable
        cases found with
        | none => exact absurd (Pass.recorded_pure follows).1 goesOn
        | some d =>
            have saw := Call.saw_get answered
            have named : d.name = n :=
              (there.sound.tidy (c := .declarations) rfl).named saw.found
            exact Or.inr ⟨d, _, between, rfl, saw, named, there.served _, follows⟩

/-- What a pass puts in the place of a live object carries over what others have added to it.
Whatever others do meanwhile, a pass makes or renews an object of a declaration that it has read
only as long as the object is what the pass has seen, and nothing of it is lost. If it is not, the
pass ends with an error and the object stays as others have left it. -/
theorem contended_lossless (op : Operator) (kind : DerivedKind) :
    (∀ live desired : kind.collection.Object,
      Carries (Resource.metadata live) desired (updated live desired)) ∧
    ∀ (n : String) (k : Cluster) (calls : List Call) (result : Except DeclarationPass.Error Next)
      (m : Cluster), k.Reachable → Recorded (DeclarationPass.reconcile op n) k calls result m →
      ∀ earlier write later, calls = earlier ++ write :: later →
        write.request.Makes kind.collection →
        ∃ d seen, (∃ read ∈ earlier, read.Saw .declarations n (some d)) ∧ d.name = n ∧
          Careful kind (kind.wanted op d) earlier write later seen (∃ e, result = .error e) := by
  refine ⟨carries_updated, ?_⟩
  rintro n k _ result m reachable runs earlier write later rfl makes
  rcases recorded_reconcile reachable runs with
    get | ⟨d, read, between, rfl, saw, named, there, follows⟩
  · rw [get] at makes
    exact absurd makes (Request.not_makes_of_verb nofun nofun)
  · obtain ⟨seen, careful⟩ :=
      careful_reconcileFound kind there follows between write later rfl makes
    exact ⟨d, seen, ⟨read, List.mem_cons_self .., saw⟩, named, careful.prepend [read]⟩

def sharing : Declaration :=
  { metadata := { name := some "a", finalizers := some [Names.finalizer] }
    spec :=
      { connection := { host := "host", share := "/share", nfsVersion := .v41 }
        reclaimPolicy := .delete
        volumeBindingMode := .immediate } }

def teamClass (team : String) : StorageClass :=
  { (DerivedKind.storageClass.wanted {} sharing : StorageClass) with
    metadata :=
      { name := some "a"
        labels := some (Dict.ofList [("example.com/team", team)])
        finalizers := some ["example.com/hold"] }
    mountOptions := none }

def shared : Cluster :=
  (Cluster.setStore {} .declarations (Store.ofList [sharing])).setStore .storageClasses
    (Store.ofList [teamClass "files"])

theorem reachable_shared : shared.Reachable :=
  .filledAlive .storageClasses rfl (.filledAlive .declarations rfl .empty)

/-- A pass renews the class and takes nothing from the team. If another team takes the class over
just then, the pass ends with an error, and the class is the other team's. -/
theorem contended_lossless_shared :
    let pass := (DeclarationPass.reconcile {} "a").run
    let quiet := pass.interrupted [] shared
    let contended := pass.interrupted
      [[], [], [], [.replace .storageClasses "a" (teamClass "photos")]] shared
    (∃ write ∈ quiet.1, write.request.Makes .storageClasses ∧
      ∃ object : StorageClass, write.after.object? .storageClasses "a" = some object ∧
        (object.metadata.labels.getD ∅).get? "example.com/team" = some "files" ∧
        object.metadata.finalizerList = ["example.com/hold", Names.finalizer]) ∧
      (∃ write ∈ contended.1, write.request.Makes .storageClasses ∧ write.after = write.before) ∧
      ∃ e, contended.2.1 = .error e := by
  intro pass quiet contended
  have files : ∃ write ∈ quiet.1, write.request.Makes .storageClasses ∧ write.fault? = none ∧
      write.before.object? .storageClasses "a" = shared.object? .storageClasses "a" := by
    decide +kernel
  have photos : ∃ write ∈ contended.1, write.request.Makes .storageClasses ∧
      write.fault? ≠ none := by
    decide +kernel
  have desired : ∀ d, (Resource.metadata (DerivedKind.storageClass.wanted {} d)).labels =
      some (Dict.ofList [(Names.managedByLabel, Names.operator)]) := fun _ => rfl
  constructor
  · obtain ⟨write, made, makes, succeeds, same⟩ := files
    obtain ⟨earlier, later, split⟩ := List.append_of_mem made
    obtain ⟨d, seen, -, named, careful⟩ := contended_lossless {} .storageClass |>.2 "a" shared
      quiet.1 quiet.2.1 quiet.2.2 reachable_shared (Program.recorded_interrupted pass [] shared)
      earlier write later split makes
    have nameIs := (DerivedKind.storageClass.name_wanted {} d).trans named
    obtain ⟨current, object, stored, carries⟩ := careful.stored succeeds
    rw [nameIs] at current stored
    obtain rfl := current.symm.trans same
    have label := carries.labels "example.com/team"
    have finalizers := carries.finalizers
    rw [desired] at label
    rw [DerivedKind.finalizerList_wanted] at finalizers
    exact ⟨write, made, makes, object, stored, label, finalizers⟩
  · obtain ⟨write, made, makes, fails⟩ := photos
    obtain ⟨earlier, later, split⟩ := List.append_of_mem made
    obtain ⟨d, seen, -, -, careful⟩ := contended_lossless {} .storageClass |>.2 "a" shared
      contended.1 contended.2.1 contended.2.2 reachable_shared
      (Program.recorded_interrupted pass _ shared) earlier write later split makes
    obtain ⟨ends, left, -⟩ := careful.failed fails
    exact ⟨⟨write, made, makes, left⟩, ends⟩
end NfsStorage

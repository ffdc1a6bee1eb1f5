import NfsStorage.Proofs.Declaration.Footprint
import NfsStorage.Proofs.Derived.Settle
import NfsStorage.Proofs.Program.Asking
import NfsStorage.Proofs.Program.Recorded

/-!
# Derived objects that others write as well

Others may write a derived object at any time: before a pass looks at it, and between the look and
the write that the look leads to. What a pass writes in the place of a live object carries over what
others have added to it. If the object is not the one that the pass has seen, the write fails, and
with it the pass.
-/

namespace NfsStorage

open DeclarationPass (DerivedKind updated mergedFinalizers)
open Program (Call)

/-- The object has all that is desired, and of what was there before all that is not in its way. Its
version and the time of its deletion are the server's. -/
structure Carries {c : Collection} (before : Metadata) (desired object : c.Object) : Prop where
  content : Resource.withMetadata object (Resource.metadata desired) = desired
  identity : { Resource.metadata object with
      labels := (Resource.metadata desired).labels
      annotations := (Resource.metadata desired).annotations
      finalizers := (Resource.metadata desired).finalizers
      resourceVersion := (Resource.metadata desired).resourceVersion
      deletionTimestamp := (Resource.metadata desired).deletionTimestamp } =
    Resource.metadata desired
  labels : ∀ key, ((Resource.metadata object).labels.getD ∅).get? key =
    (((Resource.metadata desired).labels.getD ∅).get? key).or ((before.labels.getD ∅).get? key)
  annotations : ∀ key, ((Resource.metadata object).annotations.getD ∅).get? key =
    (((Resource.metadata desired).annotations.getD ∅).get? key).or
      ((before.annotations.getD ∅).get? key)
  finalizers : (Resource.metadata object).finalizerList = before.finalizerList ++
    ((Resource.metadata desired).finalizerList.filter
      (!before.finalizerList.contains ·)).eraseDups

namespace DeclarationPass

theorem mergedFinalizers_eq (live desired : List String) : mergedFinalizers live desired =
    live ++ (desired.filter (!live.contains ·)).eraseDups := by
  induction desired generalizing live with
  | nil => simp [mergedFinalizers]
  | cons finalizer rest inductionHypothesis =>
      rw [mergedFinalizers, List.foldl_cons]
      change mergedFinalizers _ rest = _
      -- One that is new counts as live for the rest, so it is not added twice.
      by_cases held : live.contains finalizer = true
      · rw [if_pos held, inductionHypothesis, List.filter_cons_of_neg (by simpa using held)]
      · have same : rest.filter (!(live ++ [finalizer]).contains ·) =
            (rest.filter (!live.contains ·)).filter (!· == finalizer) := by
          rw [List.filter_filter]
          refine List.filter_congr fun other _ => ?_
          simp [Bool.and_comm, Bool.beq_eq_decide_eq]
        rw [if_neg held, inductionHypothesis, List.filter_cons_of_pos (by simpa using held),
          List.eraseDups_cons, same, List.append_assoc]
        rfl

end DeclarationPass

section Carrying

variable {c : Collection} [LawfulResource c.Object]

theorem carries_updated (live desired : c.Object) :
    Carries (Resource.metadata live) desired (updated live desired) := by
  have written : Resource.metadata (updated live desired) =
      DeclarationPass.carryOver (Resource.metadata live) (Resource.metadata desired) :=
    Resource.metadata_withMetadata _ _
  constructor
  · rw [updated, Resource.withMetadata_withMetadata, Resource.withMetadata_metadata]
  · rw [written]
    rfl
  · intro key
    rw [written]
    exact Dict.get?_overlay _ _ _
  · intro key
    rw [written]
    exact Dict.get?_overlay _ _ _
  · rw [written]
    exact DeclarationPass.mergedFinalizers_eq _ _

theorem Carries.stamped {before : Metadata} {desired object : c.Object}
    (carries : Carries before desired object) {name : String}
    (named : (Resource.metadata desired).name = some name) (s : Store c.Object)
    (time : Option Time) :
    Carries before desired (s.stamped name (Store.setDeletion object time)) := by
  have written : Resource.metadata (s.stamped name (Store.setDeletion object time)) =
      { Resource.metadata object with
        resourceVersion := some (toString (s.version + 1))
        name := some name
        deletionTimestamp := time } := by
    rw [Store.metadata_stamped, Store.metadata_setDeletion]
  have given : (Resource.metadata object).name = some name :=
    (congrArg Metadata.name carries.identity).trans named
  constructor
  · rw [Store.stamped, Store.setDeletion, Resource.withMetadata_withMetadata,
      Resource.withMetadata_withMetadata, carries.content]
  · refine Eq.trans ?_ carries.identity
    rw [written, ← given]
  · rw [written]
    exact carries.labels
  · rw [written]
    exact carries.annotations
  · rw [written]
    exact carries.finalizers

theorem Carries.written {before : Metadata} {desired object : c.Object}
    (carries : Carries before desired object) {name : String}
    (named : (Resource.metadata desired).name = some name) {time : Option Time}
    (held : Store.isReleased (Store.setDeletion object time) = false) (k : Cluster) (verb : Verb) :
    ∃ stored, (k.write c verb name (Store.setDeletion object time)).object? c name = some stored ∧
      Carries before desired stored := by
  refine ⟨_, ?_, carries.stamped named (k.store c) time⟩
  rw [Cluster.object?_write_self, Store.isReleased_stamped, held]
  rfl

end Carrying

def Request.Makes (c : Collection) (r : Request) : Prop :=
  ∃ object, r = .create c object ∨ ∃ name, r = .replace c name object

namespace Request

theorem Makes.collection {c : Collection} {r : Request} (makes : r.Makes c) : r.collection = c := by
  obtain ⟨object, rfl | ⟨name, rfl⟩⟩ := makes <;> rfl

theorem not_makes_of_verb {c : Collection} {r : Request} (notCreate : r.verb ≠ .create)
    (notReplace : r.verb ≠ .replace) : ¬ r.Makes c := by
  rintro ⟨object, rfl | ⟨name, rfl⟩⟩
  · exact notCreate rfl
  · exact notReplace rfl

instance (c : Collection) (r : Request) : Decidable (r.Makes c) :=
  match r with
  | .create d object => decidable_of_iff (d = c) (by
      constructor
      · rintro rfl
        exact ⟨object, Or.inl rfl⟩
      · exact Makes.collection)
  | .replace d name object => decidable_of_iff (d = c) (by
      constructor
      · rintro rfl
        exact ⟨object, Or.inr ⟨name, rfl⟩⟩
      · exact Makes.collection)
  | .get .. | .getIn .. | .list .. | .delete .. | .patch .. | .patchStatus .. =>
    isFalse (not_makes_of_verb nofun nofun)

end Request

namespace Program.Call

section Sight

variable (call : Call) (c : Collection) (name : String)

/-- The call found this under a name. -/
structure Saw (found : Option c.Object) : Prop where
  request : call.request = .get c name
  answered : call.fault? = none
  found : call.before.object? c name = found

/-- What the object of a name is taken to be by one who has just looked at it, or had it deleted. -/
inductive Shows : Option c.Object → Prop where
  | looked {found : Option c.Object} (saw : call.Saw c name found) : Shows found
  | deleted (request : call.request = .delete c name) (answered : call.fault? = none) : Shows none

def Leaves : Prop := call.after.object? c name = call.before.object? c name

end Sight

theorem Saw.not_makes {call : Call} {c d : Collection} {name : String} {found : Option c.Object}
    (saw : call.Saw c name found) : ¬ call.request.Makes d := by
  rw [saw.request]
  exact Request.not_makes_of_verb nofun nofun

theorem Saw.after_eq {call : Call} {c : Collection} {name : String} {found : Option c.Object}
    (saw : call.Saw c name found) : call.after = call.before :=
  call.served.eq_of_reads (by rw [saw.request]; rfl)

theorem saw_get {c : Collection} {name : String} {l : Cluster} {found : Option c.Object}
    (answered : (⟨.get c name, l⟩ : Call).answer = .ok found) :
    (⟨.get c name, l⟩ : Call).Saw c name found where
  request := rfl
  answered := fault?_eq_none_iff.mpr ⟨found, answered⟩
  found := (Cluster.serve_get_eq_ok_iff.mp (Prod.ext answered rfl)).2.1.symm

theorem leaves_of_collection_ne {call : Call} {c : Collection}
    (elsewhere : call.request.collection ≠ c) (name : String) : call.Leaves c name :=
  call.served.object? fun here => absurd here.symm elsewhere

end Program.Call

/-- A call that makes or renews a derived object. The pass has just seen what is under the name, and
the call succeeds only if that is there still. What is stored then carries over what was seen. If
the call fails, the object stays as others have left it, and `failing` says what comes of that. -/
structure Careful (kind : DerivedKind) (desired : kind.collection.Object) (earlier : List Call)
    (write : Call) (later : List Call) (seen : Option kind.collection.Object) (failing : Prop) :
    Prop where
  shown : ∃ before last, earlier = before ++ [last] ∧
    last.Shows kind.collection (Resource.name desired) seen
  request : write.request = seen.elim (.create kind.collection desired) fun live =>
    .replace kind.collection (Resource.name desired) (updated live desired)
  current : write.before.object? kind.collection (Resource.name desired) = seen →
    write.before.refused kind.collection write.request.verb = none → write.fault? = none
  stored : write.fault? = none →
    write.before.object? kind.collection (Resource.name desired) = seen ∧
    ∃ object, write.after.object? kind.collection (Resource.name desired) = some object ∧
      Carries (seen.elim {} Resource.metadata) desired object
  failed : write.fault? ≠ none → failing ∧ write.after = write.before ∧
    ∀ call ∈ later, call.Leaves kind.collection (Resource.name desired)

namespace Careful

variable {kind : DerivedKind} {desired : kind.collection.Object} {earlier later : List Call}
  {write : Call} {seen : Option kind.collection.Object} {failing failing' : Prop}

theorem mono (careful : Careful kind desired earlier write later seen failing)
    (implied : failing → failing') : Careful kind desired earlier write later seen failing' :=
  { careful with
    failed := fun failed =>
      ⟨implied (careful.failed failed).1, (careful.failed failed).2⟩ }

theorem prepend (careful : Careful kind desired earlier write later seen failing)
    (calls : List Call) : Careful kind desired (calls ++ earlier) write later seen failing :=
  { careful with
    shown := by
      obtain ⟨before, last, rfl, shows⟩ := careful.shown
      exact ⟨calls ++ before, last, (List.append_assoc ..).symm, shows⟩ }

theorem append (careful : Careful kind desired earlier write later seen failing)
    {calls : List Call} (leaves : failing → ∀ call ∈ calls,
      call.Leaves kind.collection (Resource.name desired)) :
    Careful kind desired earlier write (later ++ calls) seen failing :=
  { careful with
    failed := fun failed => by
      obtain ⟨fails, same, left⟩ := careful.failed failed
      exact ⟨fails, same, List.forall_mem_append.mpr ⟨left, leaves fails⟩⟩ }

theorem of_last {before : List Call} {last : Call}
    (shows : last.Shows kind.collection (Resource.name desired) seen)
    (request : write.request = seen.elim (.create kind.collection desired) fun live =>
      .replace kind.collection (Resource.name desired) (updated live desired))
    (current : write.before.object? kind.collection (Resource.name desired) = seen →
      write.before.refused kind.collection write.request.verb = none → write.fault? = none)
    (stored : write.fault? = none →
      write.before.object? kind.collection (Resource.name desired) = seen ∧
      ∃ object, write.after.object? kind.collection (Resource.name desired) = some object ∧
        Carries (seen.elim {} Resource.metadata) desired object) :
    Careful kind desired (before ++ [last]) write [] seen (write.fault? ≠ none) where
  shown := ⟨before, last, rfl, shows⟩
  request := request
  current := current
  stored := stored
  failed failed := ⟨failed, write.after_of_fault failed, fun _ none => nomatch none⟩

section Writes

variable {op : Operator} {d : Declaration} {last : Call} {k l : Cluster}

theorem carries_wanted (kind : DerivedKind) (op : Operator) (d : Declaration) :
    Carries {} (kind.wanted op d) (kind.wanted op d) where
  content := Resource.withMetadata_metadata _
  identity := rfl
  labels key := (Option.or_none ..).symm
  annotations key := (Option.or_none ..).symm
  finalizers := by
    rw [DerivedKind.finalizerList_wanted]
    rfl

theorem named_wanted (kind : DerivedKind) (op : Operator) (d : Declaration) :
    (Resource.metadata (kind.wanted op d)).name = some (Resource.name (kind.wanted op d)) := by
  rw [DerivedKind.metadata_name_wanted, DerivedKind.name_wanted]

theorem create (shows : last.Shows kind.collection (Resource.name (kind.wanted op d)) none)
    (before : List Call) (l : Cluster) :
    let write : Call := ⟨.create kind.collection (kind.wanted op d), l⟩
    Careful kind (kind.wanted op d) (before ++ [last]) write [] none (write.fault? ≠ none) := by
  intro write
  rcases Call.create_cases l (kind.wanted op d) with ⟨fails, why⟩ | ⟨succeeds, absent, made⟩
  · refine of_last shows rfl (fun absent serves => ?_) fun succeeds => absurd succeeds fails
    exact absurd absent (why.resolve_left (absurd serves))
  · refine of_last shows rfl (fun _ _ => succeeds) fun _ => ⟨absent, ?_⟩
    rw [made, DerivedKind.settled_wanted]
    exact (carries_wanted kind op d).written (named_wanted kind op d) (Store.isReleased_made _) _ _

theorem replace {live : kind.collection.Object}
    (saw : last.Saw kind.collection (Resource.name (kind.wanted op d)) (some live))
    (before : List Call) (reachable : last.before.Reachable) (leads : last.after.LeadsTo l) :
    let write : Call := ⟨.replace kind.collection (Resource.name (kind.wanted op d))
      (updated live (kind.wanted op d)), l⟩
    Careful kind (kind.wanted op d) (before ++ [last]) write [] (some live)
      (write.fault? ≠ none) := by
  intro write
  rw [saw.after_eq] at leads
  have version : (Resource.metadata (updated live (kind.wanted op d))).resourceVersion =
      (Resource.metadata live).resourceVersion := by
    rw [updated, Resource.metadata_withMetadata]
    rfl
  rcases Call.replace_cases l (Resource.name (kind.wanted op d))
    (updated live (kind.wanted op d)) with ⟨fails, why⟩ | ⟨succeeds, old, found, renewed⟩
  · refine of_last (.looked saw) rfl (fun current serves => ?_) fun succeeds =>
      absurd succeeds fails
    exact absurd version (why.resolve_left (absurd serves) live current)
  · have current := Call.current_of_replaced reachable leads saw.found version succeeds
    obtain rfl := Option.some.inj (current.symm.trans found)
    refine of_last (.looked saw) rfl (fun _ _ => succeeds) fun _ => ⟨current, ?_⟩
    rw [renewed, DerivedKind.settled_updated]
    exact (carries_updated live (kind.wanted op d)).written (named_wanted kind op d)
      (DerivedKind.isReleased_renewed op d live) _ _

end Writes

end Careful

/-- Whatever of a kind is made or renewed among the calls is made or renewed with care. -/
def CarefulWrites (kind : DerivedKind) (desired : kind.collection.Object) (calls : List Call)
    (failing : Prop) : Prop :=
  ∀ earlier write later, calls = earlier ++ write :: later → write.request.Makes kind.collection →
    ∃ seen, Careful kind desired earlier write later seen failing

def Idle (c : Collection) (calls : List Call) : Prop := ∀ call ∈ calls, ¬ call.request.Makes c

theorem Idle.append {c : Collection} {calls rest : List Call} (first : Idle c calls)
    (second : Idle c rest) : Idle c (calls ++ rest) := List.forall_mem_append.mpr ⟨first, second⟩

namespace CarefulWrites

variable {kind : DerivedKind} {desired : kind.collection.Object} {calls rest : List Call}
  {failing failing' : Prop}

theorem of_idle (idle : Idle kind.collection calls) : CarefulWrites kind desired calls failing := by
  rintro earlier write later rfl makes
  exact absurd makes (idle write (List.mem_append_right _ (List.mem_cons_self ..)))

theorem append (first : CarefulWrites kind desired calls failing)
    (second : CarefulWrites kind desired rest failing') (implied : failing → failing')
    (leaves : failing → ∀ call ∈ rest, call.Leaves kind.collection (Resource.name desired)) :
    CarefulWrites kind desired (calls ++ rest) failing' := by
  intro earlier write later split makes
  -- The call is one of the second part, or of the first with the second among what comes later.
  rcases List.append_eq_append_iff.mp split with ⟨between, rfl, same⟩ | ⟨between, rfl, same⟩
  · obtain ⟨seen, careful⟩ := second between write later same makes
    exact ⟨seen, careful.prepend calls⟩
  · cases between with
    | nil =>
        obtain ⟨seen, careful⟩ := second [] write later same.symm makes
        exact ⟨seen, List.append_nil earlier ▸ careful.prepend earlier⟩
    | cons call between =>
        obtain ⟨rfl, rfl⟩ := List.cons.inj same
        obtain ⟨seen, careful⟩ := first earlier write between rfl makes
        exact ⟨seen, (careful.append leaves).mono implied⟩

theorem of_last {earlier : List Call} {write : Call} {seen : Option kind.collection.Object}
    (idle : Idle kind.collection earlier)
    (careful : Careful kind desired earlier write [] seen failing) :
    CarefulWrites kind desired (earlier ++ [write]) failing := by
  intro before call later split makes
  rcases List.append_eq_append_iff.mp split with ⟨between, rfl, same⟩ | ⟨between, rfl, same⟩
  · cases between with
    | nil =>
        obtain ⟨rfl, rfl⟩ := List.cons.inj same
        exact ⟨seen, (List.append_nil earlier).symm ▸ careful⟩
    | cons _ between =>
        exact absurd (List.cons.inj same).2.symm (List.append_ne_nil_of_right_ne_nil _ nofun)
  · cases between with
    | nil =>
        obtain ⟨rfl, rfl⟩ := List.cons.inj same
        exact ⟨seen, List.append_nil before ▸ careful⟩
    | cons _ between =>
        obtain ⟨rfl, rfl⟩ := List.cons.inj same
        exact absurd makes (idle call (List.mem_append_right _ (List.mem_cons_self ..)))

end CarefulWrites

end NfsStorage

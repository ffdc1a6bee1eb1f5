import NfsStorage.Proofs.Codec.Patching
import NfsStorage.Proofs.Store.Coherent

/-!
# Patches touch what they name

The controllers patch finalizers, the mark of a mismatch and the status. In a store whose objects were
read from JSON, such a patch succeeds unless it is refused, and changes of all that is stored only
what it names, the version of the object, and digits of times that are not written. As every write
does, it removes an object that waits for its deletion with nothing left to hold it.
-/

namespace NfsStorage

open Json

namespace Store

variable {c : Collection} {s : Store c.Object} {name : String} {object : c.Object}

/-- A write under a name comes to an object in the place of what is there: unless the server refuses
it, it succeeds and is answered with the object in its next version, but for fractions of times; the
answer is what the store has from then on, if anything holds it; and no other name is touched. -/
structure Yields (s : Store c.Object) (verb : Verb) (name : String)
    (outcome : Except StoreError (c.Object × Store c.Object)) (next : c.Object) : Prop where
  succeeds : s.refused verb = none → ∃ answer s', outcome = .ok (answer, s')
  answered : ∀ {answer s'}, outcome = .ok (answer, s') →
    c.toSeconds answer = c.toSeconds (withVersion next (s.version + 1))
  stored : ∀ {answer s'}, outcome = .ok (answer, s') →
    s'.get? name = if isReleased next then none else some answer
  others : ∀ {answer s'}, outcome = .ok (answer, s') → ∀ other, other ≠ name →
    s'.get? other = s.get? other

theorem isReleased_of_toSeconds_eq {given other : c.Object}
    (same : c.toSeconds given = c.toSeconds other) : isReleased given = isReleased other := by
  have whole (object : c.Object) : isReleased (c.toSeconds object) = isReleased object := by
    rw [isReleased, isReleased, Collection.metadata_toSeconds, Metadata.isDeleting_toSeconds]
    rfl
  rw [← whole given, same, whole other]

theorem isReleased_withVersion (object : c.Object) (version : Nat) :
    isReleased (withVersion object version) = isReleased object := by
  rw [isReleased, withVersion, Collection.metadata_withMetadata]
  rfl

/-- An object that is stamped differs from one that is given a version in nothing that they did not
differ in before. -/
theorem toSeconds_stamped {new next : c.Object} (same : c.toSeconds new = c.toSeconds next)
    (named : (Resource.metadata next).name = some name) :
    c.toSeconds (s.stamped name new) = c.toSeconds (withVersion next (s.version + 1)) := by
  have metadata : (Resource.metadata new).toSeconds = (Resource.metadata next).toSeconds := by
    rw [← Collection.metadata_toSeconds, same, Collection.metadata_toSeconds]
  have stamp : ({ Resource.metadata new with
      resourceVersion := some (toString (s.version + 1))
      name := some name } : Metadata).toSeconds =
      ({ Resource.metadata next with
        resourceVersion := some (toString (s.version + 1)) } : Metadata).toSeconds := by
    rw [← named]
    exact congrArg (fun m : Metadata => { m with
      resourceVersion := some (toString (s.version + 1))
      name := (Resource.metadata next).name }) metadata
  rw [stamped, withVersion, Collection.toSeconds_withMetadata, Collection.toSeconds_withMetadata,
    same, stamp]

theorem yields_of_leadsTo {verb : Verb} {change : Json} {next : c.Object}
    (present : s.get? name = some object) (leads : c.LeadsTo object change next)
    (named : (Resource.metadata next).name = some name) :
    s.Yields verb name (s.settle verb name (patching name change (s.get? name))) next := by
  obtain ⟨new, read, same⟩ := leads
  have patched : patching name change (s.get? name) = .ok new := by
    rw [present, patching, read]
  have agrees := s.toSeconds_stamped same named
  rw [patched]
  rcases s.check_cases verb name with accepted | ⟨refused, e, refusal⟩
  · have wrote : s.settle verb name (.ok new) =
        .ok (s.stamped name new, (s.put verb name new).2) := by
      rw [settle, accepted]
      rfl
    rw [wrote]
    refine ⟨fun _ => ⟨_, _, rfl⟩, fun made => ?_, fun made => ?_, fun made other different => ?_⟩ <;>
      obtain ⟨rfl, rfl⟩ := Prod.mk.inj (Except.ok.inj made)
    · exact agrees
    · rw [get?_put_self, isReleased_of_toSeconds_eq agrees, isReleased_withVersion]
    · exact s.get?_put_of_ne verb new different
  · rw [settle, refusal]
    refine ⟨fun accepting => absurd accepting refused, ?_, ?_, ?_⟩ <;>
      intro answer s' made <;> cases made

theorem yields_patch {change : Json} {next : c.Object} (present : s.get? name = some object)
    (leads : c.LeadsTo object change next) (named : (Resource.metadata next).name = some name) :
    s.Yields .patch name (s.patch name change) next := by
  rw [patch, patched_eq]
  exact yields_of_leadsTo present leads named

theorem yields_patchStatus {status : Json} {next : c.Object} (present : s.get? name = some object)
    (leads : c.LeadsTo object (.object [("status", status)]) next)
    (named : (Resource.metadata next).name = some name) :
    s.Yields .patchStatus name (s.patchStatus name (.object [("status", status)])) next := by
  rw [patchStatus, patched_eq]
  exact yields_of_leadsTo present leads named

theorem isReleased_withFinalizers (object : c.Object) (finalizers : List String) :
    isReleased (Collection.withFinalizers object finalizers) = true ↔
      Resource.isDeleting object = true ∧ finalizers = [] := by
  rw [isReleased, Collection.withFinalizers, Collection.metadata_withMetadata, Bool.and_eq_true]
  cases finalizers <;> simp [Metadata.finalizerList, Resource.isDeleting, Metadata.isDeleting]

/-- Of an object of any kind that was read from JSON and is stored under its name, a patch of the
finalizers changes the finalizers, and removes the object just if it is being deleted and is left
with none; a patch of the mark changes that label; a patch of a status with both its parts stores
that status. All else that is stored stays as it is. -/
theorem patches_touch_what_they_name (present : s.get? name = some object)
    (decoded : c.Decoded object) (named : (Resource.metadata object).name = some name) :
    (∀ finalizers, s.Yields .patch name (s.patch name (finalizersPatch finalizers))
      (Collection.withFinalizers object finalizers)) ∧
    (∀ finalizers answer s', s.patch name (finalizersPatch finalizers) = .ok (answer, s') →
      (s'.get? name = none ↔ Resource.isDeleting object = true ∧ finalizers = [])) ∧
    (∀ mismatch, s.Yields .patch name (s.patch name (ModuleConfigPass.mismatchPatch mismatch))
      (Collection.withMark object mismatch)) ∧
    ∀ status next, Collection.WithStatus c object status next →
      s.Yields .patchStatus name (s.patchStatus name (.object [("status", status)])) next := by
  have held (finalizers : List String) :
      s.Yields .patch name (s.patch name (finalizersPatch finalizers))
        (Collection.withFinalizers object finalizers) := by
    refine yields_patch present (decoded.leadsTo_withFinalizers finalizers) ?_
    rw [Collection.withFinalizers, Collection.metadata_withMetadata, named]
  refine ⟨held, fun finalizers answer s' made => ?_, fun mismatch => ?_, fun status next given => ?_⟩
  · rw [(held finalizers).stored made, ← isReleased_withFinalizers]
    split <;> simp [*]
  · refine yields_patch present (decoded.leadsTo_withMark mismatch) ?_
    rw [Collection.withMark, Collection.metadata_withMetadata, Metadata.withLabel, named]
  · refine yields_patchStatus present (given.leadsTo decoded) ?_
    rw [given.metadata_eq, named]

section Runs

/-- The objects that come with an operation were read from JSON, and a deletion comes at a time that
a clock shows. -/
def Operation.Decoded : Operation c.Object → Prop
  | .create object | .replace _ object => c.Decoded object
  | .delete now _ => now.Valid
  | _ => True

theorem decoded_setDeletion {time : Option Time} (decoded : c.Decoded object)
    (valid : ∀ t, time = some t → t.Valid) : c.Decoded (setDeletion object time) :=
  decoded.withMetadata valid

theorem decoded_stamped (decoded : c.Decoded object) : c.Decoded (s.stamped name object) :=
  decoded.withMetadata decoded.timed

/-- What is written in the place of an object that was read could have been read, too. -/
theorem Operation.Writes.decoded {operation : Operation c.Object} {verb : Verb}
    {found : Option c.Object} (writes : operation.Writes verb name found object)
    (given : operation.Decoded) (before : ∀ old, found = some old → c.Decoded old) :
    c.Decoded object := by
  cases writes with
  | create object => exact decoded_setDeletion (Collection.Decoded.settled given) nofun
  | replace _ object old =>
      exact decoded_setDeletion (Collection.Decoded.settled given) (before old rfl).timed
  | delete now _ old =>
      have decoded := before old rfl
      refine decoded_setDeletion decoded fun t dated => ?_
      cases asked : (Resource.metadata old).deletionTimestamp with
      | none =>
          rw [asked] at dated
          exact Option.some.inj dated ▸ given
      | some time =>
          rw [asked] at dated
          exact Option.some.inj dated ▸ decoded.timed time asked
  | patch _ _ old _ read | patchStatus _ _ old _ read => exact Collection.decoded_of_decode read

/-- Every object of the store was read from JSON, whatever metadata it was given since. -/
def Decoded (s : Store c.Object) : Prop :=
  ∀ name object, s.get? name = some object → c.Decoded object

theorem Performed.decoded {operation : Operation c.Object}
    {answer : Except StoreError (List c.Object)} {s' : Store c.Object}
    (performed : s.Performed operation answer s') (given : operation.Decoded)
    (decoded : s.Decoded) : s'.Decoded := by
  cases performed with
  | failed | looked | alreadyGone | governed => exact decoded
  | wrote verb name object shown writes =>
      intro target found present
      rcases eq_stamped_of_get?_put present with ⟨-, rfl, -⟩ | ⟨-, before⟩
      · exact decoded_stamped (writes.decoded given (decoded name))
      · exact decoded target found before

/-- A store that is filled with objects that were read, and is given such objects, holds such
objects. -/
theorem decoded_after {objects : List c.Object} (filled : ∀ object ∈ objects, c.Decoded object)
    {operations : List (Operation c.Object)}
    (given : ∀ operation ∈ operations, operation.Decoded) :
    ((ofList objects).after operations).Decoded := by
  refine after_induction
    (fun s operation membership => (s.performed operation).decoded (given operation membership)) ?_
  intro name object present
  obtain ⟨seed, membership, version, rfl, -⟩ := exists_mem_of_get?_ofList present
  have decoded := filled seed membership
  exact decoded.withMetadata decoded.timed

end Runs

def heldDeclaration : Declaration :=
  { metadata := { name := some "a", finalizers := some ["keep"] }
    spec :=
      { connection := { host := "h", share := "/s", nfsVersion := .v41 }
        reclaimPolicy := .delete
        volumeBindingMode := .immediate } }

/-- A declaration that others hold, too, is read and stored, its deletion is asked for, and then it is
patched. -/
theorem patches_touch_what_they_name_held :
    let s := (ofList [heldDeclaration]).after [.delete ⟨⟨2024, 1, 1⟩, 0, 0, 0, 0⟩ "a"]
    (∃ answer s', s.patch "a" (finalizersPatch []) = .ok (answer, s') ∧ s'.get? "a" = none) ∧
    ∃ answer s', s.patchStatus "a" (.object [("status", encode DeclarationStatus.created)]) =
        .ok (answer, s') ∧
      s'.get? "a" = some answer ∧ answer.status = some DeclarationStatus.created := by
  intro s
  have filled : ∀ object ∈ [heldDeclaration], Collection.declarations.Decoded object := by
    intro object membership
    obtain rfl := List.mem_singleton.mp membership
    exact Collection.decoded_of_decode (j := encode heldDeclaration) (by decide +kernel)
  have given : ∀ operation ∈ [Operation.delete ⟨⟨2024, 1, 1⟩, 0, 0, 0, 0⟩ "a"],
      Operation.Decoded (c := .declarations) operation := by
    intro operation membership
    obtain rfl := List.mem_singleton.mp membership
    exact (by decide : Time.Valid ⟨⟨2024, 1, 1⟩, 0, 0, 0, 0⟩)
  have decoded : Decoded (c := .declarations) s := decoded_after filled given
  obtain ⟨d, present⟩ : ∃ d, s.get? "a" = some d :=
    Option.isSome_iff_exists.mp (by decide +kernel)
  have known : (s.get? "a").all (fun d =>
      d.metadata.name = some "a" ∧ d.isDeleting = true ∧ isReleased d = false) = true := by
    decide +kernel
  rw [present] at known
  obtain ⟨named, deleting, held⟩ := of_decide_eq_true known
  obtain ⟨patched, removes, -, statuses⟩ :=
    patches_touch_what_they_name (c := .declarations) present (decoded "a" d present) named
  obtain ⟨answer, s', made⟩ := (patched []).succeeds rfl
  have status := statuses _ _ (.declaration d .created "")
  obtain ⟨told, s'', said⟩ := status.succeeds rfl
  refine ⟨⟨answer, s', made, (removes [] answer s' made).mpr ⟨deleting, rfl⟩⟩, told, s'', said, ?_,
    congrArg Declaration.status (status.answered said)⟩
  exact (status.stored said).trans (if_neg (Bool.eq_false_iff.mp held))

/-- A declaration that is stored waiting for its deletion with nothing to hold it goes with the next
write, so that a status that it is patched with is not stored. -/
theorem statusPatch_unstored : ¬ ∀ (s : Store Declaration) (name : String) (d : Declaration)
    (phase : Phase) (reason : String) (answer : Declaration) (s' : Store Declaration),
    s.get? name = some d → Collection.declarations.Decoded d → d.metadata.name = some name →
    s.patchStatus name (.object [("status",
      encode (⟨some phase, some reason⟩ : DeclarationStatus))]) = .ok (answer, s') →
    ∃ d', s'.get? name = some d' ∧ d'.status = some ⟨some phase, some reason⟩ := by
  intro stores
  let d : Declaration :=
    { heldDeclaration with metadata :=
      { name := some "a", deletionTimestamp := some ⟨⟨2024, 1, 1⟩, 0, 0, 0, 0⟩ } }
  let s : Store Declaration := ofList [d]
  have present : s.get? "a" = some (withVersion d 1) := rfl
  have decoded : Collection.declarations.Decoded (withVersion d 1) :=
    Collection.decoded_of_decode (j := encode (withVersion d 1)) (by decide +kernel)
  have given := Collection.WithStatus.declaration (withVersion d 1) .created ""
  have patched := yields_patchStatus (c := .declarations) present (given.leadsTo decoded) rfl
  obtain ⟨answer, s', made⟩ := patched.succeeds rfl
  obtain ⟨d', stored, -⟩ := stores s "a" _ .created "" answer s' present decoded rfl made
  have gone : s'.get? "a" = none := patched.stored made
  rw [gone] at stored
  exact nomatch stored

end Store

end NfsStorage

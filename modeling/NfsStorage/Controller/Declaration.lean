import NfsStorage.Controller.Basic
import NfsStorage.Convergence
import NfsStorage.Validation
import NfsStorage.Store.Program

/-!
The pass over one declaration. It holds the declaration by a finalizer before it makes anything,
brings the derived objects to their desired form one after the other, and says in the status what
came of it. A declaration whose deletion was asked for is let go once its derived objects are gone.
-/

namespace NfsStorage.DeclarationPass

/-- The kinds of derived objects, in the order in which they are brought to their form. -/
inductive DerivedKind where
  | storageClass | secret | snapshotClass
deriving DecidableEq, Repr

def DerivedKind.text : DerivedKind → String
  | storageClass => "StorageClass"
  | secret => "Secret"
  | snapshotClass => "VolumeSnapshotClass"

@[reducible]
def DerivedKind.collection : DerivedKind → Collection
  | storageClass => .storageClasses
  | secret => .secrets
  | snapshotClass => .snapshotClasses

inductive Error where
  | getDeclaration (name : String) (cause : StoreError)
  | updateFinalizers (name : String) (cause : StoreError)
  | getModuleConfig (cause : StoreError)
  | getDerived (kind : DerivedKind) (name : String) (cause : StoreError)
  | applyDerived (action : Action) (kind : DerivedKind) (name : String) (cause : StoreError)
  | updateStatus (name : String) (cause : StoreError)
  /-- The pass failed, and so did writing that into the status. -/
  | reconcileAndStatus (reconcile status : Error)
deriving DecidableEq, Repr

namespace Error

def category : Error → String
  | getDeclaration .. => "GetDeclaration"
  | updateFinalizers .. => "UpdateFinalizers"
  | getModuleConfig .. => "GetModuleConfig"
  | getDerived .. => "GetDerived"
  | applyDerived .. => "ApplyDerived"
  | updateStatus .. => "UpdateStatus"
  | reconcileAndStatus .. => "ReconcileAndStatus"

def ownText : Error → String
  | getDeclaration name _ => "failed to get NFSStorageClass " ++ name
  | updateFinalizers name _ => "failed to update finalizers of NFSStorageClass " ++ name
  | getModuleConfig _ => "failed to get the module configuration"
  | getDerived kind name _ => "failed to get " ++ kind.text ++ " " ++ name
  | applyDerived action kind name _ =>
    "failed to apply " ++ action.text ++ " to " ++ kind.text ++ " " ++ name
  | updateStatus name _ => "failed to update status of NFSStorageClass " ++ name
  | reconcileAndStatus reconcile status =>
    reconcile.ownText ++ "; the status update failed as well: " ++ status.ownText

def cause? : Error → Option StoreError
  | getDeclaration _ cause | updateFinalizers _ cause | getModuleConfig cause
  | getDerived _ _ cause | applyDerived _ _ _ cause | updateStatus _ cause => some cause
  | reconcileAndStatus .. => none

instance : Fault Error where
  texts e := e.ownText :: (e.cause?.map Fault.texts).getD []

end Error

inductive Outcome where
  | created
  | invalid (reason : String)
  /-- Some names are taken by objects of other owners. -/
  | foreign (reasons : List String)
  | released
deriving DecidableEq, Repr

namespace Outcome

def status? : Outcome → Option DeclarationStatus
  | created => some .created
  | invalid reason => some (.failed reason)
  | foreign reasons => some (.failed ("; ".intercalate reasons))
  | released => none

/-- Only foreign objects are looked at again without a change. -/
def next (op : Operator) : Outcome → Next
  | foreign _ => .requeue op.requeueInterval
  | created | invalid _ | released => .awaitChange

end Outcome

/-- The labels or annotations of an object in place, with the desired ones over them. -/
def overlaid (live desired : Option Labels) : Labels := (live.getD ∅).overlay (desired.getD ∅)

/-- The finalizers in place, then those desired that were missing. -/
def mergedFinalizers (live desired : List String) : List String :=
  desired.foldl (fun all f => if all.contains f then all else all ++ [f]) live

/-- The desired metadata, with what others added to the live object and with its version. -/
def carryOver (live desired : Metadata) : Metadata :=
  { desired with
    resourceVersion := live.resourceVersion
    labels := some (overlaid live.labels desired.labels)
    annotations := some (overlaid live.annotations desired.annotations)
    finalizers := some (mergedFinalizers live.finalizerList desired.finalizerList) }

section Derived

variable {c : Collection}

def stripFinalizers (name : String) (live : Option c.Object) (failure : StoreError → Error) :
    Pass Error Unit :=
  match live with
  | none => pure ()
  | some object =>
    if (Resource.metadata object).finalizerList.isEmpty then pure ()
    else do
      let _ ← Pass.request (.patch c name (finalizersPatch [])) failure

/-- Carry out an action on one derived object. The answer is the reason for leaving it alone, if it
belongs to somebody else. -/
def apply (kind : DerivedKind) (live : Option c.Object) (desired : c.Object) (action : Action) :
    Pass Error (Option String) :=
  let name := Resource.name desired
  let failure := Error.applyDerived action kind name
  match action with
  | .keep => pure none
  | .skipForeign owner =>
    pure (some ("foreign-object: " ++ kind.text ++ " " ++ name ++ " is owned by " ++ owner))
  | .create => do
    let _ ← Pass.request (.create c desired) failure
    return none
  | .updateInPlace =>
    match live with
    | some object => do
      let updated := Resource.withMetadata desired
        (carryOver (Resource.metadata object) (Resource.metadata desired))
      let _ ← Pass.request (.replace c name updated) failure
      return none
    | none => do
      let _ ← Pass.request (.create c desired) failure
      return none
  | .recreate => do
    stripFinalizers name live failure
    Pass.request (.delete c name) failure
    let _ ← Pass.request (.create c desired) failure
    return none
  | .delete => do
    stripFinalizers name live failure
    Pass.request (.delete c name) failure
    return none

end Derived

def syncStorageClass (desired : StorageClass) (deleting : Bool) : Pass Error (Option String) := do
  let live ←
    Pass.request (.get .storageClasses desired.name) (.getDerived .storageClass desired.name)
  apply (c := .storageClasses) .storageClass live desired
    (StorageClass.action live desired deleting)

/-- A foreign secret with another payload is left alone like any foreign object. -/
def syncSecret (desired : Secret) (deleting : Bool) : Pass Error (Option String) := do
  let live ← Pass.request (.get .secrets desired.name) (.getDerived .secret desired.name)
  match Secret.action live desired deleting with
  | .ok action => apply (c := .secrets) .secret live desired action
  | .error foreign => return some (Fault.own foreign)

def syncSnapshotClass (desired : SnapshotClass) (deleting : Bool) : Pass Error (Option String) := do
  let live ← Pass.request (.get .snapshotClasses desired.name)
    (.getDerived .snapshotClass desired.name)
  apply (c := .snapshotClasses) .snapshotClass live desired
    (SnapshotClass.action live desired deleting)

/-- Bring the derived objects to their form, or delete them; the answer lists the reasons for the
objects that were left alone. -/
def syncDerived (op : Operator) (d : Declaration) (deleting : Bool) : Pass Error (List String) := do
  let desired := d.derive op.tls op.namespace
  let fromClass ← syncStorageClass desired.storageClass deleting
  let fromSecret ← syncSecret desired.secret deleting
  let fromSnapshotClass ← syncSnapshotClass desired.snapshotClass deleting
  return fromClass.toList ++ fromSecret.toList ++ fromSnapshotClass.toList

def patchFinalizers (name : String) (finalizers : List String) : Pass Error Unit := do
  let _ ← Pass.request (.patch .declarations name (finalizersPatch finalizers))
    (.updateFinalizers name)

def converge (op : Operator) (d : Declaration) : Pass Error Outcome := do
  let held := d.metadata.finalizerList
  if !held.contains Names.finalizer then
    patchFinalizers d.name (held ++ [Names.finalizer])
  let found ← Pass.request (.get .moduleConfigs ModuleConfig.singleton) .getModuleConfig
  let config := found.getD .unset
  match config.validate op.tls d with
  | .error violation =>
    return .invalid (violation.code ++ ": " ++ config.violationText d violation)
  | .ok () =>
    let foreign ← syncDerived op d false
    return if foreign.isEmpty then .created else .foreign foreign

/-- Foreign objects never keep a declaration from going. -/
def release (op : Operator) (d : Declaration) : Pass Error Outcome := do
  let _ ← syncDerived op d true
  let held := d.metadata.finalizerList
  if held.contains Names.finalizer then
    patchFinalizers d.name (held.filter (· ≠ Names.finalizer))
  return .released

def updateStatus (d : Declaration) (status : DeclarationStatus) : Pass Error Unit :=
  if d.status = some status then pure ()
  else do
    let _ ← Pass.request (.patchStatus .declarations d.name (.object [("status", encode status)]))
      (.updateStatus d.name)

def statusAfter : Except Error Outcome → Option DeclarationStatus
  | .ok outcome => outcome.status?
  | .error e => some (.failed (Fault.chain e))

def joinResults (op : Operator) : Except Error Outcome → Except Error Unit → Except Error Next
  | .ok outcome, .ok () => .ok (outcome.next op)
  | .ok _, .error status => .error status
  | .error e, .ok () => .error e
  | .error e, .error status => .error (.reconcileAndStatus e status)

def reconcileFound (op : Operator) (d : Declaration) : Program (Except Error Next) := do
  let result ← (if d.isDeleting then release op d else converge op d).run
  let written ← match statusAfter result with
    | some status => (updateStatus d status).run
    | none => pure (.ok ())
  return joinResults op result written

def reconcile (op : Operator) (name : String) : Pass Error Next := do
  match ← Pass.request (.get .declarations name) (.getDeclaration name) with
  | none => return .awaitChange
  | some d => ExceptT.mk (reconcileFound op d)

end NfsStorage.DeclarationPass

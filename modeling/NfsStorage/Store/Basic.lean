import NfsStorage.Store.Error
import NfsStorage.Resource.Metadata
import NfsStorage.Json.MergePatch

/-!
A store of objects of one kind, with the rules of an API server. Every write gives the object a
version never used before in the store; a replacement names the version it was made from; an object
whose deletion was asked for goes once its last finalizer is removed. A call that fails has no
effect: it returns no store.
-/

namespace NfsStorage

/-- The objects by name, the writes so far, the verbs that are refused with their codes, and the
last version given out. -/
structure Store (K : Type) where
  objects : Dict K := ∅
  journal : List String := []
  refused : Verb → Option Nat := fun _ => none
  version : Nat := 0

namespace Store

variable {K : Type} [Resource K]

instance : Inhabited (Store K) := ⟨{}⟩

def withVersion (object : K) (version : Nat) : K :=
  Resource.withMetadata object
    { Resource.metadata object with resourceVersion := some (toString version) }

/-- A store filled with objects; of several with one name the last stays. -/
def ofList (objects : List K) : Store K :=
  objects.foldl (fun s object =>
    let version := s.version + 1
    { s with
      version
      objects := s.objects.insert (Resource.name object) (withVersion object version) }) {}

def get? (s : Store K) (name : String) : Option K := s.objects.get? name

def names (s : Store K) : List String := s.objects.keys

def refuse (s : Store K) (verb : Verb) (code : Nat) : Store K :=
  { s with refused := fun v => if v = verb then some code else s.refused v }

def heal (s : Store K) : Store K := { s with refused := fun _ => none }

def check (s : Store K) (verb : Verb) (name : String) : Except StoreError Unit :=
  match s.refused verb with
  | some code => .error (.api (verb.refusal code name))
  | none => .ok ()

def isReleased (object : K) : Bool :=
  let m := Resource.metadata object
  m.isDeleting && m.finalizerList.isEmpty

/-- Write an object under a name: it gets the name and the next version, and goes if its deletion
was asked for and nothing holds it. -/
def put (s : Store K) (verb : Verb) (name : String) (object : K) : K × Store K :=
  let version := s.version + 1
  let written := Resource.withMetadata object
    { Resource.metadata object with
      resourceVersion := some (toString version)
      name := some name }
  (written,
    { s with
      version
      journal := s.journal ++ [verb.text ++ " " ++ name]
      objects := if isReleased written then s.objects.erase name
        else s.objects.insert name written })

def existing (s : Store K) (name : String) : Except StoreError K :=
  match s.get? name with
  | some object => .ok object
  | none => .error (.api (.notFound name))

def setDeletion (object : K) (time : Option Time) : K :=
  Resource.withMetadata object { Resource.metadata object with deletionTimestamp := time }

def get (s : Store K) (name : String) : Except StoreError (Option K) := do
  s.check .get name
  return s.get? name

def list (s : Store K) : Except StoreError (List K) := do
  s.check .list ""
  return s.objects.values

def create (s : Store K) (object : K) : Except StoreError (K × Store K) := do
  let name := Resource.name object
  s.check .create name
  if (s.get? name).isSome then throw (.api (.alreadyExists name))
  return s.put .create name (setDeletion (Resource.settled object) none)

/-- The object must carry the version of the one it replaces, or none. -/
def replace (s : Store K) (name : String) (object : K) : Except StoreError (K × Store K) := do
  s.check .replace name
  let old ← s.existing name
  let expected := (Resource.metadata object).resourceVersion
  if expected.isSome ∧ expected ≠ (Resource.metadata old).resourceVersion then
    throw (.api (.modified name))
  return s.put .replace name
    (setDeletion (Resource.settled object) (Resource.metadata old).deletionTimestamp)

/-- Ask for the deletion of an object; one that is gone counts as deleted. -/
def delete (s : Store K) (now : Time) (name : String) : Except StoreError (Store K) := do
  s.check .delete name
  match s.get? name with
  | none => return s
  | some object =>
    let time := (Resource.metadata object).deletionTimestamp.getD now
    return (s.put .delete name (setDeletion object (some time))).2

def patched (s : Store K) (name : String) (patch : Json) : Except StoreError K := do
  let old ← s.existing name
  match decode (Json.merge (encode old) patch) with
  | some object => return object
  | none => throw .undecodable

def patch (s : Store K) (name : String) (change : Json) : Except StoreError (K × Store K) := do
  s.check .patch name
  let object ← s.patched name change
  return s.put .patch name object

/-- Only the status of a patch counts; a patch without one removes the status. -/
def patchStatus (s : Store K) (name : String) (change : Json) :
    Except StoreError (K × Store K) := do
  s.check .patchStatus name
  let object ← s.patched name (.object [("status", change.field "status")])
  return s.put .patchStatus name object

end Store

/-- The patch that gives an object a list of finalizers; with none left the field goes. -/
def finalizersPatch (finalizers : List String) : Json :=
  .object [("metadata", .object [("finalizers",
    if finalizers.isEmpty then .null else encode finalizers)])]

end NfsStorage

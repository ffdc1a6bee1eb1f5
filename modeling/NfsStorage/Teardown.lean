import NfsStorage.Resource.Names
import NfsStorage.Store.Program

/-!
Letting go of everything the module holds, so that nothing stays behind its finalizers when the
module is removed. Failures are collected, and the rest goes on.
-/

namespace NfsStorage.Teardown

inductive Error where
  | list (kind : String) (cause : StoreError)
  | clearFinalizers (kind name : String) (cause : StoreError)
  | delete (kind name : String) (cause : StoreError)
deriving DecidableEq, Repr

instance : Fault Error where
  texts
    | .list kind cause => ("failed to list " ++ kind ++ " objects") :: Fault.texts cause
    | .clearFinalizers kind name cause =>
      ("failed to clear finalizers of " ++ kind ++ " " ++ name) :: Fault.texts cause
    | .delete kind name cause => ("failed to delete " ++ kind ++ " " ++ name) :: Fault.texts cause

/-- What a step does with the objects of a collection: which ones it takes, and whether it deletes
them once their finalizers are gone. -/
structure Step where
  collection : Collection
  kind : String
  takes : collection.Object → Bool
  deletes : Bool

/-- Secrets and configuration maps go with their namespace. Classes of the NFS driver are deleted,
and those of other drivers are not touched. -/
def steps : List Step :=
  [ ⟨.secrets, "Secret", fun _ => true, false⟩,
    ⟨.configMaps, "ConfigMap", fun _ => true, false⟩,
    ⟨.storageClasses, "StorageClass",
      fun (c : StorageClass) => c.provisioner = Names.nfsDriver, true⟩,
    ⟨.snapshotClasses, "VolumeSnapshotClass",
      fun (c : SnapshotClass) => c.driver = Names.nfsDriver, true⟩,
    ⟨.declarations, "NFSStorageClass", fun _ => true, false⟩ ]

namespace Step

/-- Let one object go. It is not deleted while its finalizers could not be cleared. -/
def dispose (s : Step) (object : s.collection.Object) : Pass Error Unit := do
  let name := Resource.name object
  if !(Resource.metadata object).finalizerList.isEmpty then
    let _ ← Pass.request (.patch s.collection name (finalizersPatch []))
      (.clearFinalizers s.kind name)
  if s.deletes then
    Pass.request (.delete s.collection name) (.delete s.kind name)

def disposeAll (s : Step) : List s.collection.Object → Program (List Error)
  | [] => pure []
  | object :: rest => do
    let result ← (s.dispose object).run
    let others ← s.disposeAll rest
    return match result with
      | .ok () => others
      | .error e => e :: others

def run (s : Step) : Program (List Error) := do
  match ← Program.call (.list s.collection) with
  | .ok objects => s.disposeAll (objects.filter s.takes)
  | .error e => return [.list s.kind e]

end Step

def runSteps : List Step → Program (List Error)
  | [] => pure []
  | s :: rest => do
    let errors ← s.run
    let others ← runSteps rest
    return errors ++ others

def run : Program (List Error) := runSteps steps

end NfsStorage.Teardown

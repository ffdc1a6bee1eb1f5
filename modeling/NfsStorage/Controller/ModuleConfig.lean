import NfsStorage.Controller.Basic
import NfsStorage.Validation
import NfsStorage.Store.Program

/-!
The pass over the module configuration. It marks the storage class of every declaration that the
configuration does not accept, and goes on past single failures, which it reports together.
-/

namespace NfsStorage.ModuleConfigPass

inductive Error where
  | getModuleConfig (cause : StoreError)
  | listDeclarations (cause : StoreError)
  | listStorageClasses (cause : StoreError)
  | missingStorageClass (name : String)
  | updateLabels (name : String) (cause : StoreError)
deriving DecidableEq, Repr

namespace Error

def category : Error → String
  | getModuleConfig _ => "GetModuleConfig"
  | listDeclarations _ => "ListDeclarations"
  | listStorageClasses _ => "ListStorageClasses"
  | missingStorageClass _ => "MissingStorageClass"
  | updateLabels .. => "UpdateLabels"

instance : Fault Error where
  texts
    | getModuleConfig cause => "failed to get the module configuration" :: Fault.texts cause
    | listDeclarations cause => "failed to list NFSStorageClasses" :: Fault.texts cause
    | listStorageClasses cause => "failed to list StorageClasses" :: Fault.texts cause
    | missingStorageClass name =>
      ["StorageClass " ++ name ++ " of NFSStorageClass " ++ name ++ " does not exist"]
    | updateLabels name cause =>
      ("failed to update the labels of StorageClass " ++ name) :: Fault.texts cause

end Error

inductive Failure where
  | one (error : Error)
  | several (errors : List Error)
deriving DecidableEq, Repr

namespace Failure

def category : Failure → String
  | one e => e.category
  | several _ => "Several"

instance : Fault Failure where
  texts
    | one e => Fault.texts e
    | several errors => ["; ".intercalate (errors.map Fault.chain)]

end Failure

def mismatchValue : String := "true"

def isMarked (c : StorageClass) : Bool := c.metadata.label? Names.mismatchLabel = some mismatchValue

def mismatchPatch (mismatch : Bool) : Json :=
  .object [("metadata", .object [("labels", .object [(Names.mismatchLabel,
    if mismatch then .string mismatchValue else .null)])])]

def setMark (c : StorageClass) (mismatch : Bool) : Pass Error Unit :=
  if isMarked c = mismatch then pure ()
  else do
    let _ ← Pass.request (.patch .storageClasses c.name (mismatchPatch mismatch))
      (.updateLabels c.name)

def isAdmitted (op : Operator) (config : ModuleConfig) (d : Declaration) : Bool :=
  match config.validate op.tls d with
  | .ok () => true
  | .error _ => false

/-- Check one declaration against the configuration. Foreign storage classes are left alone. -/
def checkDeclaration (op : Operator) (config : ModuleConfig) (classes : Dict StorageClass)
    (d : Declaration) : Pass Error Unit :=
  match classes.get? d.name with
  | none => throw (.missingStorageClass d.name)
  | some c =>
    if c.provisioner ≠ Names.nfsDriver then pure ()
    else setMark c (!isAdmitted op config d)

def checkAll (op : Operator) (config : ModuleConfig) (classes : Dict StorageClass) :
    List Declaration → Program (List Error)
  | [] => pure []
  | d :: rest => do
    let result ← (checkDeclaration op config classes d).run
    let others ← checkAll op config classes rest
    return match result with
      | .ok () => others
      | .error e => e :: others

def summary : List Error → Except Failure Next
  | [] => .ok .awaitChange
  | [e] => .error (.one e)
  | errors => .error (.several errors)

def reconcile (op : Operator) (name : String) : Pass Failure Next := do
  let found ← Pass.request (.get .moduleConfigs name) fun e => .one (.getModuleConfig e)
  let declarations ← Pass.request (.list .declarations) fun e => .one (.listDeclarations e)
  let listed ← Pass.request (.list .storageClasses) fun e => .one (.listStorageClasses e)
  let classes := Dict.ofList (listed.map fun c => (c.name, c))
  let live := declarations.filter fun d => !d.isDeleting
  let errors ← checkAll op (found.getD .unset) classes live
  ExceptT.mk (pure (summary errors))

end NfsStorage.ModuleConfigPass

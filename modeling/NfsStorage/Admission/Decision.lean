import NfsStorage.Admission.Review
import NfsStorage.Store.Program
import NfsStorage.Validation

/-!
Which writes are admitted. A declaration has to fit the module configuration in place, and a
configuration every declaration in place. Deletions, and writes to objects on their way out, always
go through.
-/

namespace NfsStorage.Admission

inductive Error where
  | getModuleConfig (name : String) (cause : StoreError)
  | listDeclarations (cause : StoreError)
deriving DecidableEq, Repr

instance : Fault Error where
  texts
    | .getModuleConfig name cause => ("failed to get ModuleConfig " ++ name) :: Fault.texts cause
    | .listDeclarations cause => "failed to list NFSStorageClasses" :: Fault.texts cause

/-- The object that a request is judged by, unless the request is exempt. -/
def objectToJudge? {K : Type} [Resource K] (request : Request K) : Option K :=
  match request.operation with
  | .delete => none
  | _ => request.object.filter fun object => !Resource.isDeleting object

def judge (tls : Bool) (config : ModuleConfig) (d : Declaration) : Verdict :=
  match config.validate tls d with
  | .ok () => .allowed
  | .error violation => .denied (config.violationText d violation)

/-- The verdict on a configuration is that on the first declaration that it does not accept. -/
def judgeAll (tls : Bool) (config : ModuleConfig) : List Declaration → Verdict
  | [] => .allowed
  | d :: rest =>
    match judge tls config d with
    | .allowed => judgeAll tls config rest
    | denied => denied

/-- What cannot be looked up is not admitted. -/
def deny (error : Error) : Verdict := .denied (Fault.chain error)

def admitDeclaration (tls : Bool) (request : Request Declaration) : Program Verdict :=
  match objectToJudge? request with
  | none => pure .allowed
  | some d => do
    match ← Program.call (.get .moduleConfigs ModuleConfig.singleton) with
    | .error e => return deny (.getModuleConfig ModuleConfig.singleton e)
    | .ok found => return judge tls (found.getD .unset) d

/-- Configurations of other modules are no concern of this one. -/
def admitModuleConfig (tls : Bool) (request : Request ModuleConfig) : Program Verdict :=
  match objectToJudge? request with
  | none => pure .allowed
  | some config =>
    if config.name ≠ ModuleConfig.singleton then pure .allowed
    else do
      match ← Program.call (.list .declarations) with
      | .error e => return deny (.listDeclarations e)
      | .ok declarations => return judgeAll tls config declarations

def admitAny (_ : Request AnyObject) : Program Verdict := pure .allowed

def answer {K : Type} (judgement : Request K → Program Verdict) (review : Review K) :
    Program Json :=
  match review.request with
  | none => pure missingRequest
  | some request => do
    let verdict ← judgement request
    return Response.toJson ⟨review.apiVersion, review.kind, request.uid, verdict⟩

end NfsStorage.Admission

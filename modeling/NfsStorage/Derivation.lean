import NfsStorage.Resource.Declaration
import NfsStorage.Resource.Snapshot
import NfsStorage.Resource.Storage
import NfsStorage.Resource.Names

/-!
The objects that a declaration asks for: a storage class, a secret with its mount options and a
snapshot class.
-/

namespace NfsStorage

structure Derived where
  storageClass : StorageClass
  secret : Secret
  snapshotClass : SnapshotClass

def nonEmpty? (text : Option String) : Option String := text.filter (· ≠ "")

namespace DeclarationSpec

def transportOptions (tls : Bool) (spec : DeclarationSpec) : List String :=
  if tls && spec.connection.mtls then ["xprtsec=mtls"]
  else if tls && spec.connection.tls then ["xprtsec=tls"]
  else []

def positiveOption (key : String) (value : Option Int32) : List String :=
  match value with
  | some n => if 0 < n.toInt then [key ++ "=" ++ toString n.toInt] else []
  | none => []

def accessOptions : Option Bool → List String
  | some true => ["ro"]
  | some false => ["rw"]
  | none => []

def settingOptions (options : MountOptions) : List String :=
  (options.mountMode.map (·.text)).toList ++
    positiveOption "timeo" options.timeout ++
    positiveOption "retrans" options.retransmissions ++
    accessOptions options.readOnly

def mountOptionList (tls : Bool) (spec : DeclarationSpec) : List String :=
  ("nfsvers=" ++ spec.connection.nfsVersion.text) :: spec.transportOptions tls ++
    (spec.mountOptions.map settingOptions).getD []

end DeclarationSpec

namespace Declaration

def managedMetadata (name : String) («namespace» : Option String) : Metadata :=
  { name := some name
    «namespace» := «namespace»
    labels := some (Dict.ofList [(Names.managedByLabel, Names.operator)])
    finalizers := some [Names.finalizer] }

def classParameters (name «namespace» : String) (spec : DeclarationSpec) : Dict String :=
  Dict.ofList (
    [(Names.serverParameter, spec.connection.host),
      (Names.shareParameter, spec.connection.share),
      (Names.secretNameParameter, Names.secretNameOf name),
      (Names.secretNamespaceParameter, «namespace»)] ++
    (nonEmpty? spec.chmodPermissions).toList.map fun permissions =>
      (Names.mountPermissionsParameter, permissions))

def secretData (spec : DeclarationSpec) (options : String) : Dict Bytes :=
  Dict.ofList (
    (Names.mountOptionsKey, Bytes.ofText options) ::
    (nonEmpty? spec.volumeCleanup).toList.map fun cleanup =>
      (Names.volumeCleanupKey, Bytes.ofText cleanup))

/-- What a declaration asks for, given whether TLS is compiled in and the controller's namespace. -/
def derive (tls : Bool) («namespace» : String) (d : Declaration) : Derived :=
  let name := d.name
  let options := d.spec.mountOptionList tls
  let joined := ",".intercalate options
  { storageClass :=
      { metadata :=
          { managedMetadata name none with
            annotations := some (Dict.ofList [(Names.snapshotClassAnnotation, name)]) }
        provisioner := Names.nfsDriver
        parameters := some (classParameters name «namespace» d.spec)
        mountOptions := some options
        reclaimPolicy := some d.spec.reclaimPolicy.text
        volumeBindingMode := some d.spec.volumeBindingMode.text
        allowVolumeExpansion := some true }
    secret :=
      { metadata := managedMetadata (Names.secretNameOf name) (some «namespace»)
        type := some "Opaque"
        data := some (secretData d.spec joined) }
    snapshotClass :=
      { metadata := managedMetadata name none
        driver := Names.nfsDriver
        deletionPolicy := .ofReclaimPolicy d.spec.reclaimPolicy
        parameters := some (Dict.ofList [(Names.mountOptionsKey, joined)]) } }

end Declaration

end NfsStorage

import NfsStorage.Text.Blank

/-!
The names by which the module marks its objects.
-/

namespace NfsStorage.Names

/-- The CSI driver; storage classes and snapshot classes of other drivers are foreign. -/
def nfsDriver : String := "nfs.csi.k8s.io"

def operator : String := "nfs-storage-class-controller"

def finalizer : String := "storage.deckhouse.io/nfs-storage-class-controller"

def managedByLabel : String := "storage.deckhouse.io/managed-by"

def snapshotClassAnnotation : String := "storage.deckhouse.io/volume-snapshot-class"

def nodeLabel : String := "storage.deckhouse.io/csi-nfs-node"

/-- Set to `true` on storage classes whose declaration the configuration does not accept. -/
def mismatchLabel : String := "storage.deckhouse.io/does-not-match-moduleconfig"

def mountOptionsKey : String := "mountOptions"

def volumeCleanupKey : String := "volumeCleanup"

def serverParameter : String := "server"

def shareParameter : String := "share"

def mountPermissionsParameter : String := "mountPermissions"

def secretNameParameter : String := "csi.storage.k8s.io/provisioner-secret-name"

def secretNamespaceParameter : String := "csi.storage.k8s.io/provisioner-secret-namespace"

def provisionerAnnotation : String := "volume.kubernetes.io/storage-provisioner"

def betaProvisionerAnnotation : String := "volume.beta.kubernetes.io/storage-provisioner"

def defaultNamespace : String := "d8-csi-nfs"

def secretNameBeginning : String := "nfs-mount-options-for-"

def secretNameOf (declaration : String) : String := secretNameBeginning ++ declaration

def declarationOfSecret? (secret : String) : Option String :=
  match Text.after? secretNameBeginning.toList secret.toList with
  | none | some [] => none
  | some name => some (String.ofList name)

end NfsStorage.Names

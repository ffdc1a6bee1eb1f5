import NfsStorage.Resource.Layout.Reference

/-!
Where the data of a volume come from. The sources that pods and volumes of the cluster share differ,
if at all, in how they refer to a secret.
-/

namespace NfsStorage.Layout

open Json Schema

def keyToPath : Schema := .object (
  needed .text ["key", "path"] ++
  optional .int32 ["mode"])

/-- A disk that one node mounts, named by the first field. -/
def disk (name : String) : Schema := .object (
  needed .text [name] ++
  optional .text ["fsType"] ++
  optional .int32 ["partition"] ++
  optional .flag ["readOnly"])

def azureDisk : Schema := .object (
  needed .text ["diskName", "diskURI"] ++
  optional .text ["cachingMode", "fsType", "kind"] ++
  optional .flag ["readOnly"])

def azureFile (others : List Field) : Schema := .object (
  needed .text ["secretName", "shareName"] ++
  optional .flag ["readOnly"] ++ others)

def cephFS (secret : Schema) : Schema := .object (
  needed texts ["monitors"] ++
  optional .text ["path", "secretFile", "user"] ++
  optional .flag ["readOnly"] ++
  optional secret ["secretRef"])

def cinder (secret : Schema) : Schema := .object (
  needed .text ["volumeID"] ++
  optional .text ["fsType"] ++
  optional .flag ["readOnly"] ++
  optional secret ["secretRef"])

def fibreChannel : Schema := .object (
  optional .text ["fsType"] ++
  optional .int32 ["lun"] ++
  optional .flag ["readOnly"] ++
  optional texts ["targetWWNs", "wwids"])

def flexVolume (secret : Schema) : Schema := .object (
  needed .text ["driver"] ++
  optional .text ["fsType"] ++
  optional textMap ["options"] ++
  optional .flag ["readOnly"] ++
  optional secret ["secretRef"])

def flocker : Schema := .object (optional .text ["datasetName", "datasetUUID"])

def glusterfs (others : List Field) : Schema := .object (
  needed .text ["endpoints", "path"] ++
  optional .flag ["readOnly"] ++ others)

def hostPath : Schema := .object (
  needed .text ["path"] ++
  optional .text ["type"])

def iscsi (secret : Schema) : Schema := .object (
  needed .text ["iqn", "targetPortal"] ++
  needed .int32 ["lun"] ++
  optional .flag ["chapAuthDiscovery", "chapAuthSession", "readOnly"] ++
  optional .text ["fsType", "initiatorName", "iscsiInterface"] ++
  optional texts ["portals"] ++
  optional secret ["secretRef"])

def nfs : Schema := .object (
  needed .text ["path", "server"] ++
  optional .flag ["readOnly"])

def photonDisk : Schema := .object (
  needed .text ["pdID"] ++
  optional .text ["fsType"])

def portworx : Schema := .object (
  needed .text ["volumeID"] ++
  optional .text ["fsType"] ++
  optional .flag ["readOnly"])

def quobyte : Schema := .object (
  needed .text ["registry", "volume"] ++
  optional .text ["group", "tenant", "user"] ++
  optional .flag ["readOnly"])

def rbd (secret : Schema) : Schema := .object (
  needed .text ["image"] ++
  needed texts ["monitors"] ++
  optional .text ["fsType", "keyring", "pool", "user"] ++
  optional .flag ["readOnly"] ++
  optional secret ["secretRef"])

def scaleIO (secret : Schema) : Schema := .object (
  needed .text ["gateway", "system"] ++
  needed secret ["secretRef"] ++
  optional .text ["fsType", "protectionDomain", "storageMode", "storagePool", "volumeName"] ++
  optional .flag ["readOnly", "sslEnabled"])

def storageOS (secret : Schema) : Schema := .object (
  optional .text ["fsType", "volumeName", "volumeNamespace"] ++
  optional .flag ["readOnly"] ++
  optional secret ["secretRef"])

def vsphereVolume : Schema := .object (
  needed .text ["volumePath"] ++
  optional .text ["fsType", "storagePolicyID", "storagePolicyName"])

def sharedSources (secret storageOSSecret : Schema) : List Field :=
  optional (disk "volumeID") ["awsElasticBlockStore"] ++
  optional azureDisk ["azureDisk"] ++
  optional (cephFS secret) ["cephfs"] ++
  optional (cinder secret) ["cinder"] ++
  optional fibreChannel ["fc"] ++
  optional (flexVolume secret) ["flexVolume"] ++
  optional flocker ["flocker"] ++
  optional (disk "pdName") ["gcePersistentDisk"] ++
  optional hostPath ["hostPath"] ++
  optional (iscsi secret) ["iscsi"] ++
  optional nfs ["nfs"] ++
  optional photonDisk ["photonPersistentDisk"] ++
  optional portworx ["portworxVolume"] ++
  optional quobyte ["quobyte"] ++
  optional (rbd secret) ["rbd"] ++
  optional (scaleIO secret) ["scaleIO"] ++
  optional (storageOS storageOSSecret) ["storageos"] ++
  optional vsphereVolume ["vsphereVolume"]

end NfsStorage.Layout

import NfsStorage.Resource.Layout.Source

/-!
The fields of claims, volumes and storage classes that the programs carry along.
-/

namespace NfsStorage.Layout

open Json Schema

def volumeResources : Schema := .object (optional quantities ["limits", "requests"])

def claimSpecRest : List Field :=
  optional texts ["accessModes"] ++
  optional typedLocalReference ["dataSource"] ++
  optional typedReference ["dataSourceRef"] ++
  optional volumeResources ["resources"] ++
  optional labelSelector ["selector"] ++
  optional .text ["volumeAttributesClassName", "volumeMode"]

def modifyVolumeStatus : Schema := .object (
  needed .text ["status"] ++
  optional .text ["targetVolumeAttributesClassName"])

def claimStatusRest : List Field :=
  optional texts ["accessModes"] ++
  optional textMap ["allocatedResourceStatuses"] ++
  optional quantities ["allocatedResources", "capacity"] ++
  optional (.list (condition ["lastProbeTime"])) ["conditions"] ++
  optional .text ["currentVolumeAttributesClassName"] ++
  optional modifyVolumeStatus ["modifyVolumeStatus"]

/-- The claim that a pod has made for it. -/
def claimTemplate : Schema := .object (
  optional metadata ["metadata"] ++
  needed (.object (claimSpecRest ++ optional .text ["storageClassName", "volumeName"])) ["spec"])

def csiSourceRest : List Field :=
  optional secretReference ["controllerExpandSecretRef", "controllerPublishSecretRef",
    "nodeExpandSecretRef", "nodePublishSecretRef", "nodeStageSecretRef"] ++
  optional .text ["fsType"] ++
  optional .flag ["readOnly"] ++
  optional textMap ["volumeAttributes"]

def localVolume : Schema := .object (
  needed .text ["path"] ++
  optional .text ["fsType"])

def volumeSpecRest : List Field :=
  sharedSources secretReference objectReference ++
  optional texts ["accessModes", "mountOptions"] ++
  optional (azureFile (optional .text ["secretNamespace"])) ["azureFile"] ++
  optional quantities ["capacity"] ++
  optional objectReference ["claimRef"] ++
  optional (glusterfs (optional .text ["endpointsNamespace"])) ["glusterfs"] ++
  optional localVolume ["local"] ++
  optional (.object (optional nodeSelector ["required"])) ["nodeAffinity"] ++
  optional .text ["persistentVolumeReclaimPolicy", "storageClassName",
    "volumeAttributesClassName", "volumeMode"]

def volumeStatus : Schema := .object (
  optional .time ["lastPhaseTransitionTime"] ++
  optional .text ["message", "phase", "reason"])

/-- Where a volume of a storage class may be. -/
def topologySelectorTerm : Schema := .object (
  optional (.list (.object (needed .text ["key"] ++ needed texts ["values"])))
    ["matchLabelExpressions"])

instance : Proper (.object claimSpecRest) := ⟨by decide +kernel⟩

instance : Proper (.object claimStatusRest) := ⟨by decide +kernel⟩

instance : Proper (.object csiSourceRest) := ⟨by decide +kernel⟩

instance : Proper (.object volumeSpecRest) := ⟨by decide +kernel⟩

instance : Proper volumeStatus := ⟨by decide +kernel⟩

instance : Proper topologySelectorTerm := ⟨by decide +kernel⟩

end NfsStorage.Layout

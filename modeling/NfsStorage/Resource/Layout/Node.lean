import NfsStorage.Resource.Layout.Reference

/-!
The specification and the status of a node.
-/

namespace NfsStorage.Layout

open Json Schema

def nodeConfigSource : Schema := .object (
  optional (.object (
    needed .text ["kubeletConfigKey", "name", "namespace"] ++
    optional .text ["resourceVersion", "uid"])) ["configMap"])

def taint : Schema := .object (
  needed .text ["effect", "key"] ++
  optional .time ["timeAdded"] ++
  optional .text ["value"])

def nodeSpec : Schema := .object (
  optional nodeConfigSource ["configSource"] ++
  optional .text ["externalID", "podCIDR", "providerID"] ++
  optional texts ["podCIDRs"] ++
  optional (.list taint) ["taints"] ++
  optional .flag ["unschedulable"])

def nodeAddress : Schema := .object (needed .text ["address", "type"])

def nodeConfigStatus : Schema := .object (
  optional nodeConfigSource ["active", "assigned", "lastKnownGood"] ++
  optional .text ["error"])

def daemonEndpoints : Schema := .object (
  optional (.object (needed .int32 ["Port"])) ["kubeletEndpoint"])

def containerImage : Schema := .object (
  optional texts ["names"] ++
  optional .int64 ["sizeBytes"])

def nodeInfo : Schema := .object (
  needed .text ["architecture", "bootID", "containerRuntimeVersion", "kernelVersion",
    "kubeProxyVersion", "kubeletVersion", "machineID", "operatingSystem", "osImage", "systemUUID"])

def runtimeHandler : Schema := .object (
  optional (.object (optional .flag ["recursiveReadOnlyMounts", "userNamespaces"])) ["features"] ++
  optional .text ["name"])

def attachedVolume : Schema := .object (needed .text ["devicePath", "name"])

def nodeStatus : Schema := .object (
  optional (.list nodeAddress) ["addresses"] ++
  optional quantities ["allocatable", "capacity"] ++
  optional (.list (condition ["lastHeartbeatTime"])) ["conditions"] ++
  optional nodeConfigStatus ["config"] ++
  optional daemonEndpoints ["daemonEndpoints"] ++
  optional (.object (optional .flag ["supplementalGroupsPolicy"])) ["features"] ++
  optional (.list containerImage) ["images"] ++
  optional nodeInfo ["nodeInfo"] ++
  optional .text ["phase"] ++
  optional (.list runtimeHandler) ["runtimeHandlers"] ++
  optional (.list attachedVolume) ["volumesAttached"] ++
  optional texts ["volumesInUse"])

instance : Proper nodeSpec := ⟨by decide +kernel⟩

instance : Proper nodeStatus := ⟨by decide +kernel⟩

end NfsStorage.Layout

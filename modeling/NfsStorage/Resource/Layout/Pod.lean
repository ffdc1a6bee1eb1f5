import NfsStorage.Resource.Layout.Container
import NfsStorage.Resource.Layout.Volume

/-!
The volumes of a pod, and what the programs carry along of its specification and status.
-/

namespace NfsStorage.Layout

open Json Schema

def entriesProjection : List Field :=
  optional (.list keyToPath) ["items"] ++
  optional .flag ["optional"]

def downwardItem : Schema := .object (
  needed .text ["path"] ++
  optional objectFieldSelector ["fieldRef"] ++
  optional .int32 ["mode"] ++
  optional resourceFieldSelector ["resourceFieldRef"])

def projection : Schema := .object (
  optional (.object (
    needed .text ["path"] ++
    optional labelSelector ["labelSelector"] ++
    optional .text ["name", "signerName"] ++
    optional .flag ["optional"])) ["clusterTrustBundle"] ++
  optional (.object (needed .text ["name"] ++ entriesProjection)) ["configMap", "secret"] ++
  optional (.object (optional (.list downwardItem) ["items"])) ["downwardAPI"] ++
  optional (.object (
    needed .text ["path"] ++
    optional .text ["audience"] ++
    optional .int64 ["expirationSeconds"])) ["serviceAccountToken"])

def inlineCsi : Schema := .object (
  needed .text ["driver"] ++
  optional .text ["fsType"] ++
  optional localReference ["nodePublishSecretRef"] ++
  optional .flag ["readOnly"] ++
  optional textMap ["volumeAttributes"])

def podVolumeRest : List Field :=
  sharedSources localReference localReference ++
  optional (azureFile []) ["azureFile"] ++
  optional (.object (needed .text ["name"] ++ entriesProjection ++
    optional .int32 ["defaultMode"])) ["configMap"] ++
  optional inlineCsi ["csi"] ++
  optional (.object (
    optional .int32 ["defaultMode"] ++
    optional (.list downwardItem) ["items"])) ["downwardAPI"] ++
  optional (.object (optional .text ["medium", "sizeLimit"])) ["emptyDir"] ++
  optional (.object (optional claimTemplate ["volumeClaimTemplate"])) ["ephemeral"] ++
  optional (.object (
    needed .text ["repository"] ++
    optional .text ["directory", "revision"])) ["gitRepo"] ++
  optional (glusterfs []) ["glusterfs"] ++
  optional (.object (optional .text ["pullPolicy", "reference"])) ["image"] ++
  optional (.object (
    optional .int32 ["defaultMode"] ++
    optional (.list projection) ["sources"])) ["projected"] ++
  optional (.object (entriesProjection ++
    optional .int32 ["defaultMode"] ++
    optional .text ["secretName"])) ["secret"]

/-- Terms with weights, and terms that have to hold, when a pod is placed. -/
def placement (preferred required : Schema) : Schema := .object (
  optional preferred ["preferredDuringSchedulingIgnoredDuringExecution"] ++
  optional required ["requiredDuringSchedulingIgnoredDuringExecution"])

def podAffinityTerm : Schema := .object (
  needed .text ["topologyKey"] ++
  optional labelSelector ["labelSelector", "namespaceSelector"] ++
  optional texts ["matchLabelKeys", "mismatchLabelKeys", "namespaces"])

def weighted (key : String) (term : Schema) : Schema := .object (
  needed term [key] ++
  needed .int32 ["weight"])

def affinity : Schema := .object (
  optional (placement (.list (weighted "preference" nodeSelectorTerm)) nodeSelector)
    ["nodeAffinity"] ++
  optional (placement (.list (weighted "podAffinityTerm" podAffinityTerm))
    (.list podAffinityTerm)) ["podAffinity", "podAntiAffinity"])

def dnsConfig : Schema := .object (
  optional texts ["nameservers", "searches"] ++
  optional (.list (.object (optional .text ["name", "value"]))) ["options"])

def podSecurity : Schema := .object (
  sharedSecurity ++
  optional .int64 ["fsGroup"] ++
  optional .text ["fsGroupChangePolicy", "seLinuxChangePolicy", "supplementalGroupsPolicy"] ++
  optional (.list .int64) ["supplementalGroups"] ++
  optional (.list (.object (needed .text ["name", "value"]))) ["sysctls"])

def toleration : Schema := .object (
  optional .text ["effect", "key", "operator", "value"] ++
  optional .int64 ["tolerationSeconds"])

def topologySpreadConstraint : Schema := .object (
  needed .int32 ["maxSkew"] ++
  needed .text ["topologyKey", "whenUnsatisfiable"] ++
  optional labelSelector ["labelSelector"] ++
  optional texts ["matchLabelKeys"] ++
  optional .int32 ["minDomains"] ++
  optional .text ["nodeAffinityPolicy", "nodeTaintsPolicy"])

def podSpecRest : List Field :=
  optional .int64 ["activeDeadlineSeconds", "terminationGracePeriodSeconds"] ++
  optional affinity ["affinity"] ++
  optional .flag ["automountServiceAccountToken", "enableServiceLinks", "hostIPC", "hostNetwork",
    "hostPID", "hostUsers", "setHostnameAsFQDN", "shareProcessNamespace"] ++
  optional dnsConfig ["dnsConfig"] ++
  optional .text ["dnsPolicy", "hostname", "preemptionPolicy", "priorityClassName",
    "restartPolicy", "runtimeClassName", "schedulerName", "serviceAccount", "serviceAccountName",
    "subdomain"] ++
  optional (.list ephemeralContainer) ["ephemeralContainers"] ++
  optional (.list (.object (needed .text ["ip"] ++ optional texts ["hostnames"])))
    ["hostAliases"] ++
  optional (.list localReference) ["imagePullSecrets"] ++
  optional (.list container) ["initContainers"] ++
  optional textMap ["nodeSelector"] ++
  optional (.object (needed .text ["name"])) ["os"] ++
  optional quantities ["overhead"] ++
  optional .int32 ["priority"] ++
  optional (.list (.object (needed .text ["conditionType"]))) ["readinessGates"] ++
  optional (.list (.object (needed .text ["name"] ++
    optional .text ["resourceClaimName", "resourceClaimTemplateName"]))) ["resourceClaims"] ++
  optional resources ["resources"] ++
  optional (.list (.object (needed .text ["name"]))) ["schedulingGates"] ++
  optional podSecurity ["securityContext"] ++
  optional (.list toleration) ["tolerations"] ++
  optional (.list topologySpreadConstraint) ["topologySpreadConstraints"]

def podStatus : Schema := .object (
  optional (.list (condition ["lastProbeTime"])) ["conditions"] ++
  optional (.list containerStatus)
    ["containerStatuses", "ephemeralContainerStatuses", "initContainerStatuses"] ++
  optional .text ["hostIP", "message", "nominatedNodeName", "phase", "podIP", "qosClass", "reason",
    "resize"] ++
  optional (.list (.object (needed .text ["ip"]))) ["hostIPs", "podIPs"] ++
  optional (.list (.object (needed .text ["name"] ++ optional .text ["resourceClaimName"])))
    ["resourceClaimStatuses"] ++
  optional .time ["startTime"])

instance : Proper (.object podVolumeRest) := ⟨by decide +kernel⟩

instance : Proper (.object podSpecRest) := ⟨by decide +kernel⟩

instance : Proper podStatus := ⟨by decide +kernel⟩

end NfsStorage.Layout

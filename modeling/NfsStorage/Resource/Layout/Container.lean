import NfsStorage.Resource.Layout.Reference

/-!
The containers of a pod, and what is known of them while they run.
-/

namespace NfsStorage.Layout

open Json Schema

def keySelector : Schema := .object (
  needed .text ["key", "name"] ++
  optional .flag ["optional"])

def entriesSource : Schema := .object (
  needed .text ["name"] ++
  optional .flag ["optional"])

def objectFieldSelector : Schema := .object (
  needed .text ["fieldPath"] ++
  optional .text ["apiVersion"])

def resourceFieldSelector : Schema := .object (
  needed .text ["resource"] ++
  optional .text ["containerName", "divisor"])

def environmentValue : Schema := .object (
  optional keySelector ["configMapKeyRef", "secretKeyRef"] ++
  optional objectFieldSelector ["fieldRef"] ++
  optional resourceFieldSelector ["resourceFieldRef"])

def environmentVariable : Schema := .object (
  needed .text ["name"] ++
  optional .text ["value"] ++
  optional environmentValue ["valueFrom"])

def environmentSource : Schema := .object (
  optional entriesSource ["configMapRef", "secretRef"] ++
  optional .text ["prefix"])

def exec : Schema := .object (optional texts ["command"])

def httpGet : Schema := .object (
  needed .int32OrText ["port"] ++
  optional .text ["host", "path", "scheme"] ++
  optional (.list (.object (needed .text ["name", "value"]))) ["httpHeaders"])

def tcpSocket : Schema := .object (
  needed .int32OrText ["port"] ++
  optional .text ["host"])

def lifecycleHandler : Schema := .object (
  optional exec ["exec"] ++
  optional httpGet ["httpGet"] ++
  optional (.object (needed .int64 ["seconds"])) ["sleep"] ++
  optional tcpSocket ["tcpSocket"])

def lifecycle : Schema := .object (optional lifecycleHandler ["postStart", "preStop"])

def probe : Schema := .object (
  optional exec ["exec"] ++
  optional (.object (needed .int32 ["port"] ++ optional .text ["service"])) ["grpc"] ++
  optional httpGet ["httpGet"] ++
  optional tcpSocket ["tcpSocket"] ++
  optional .int32 ["failureThreshold", "initialDelaySeconds", "periodSeconds", "successThreshold",
    "timeoutSeconds"] ++
  optional .int64 ["terminationGracePeriodSeconds"])

def containerPort : Schema := .object (
  needed .int32 ["containerPort"] ++
  optional .int32 ["hostPort"] ++
  optional .text ["hostIP", "name", "protocol"])

def resources : Schema := .object (
  optional (.list (.object (needed .text ["name"] ++ optional .text ["request"]))) ["claims"] ++
  optional quantities ["limits", "requests"])

def securityProfile : Schema := .object (
  needed .text ["type"] ++
  optional .text ["localhostProfile"])

def seLinuxOptions : Schema := .object (optional .text ["level", "role", "type", "user"])

def windowsOptions : Schema := .object (
  optional .text ["gmsaCredentialSpec", "gmsaCredentialSpecName", "runAsUserName"] ++
  optional .flag ["hostProcess"])

def sharedSecurity : List Field :=
  optional securityProfile ["appArmorProfile", "seccompProfile"] ++
  optional .int64 ["runAsGroup", "runAsUser"] ++
  optional .flag ["runAsNonRoot"] ++
  optional seLinuxOptions ["seLinuxOptions"] ++
  optional windowsOptions ["windowsOptions"]

def containerSecurity : Schema := .object (
  sharedSecurity ++
  optional .flag ["allowPrivilegeEscalation", "privileged", "readOnlyRootFilesystem"] ++
  optional (.object (optional texts ["add", "drop"])) ["capabilities"] ++
  optional .text ["procMount"])

def volumeMount : Schema := .object (
  needed .text ["mountPath", "name"] ++
  optional .text ["mountPropagation", "recursiveReadOnly", "subPath", "subPathExpr"] ++
  optional .flag ["readOnly"])

def containerFields : List Field :=
  needed .text ["name"] ++
  optional texts ["args", "command"] ++
  optional (.list environmentVariable) ["env"] ++
  optional (.list environmentSource) ["envFrom"] ++
  optional .text ["image", "imagePullPolicy", "restartPolicy", "terminationMessagePath",
    "terminationMessagePolicy", "workingDir"] ++
  optional lifecycle ["lifecycle"] ++
  optional probe ["livenessProbe", "readinessProbe", "startupProbe"] ++
  optional (.list containerPort) ["ports"] ++
  optional (.list (.object (needed .text ["resourceName", "restartPolicy"]))) ["resizePolicy"] ++
  optional resources ["resources"] ++
  optional containerSecurity ["securityContext"] ++
  optional .flag ["stdin", "stdinOnce", "tty"] ++
  optional (.list (.object (needed .text ["devicePath", "name"]))) ["volumeDevices"] ++
  optional (.list volumeMount) ["volumeMounts"]

def container : Schema := .object containerFields

/-- A container that is added to a running pod, beside one of its containers. -/
def ephemeralContainer : Schema :=
  .object (containerFields ++ optional .text ["targetContainerName"])

def containerState : Schema := .object (
  optional (.object (optional .time ["startedAt"])) ["running"] ++
  optional (.object (
    needed .int32 ["exitCode"] ++
    optional .text ["containerID", "message", "reason"] ++
    optional .time ["finishedAt", "startedAt"] ++
    optional .int32 ["signal"])) ["terminated"] ++
  optional (.object (optional .text ["message", "reason"])) ["waiting"])

def resourceStatus : Schema := .object (
  needed .text ["name"] ++
  optional (.list (.object (needed .text ["resourceID"] ++ optional .text ["health"])))
    ["resources"])

def containerUser : Schema := .object (
  optional (.object (
    needed .int64 ["gid", "uid"] ++
    optional (.list .int64) ["supplementalGroups"])) ["linux"])

def volumeMountStatus : Schema := .object (
  needed .text ["mountPath", "name"] ++
  optional .flag ["readOnly"] ++
  optional .text ["recursiveReadOnly"])

def containerStatus : Schema := .object (
  needed .text ["image", "imageID", "name"] ++
  needed .flag ["ready"] ++
  needed .int32 ["restartCount"] ++
  optional quantities ["allocatedResources"] ++
  optional (.list resourceStatus) ["allocatedResourcesStatus"] ++
  optional .text ["containerID"] ++
  optional containerState ["lastState", "state"] ++
  optional resources ["resources"] ++
  optional .flag ["started"] ++
  optional containerUser ["user"] ++
  optional (.list volumeMountStatus) ["volumeMounts"])

instance : Proper container := ⟨by decide +kernel⟩

end NfsStorage.Layout

import NfsStorage.Json.Kept

/-!
The records of the cluster's interface (version 1.32) that the programs carry along without looking
into them, given by their fields. Here are those that many kinds share: references to objects, label
selectors and the records of metadata.
-/

namespace NfsStorage.Layout

open Json Schema

def texts : Schema := .list .text

def textMap : Schema := .dict .text

/-- Amounts of resources by their names. An amount is a text such as `10Gi`. -/
def quantities : Schema := .dict .text

def ownerReference : Schema := .object (
  needed .text ["apiVersion", "kind", "name", "uid"] ++
  optional .flag ["blockOwnerDeletion", "controller"])

def managedFieldsEntry : Schema := .object (
  optional .text ["apiVersion", "fieldsType", "manager", "operation", "subresource"] ++
  optional .free ["fieldsV1"] ++
  optional .time ["time"])

def metadata : Schema := .object (
  optional textMap ["annotations", "labels"] ++
  optional .time ["creationTimestamp", "deletionTimestamp"] ++
  optional .int64 ["deletionGracePeriodSeconds", "generation"] ++
  optional texts ["finalizers"] ++
  optional .text ["generateName", "name", "namespace", "resourceVersion", "selfLink", "uid"] ++
  optional (.list managedFieldsEntry) ["managedFields"] ++
  optional (.list ownerReference) ["ownerReferences"])

/-- An object of the same namespace. -/
def localReference : Schema := .object (needed .text ["name"])

/-- An object of a kind, in the same namespace. -/
def typedLocalReference : Schema := .object (
  needed .text ["kind", "name"] ++
  optional .text ["apiGroup"])

def typedReference : Schema := .object (
  needed .text ["kind", "name"] ++
  optional .text ["apiGroup", "namespace"])

def objectReference : Schema := .object (
  optional .text
    ["apiVersion", "fieldPath", "kind", "name", "namespace", "resourceVersion", "uid"])

def secretReference : Schema := .object (optional .text ["name", "namespace"])

/-- A condition that a key has to meet, of a selector of labels or nodes. -/
def requirement : Schema := .object (
  needed .text ["key", "operator"] ++
  optional texts ["values"])

def labelSelector : Schema := .object (
  optional (.list requirement) ["matchExpressions"] ++
  optional textMap ["matchLabels"])

def nodeSelectorTerm : Schema := .object (
  optional (.list requirement) ["matchExpressions", "matchFields"])

def nodeSelector : Schema := .object (needed (.list nodeSelectorTerm) ["nodeSelectorTerms"])

/-- What is the case with an object since when: `others` are the times at which that was looked at. -/
def condition (others : List String) : Schema := .object (
  needed .text ["status", "type"] ++
  optional .time ("lastTransitionTime" :: others) ++
  optional .text ["message", "reason"])

instance : Proper .time := ⟨rfl⟩

instance : Proper ownerReference := ⟨by decide⟩

instance : Proper managedFieldsEntry := ⟨by decide⟩

end NfsStorage.Layout

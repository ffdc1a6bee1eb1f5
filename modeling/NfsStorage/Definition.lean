import NfsStorage.Json.Basic
import NfsStorage.Resource.Declaration

/-!
The definition by which the API server knows declarations: their names, what is printed of them, and
the schema of their fields.
-/

namespace NfsStorage.Definition

abbrev Schema := List (String × Json)

namespace Schema

def typed (name : String) : Schema := [("type", .string name)]

def text : Schema := typed "string"

/-- A flag that is off unless given. -/
def flag : Schema := ("default", .bool false) :: typed "boolean"

def boolean : Schema := typed "boolean"

def int32 : Schema := ("format", .string "int32") :: typed "integer"

def choice (names : List String) : Schema := ("enum", .array (names.map .string)) :: typed "string"

def listOf (items : Schema) : Schema := ("items", .object items) :: typed "array"

def mapOf (values : Schema) : Schema := ("additionalProperties", .object values) :: typed "object"

def record (required : List String) (properties : List (String × Schema)) : Schema :=
  ("properties", .object (properties.map fun (name, schema) => (name, .object schema))) ::
    (if required.isEmpty then [] else [("required", .array (required.map .string))]) ++
    typed "object"

def nullable (schema : Schema) : Schema := ("nullable", .bool true) :: schema

end Schema

open Schema

def connection : Schema :=
  record ["host", "nfsVersion", "share"] [
    ("host", text),
    ("mtls", flag),
    ("nfsVersion", choice ([NfsVersion.v3, .v41, .v42].map NfsVersion.text)),
    ("share", text),
    ("tls", flag)]

def mountOptions : Schema :=
  record [] [
    ("mountMode", nullable (choice ([MountMode.hard, .soft].map MountMode.text))),
    ("readOnly", nullable boolean),
    ("retransmissions", nullable int32),
    ("timeout", nullable int32)]

def labelSelector : Schema :=
  record [] [
    ("matchExpressions", listOf (record ["key", "operator"] [
      ("key", text),
      ("operator", text),
      ("values", listOf text)])),
    ("matchLabels", mapOf text)]

def spec : Schema :=
  record ["connection", "reclaimPolicy", "volumeBindingMode"] [
    ("chmodPermissions", nullable text),
    ("connection", connection),
    ("mountOptions", nullable mountOptions),
    ("reclaimPolicy", choice ([ReclaimPolicy.delete, .retain].map ReclaimPolicy.text)),
    ("volumeBindingMode",
      choice ([VolumeBindingMode.immediate, .waitForFirstConsumer].map VolumeBindingMode.text)),
    ("volumeCleanup", nullable text),
    ("workloadNodes", nullable (record [] [("nodeSelector", nullable labelSelector)]))]

def status : Schema :=
  record [] [
    ("phase", nullable (choice ([Phase.created, .failed].map Phase.text))),
    ("reason", nullable text)]

def declaration : Schema :=
  ("title", .string "NFSStorageClass") ::
    record ["spec"] [("spec", spec), ("status", nullable status)]

def printerColumn (name path type : String) : Json :=
  .object [("jsonPath", .string path), ("name", .string name), ("type", .string type)]

def version : Json :=
  .object [
    ("additionalPrinterColumns", .array [
      printerColumn "Phase" ".status.phase" "string",
      printerColumn "Age" ".metadata.creationTimestamp" "date"]),
    ("name", .string "v1alpha1"),
    ("schema", .object [("openAPIV3Schema", .object declaration)]),
    ("served", .bool true),
    ("storage", .bool true),
    ("subresources", .object [("status", .object [])])]

def names : Json :=
  .object [
    ("categories", .array []),
    ("kind", .string "NFSStorageClass"),
    ("plural", .string "nfsstorageclasses"),
    ("shortNames", .array [.string "nsc"]),
    ("singular", .string "nfsstorageclass")]

def document : Json :=
  .object [
    ("apiVersion", .string "apiextensions.k8s.io/v1"),
    ("kind", .string "CustomResourceDefinition"),
    ("metadata", .object [("name", .string "nfsstorageclasses.storage.deckhouse.io")]),
    ("spec", .object [
      ("group", .string "storage.deckhouse.io"),
      ("names", names),
      ("scope", .string "Cluster"),
      ("versions", .array [version])])]

end NfsStorage.Definition

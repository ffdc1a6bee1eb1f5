import NfsStorage.Resource.Layout.Reference

/-!
What every cluster object carries: its name, labels, annotations, finalizers, version and the time
its deletion was asked for, and what the server keeps beside these. Times and records that only the
server looks into are kept as they are written.
-/

namespace NfsStorage

open Json

instance : JsonCodec Time where
  decode
    | .string text => Time.parse? text
    | _ => none
  encode t := .string t.secondsText

instance : Shaped Time := ⟨.ofCodec Time⟩

abbrev Labels := Dict String

structure Metadata where
  name : Option String := none
  generateName : Option String := none
  «namespace» : Option String := none
  labels : Option Labels := none
  annotations : Option Labels := none
  finalizers : Option (List String) := none
  resourceVersion : Option String := none
  deletionTimestamp : Option Time := none
  generation : Option Int64 := none
  uid : Option String := none
  creationTimestamp : Option (Kept .time) := none
  deletionGracePeriodSeconds : Option Int64 := none
  managedFields : Option (List (Kept Layout.managedFieldsEntry)) := none
  ownerReferences : Option (List (Kept Layout.ownerReference)) := none
  selfLink : Option String := none
deriving DecidableEq

namespace Metadata

instance : Inhabited Metadata := ⟨{}⟩

instance : JsonCodec Metadata where
  decode j := do
    let m ← Members.ofJson? j
    return {
      name := ← m.optional "name"
      generateName := ← m.optional "generateName"
      «namespace» := ← m.optional "namespace"
      labels := ← m.optional "labels"
      annotations := ← m.optional "annotations"
      finalizers := ← m.optional "finalizers"
      resourceVersion := ← m.optional "resourceVersion"
      deletionTimestamp := ← m.optional "deletionTimestamp"
      generation := ← m.optional "generation"
      uid := ← m.optional "uid"
      creationTimestamp := ← m.optional "creationTimestamp"
      deletionGracePeriodSeconds := ← m.optional "deletionGracePeriodSeconds"
      managedFields := ← m.optional "managedFields"
      ownerReferences := ← m.optional "ownerReferences"
      selfLink := ← m.optional "selfLink" }
  encode m := .object (
    fieldOf? "name" m.name ++
    fieldOf? "generateName" m.generateName ++
    fieldOf? "namespace" m.namespace ++
    fieldOf? "labels" m.labels ++
    fieldOf? "annotations" m.annotations ++
    fieldOf? "finalizers" m.finalizers ++
    fieldOf? "resourceVersion" m.resourceVersion ++
    fieldOf? "deletionTimestamp" m.deletionTimestamp ++
    fieldOf? "generation" m.generation ++
    fieldOf? "uid" m.uid ++
    fieldOf? "creationTimestamp" m.creationTimestamp ++
    fieldOf? "deletionGracePeriodSeconds" m.deletionGracePeriodSeconds ++
    fieldOf? "managedFields" m.managedFields ++
    fieldOf? "ownerReferences" m.ownerReferences ++
    fieldOf? "selfLink" m.selfLink)

instance : Shaped Metadata := ⟨.object .lenient [
  Shape.member String "name",
  Shape.member String "generateName",
  Shape.member String "namespace",
  Shape.member Labels "labels",
  Shape.member Labels "annotations",
  Shape.member (List String) "finalizers",
  Shape.member String "resourceVersion",
  Shape.member Time "deletionTimestamp",
  Shape.member Int64 "generation",
  Shape.member String "uid",
  Shape.member (Kept .time) "creationTimestamp",
  Shape.member Int64 "deletionGracePeriodSeconds",
  Shape.member (List (Kept Layout.managedFieldsEntry)) "managedFields",
  Shape.member (List (Kept Layout.ownerReference)) "ownerReferences",
  Shape.member String "selfLink"]⟩

/-- The name of an object: the given one, even if empty, or else the beginning from which the server
would generate one. -/
def nameAny (m : Metadata) : String := (m.name <|> m.generateName).getD ""

def label? (m : Metadata) (key : String) : Option String := m.labels.bind (·.get? key)

def annotation? (m : Metadata) (key : String) : Option String := m.annotations.bind (·.get? key)

def isDeleting (m : Metadata) : Bool := m.deletionTimestamp.isSome

def finalizerList (m : Metadata) : List String := m.finalizers.getD []

end Metadata

/-- A kind of cluster object. The server keeps an object in its `settled` form. -/
class Resource (K : Type) extends JsonCodec K where
  metadata : K → Metadata
  withMetadata : K → Metadata → K
  settled : K → K := id

namespace Resource

variable {K : Type} [Resource K]

def name (object : K) : String := (metadata object).nameAny

def isDeleting (object : K) : Bool := (metadata object).isDeleting

end Resource

end NfsStorage

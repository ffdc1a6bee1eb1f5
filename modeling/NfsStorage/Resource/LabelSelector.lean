import NfsStorage.Json.Shape

/-!
Label selectors as they are written in objects.
-/

namespace NfsStorage

open Json

structure Requirement where
  key : String := ""
  operator : String := ""
  values : Option (List String) := none
deriving DecidableEq

instance : JsonCodec Requirement where
  decode j := do
    let m ← Members.ofJson? j
    return {
      key := ← m.orDefault "key" ""
      operator := ← m.orDefault "operator" ""
      values := ← m.optional "values" }
  encode r := .object (
    fieldOf "key" r.key ++ fieldOf "operator" r.operator ++ fieldOf? "values" r.values)

instance : Shaped Requirement := ⟨.object .lenient [
  Shape.member String "key",
  Shape.member String "operator",
  Shape.member (List String) "values"]⟩

structure LabelSelector where
  matchExpressions : Option (List Requirement) := none
  matchLabels : Option (Dict String) := none
deriving DecidableEq

instance : JsonCodec LabelSelector where
  decode j := do
    let m ← Members.ofJson? j
    return {
      matchExpressions := ← m.optional "matchExpressions"
      matchLabels := ← m.optional "matchLabels" }
  encode s := .object (
    fieldOf? "matchExpressions" s.matchExpressions ++ fieldOf? "matchLabels" s.matchLabels)

instance : Shaped LabelSelector := ⟨.object .lenient [
  Shape.member (List Requirement) "matchExpressions",
  Shape.member (Dict String) "matchLabels"]⟩

end NfsStorage

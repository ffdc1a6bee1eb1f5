import NfsStorage.Resource.LabelSelector
import NfsStorage.Fault

/-!
Selecting objects by their labels. A selector is parsed as a whole before anything is matched, and
selects what satisfies all its conditions.
-/

namespace NfsStorage

inductive Condition where
  | equals (key value : String)
  | isIn (key : String) (values : List String)
  | notIn (key : String) (values : List String)
  | present (key : String)
  | absent (key : String)
deriving DecidableEq

namespace Condition

def holds (labels : Dict String) : Condition → Bool
  | equals key value => labels.get? key = some value
  | isIn key values =>
    match labels.get? key with
    | some value => values.contains value
    | none => false
  | notIn key values =>
    match labels.get? key with
    | some value => !values.contains value
    | none => true
  | present key => labels.contains key
  | absent key => !labels.contains key

end Condition

inductive SelectorError where
  | unknownOperator
  | missingValues
deriving DecidableEq, Repr

instance : Fault SelectorError where
  texts error :=
    ["invalid label selector",
      "failed to parse value as expression: " ++ match error with
        | .unknownOperator => "Invalid expression operator"
        | .missingValues => "Expected values for In operator, got none"]

namespace Requirement

def condition (r : Requirement) : Except SelectorError Condition :=
  match r.operator, r.values with
  | "In", some values => .ok (.isIn r.key values)
  | "NotIn", some values => .ok (.notIn r.key values)
  | "In", none | "NotIn", none => .error .missingValues
  | "Exists", _ => .ok (.present r.key)
  | "DoesNotExist", _ => .ok (.absent r.key)
  | _, _ => .error .unknownOperator

end Requirement

namespace LabelSelector

/-- The conditions of a selector: those on single labels, then the expressions in order. -/
def conditions (s : LabelSelector) : Except SelectorError (List Condition) :=
  ((s.matchExpressions.getD []).mapM Requirement.condition).map fun expressions =>
    ((s.matchLabels.getD ∅).entries.map fun (key, value) => .equals key value) ++ expressions

def selects (s : LabelSelector) (labels : Option (Dict String)) : Except SelectorError Bool :=
  s.conditions.map fun conditions => conditions.all (Condition.holds (labels.getD ∅))

end LabelSelector

end NfsStorage

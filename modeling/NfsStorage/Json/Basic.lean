/-!
JSON values. An object keeps its fields in the order they were written, repeated keys included,
so that a decoder can judge repetitions; look-up takes the first field of a name.
-/

namespace NfsStorage

/-- A JSON number is an integer or was written with a fraction or an exponent, which
`decimal` keeps as `mantissa · 10 ^ exponent`. -/
inductive Json.Number where
  | integer (value : Int)
  | decimal (mantissa exponent : Int)
deriving DecidableEq, Repr

inductive Json where
  | null
  | bool (value : Bool)
  | number (value : Json.Number)
  | string (value : String)
  | array (items : List Json)
  | object (fields : List (String × Json))
deriving Repr

namespace Json

instance : Inhabited Json := ⟨.null⟩

def int (value : Int) : Json := .number (.integer value)

def fields : Json → List (String × Json)
  | .object fields => fields
  | _ => []

def isObject : Json → Bool
  | .object _ => true
  | _ => false

def isNull : Json → Bool
  | .null => true
  | _ => false

def field (j : Json) (key : String) : Json := (j.fields.lookup key).getD .null

mutual

/-- Of the fields of one name in an object, only the last is kept. -/
def collapse : Json → Json
  | .array items => .array (collapseItems items)
  | .object fields => .object (collapseFields fields)
  | j => j

def collapseItems : List Json → List Json
  | [] => []
  | item :: rest => collapse item :: collapseItems rest

def collapseFields : List (String × Json) → List (String × Json)
  | [] => []
  | (key, value) :: rest =>
    if rest.any (·.1 = key) then collapseFields rest
    else (key, collapse value) :: collapseFields rest

end

mutual

/-- Whether two values are the same, fields in the same order included. -/
def same : Json → Json → Bool
  | .null, .null => true
  | .bool a, .bool b => a = b
  | .number a, .number b => a = b
  | .string a, .string b => a = b
  | .array a, .array b => sameItems a b
  | .object a, .object b => sameFields a b
  | _, _ => false

def sameItems : List Json → List Json → Bool
  | [], [] => true
  | a :: as, b :: bs => same a b && sameItems as bs
  | _, _ => false

def sameFields : List (String × Json) → List (String × Json) → Bool
  | [], [] => true
  | (key, a) :: as, (key', b) :: bs => key = key' && same a b && sameFields as bs
  | _, _ => false

end

mutual

theorem same_iff : (a b : Json) → same a b = true ↔ a = b
  | .null, b | .bool _, b | .number _, b | .string _, b => by cases b <;> simp [same]
  | .array a, b => by cases b <;> simp [same, sameItems_iff a]
  | .object a, b => by cases b <;> simp [same, sameFields_iff a]

theorem sameItems_iff : (as bs : List Json) → sameItems as bs = true ↔ as = bs
  | [], bs => by cases bs <;> simp [sameItems]
  | a :: as, bs => by cases bs <;> simp [sameItems, same_iff a, sameItems_iff as]

theorem sameFields_iff : (as bs : List (String × Json)) → sameFields as bs = true ↔ as = bs
  | [], bs => by cases bs <;> simp [sameFields]
  | (key, a) :: as, bs => by
      cases bs <;> simp [sameFields, same_iff a, sameFields_iff as, Prod.ext_iff]

end

instance : DecidableEq Json := fun a b => decidable_of_iff _ (same_iff a b)

end Json

end NfsStorage

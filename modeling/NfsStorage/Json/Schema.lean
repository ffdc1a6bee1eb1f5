import NfsStorage.Json.Shape
import NfsStorage.Time.Rfc3339

/-!
Records that are read only to be written again. A schema says of every field of such a record what
its values are, and so which values are refused and what is written of the others: unknown fields are
dropped, times are written to the second in UTC, maps in the order of their keys. As of any object
whose fields may be missing or null, each value of a repeated field has to be valid and the last
counts.
-/

namespace NfsStorage.Json

/-- What the values of a field are. Of the fields of an object, those that are needed are written in
any case, where they are missing or null with an empty value. -/
inductive Schema where
  | text
  | flag
  | int32
  | int64
  | int32OrText
  | time
  | free
  | list (item : Schema)
  | dict (value : Schema)
  | object (fields : List (String × Bool × Schema))

namespace Schema

/-- The name of a field, whether it is needed, and its values. -/
abbrev Field := String × Bool × Schema

def needed (s : Schema) (names : List String) : List Field := names.map (·, true, s)

def optional (s : Schema) (names : List String) : List Field := names.map (·, false, s)

mutual

def empty : Schema → Json
  | .text => .string ""
  | .flag => .bool false
  | .int32 | .int64 | .int32OrText => .int 0
  | .time => .string "1970-01-01T00:00:00Z"
  | .list _ => .array []
  | .free | .dict _ => .object []
  | .object fields => .object (emptyFields fields)

def emptyFields : List Field → List (String × Json)
  | [] => []
  | (key, isNeeded, s) :: rest =>
    (if isNeeded then some (key, empty s) else none).toList ++ emptyFields rest

end

def rewriteInt32OrText : Json → Option Json
  | .string written => some (.string written)
  | j => (decode j : Option Int32).map encode

/-- A free value is anything but null, which is no value. -/
def rewriteFree : Json → Option Json
  | .null => none
  | j => some j.collapse

def rewriteTime : Json → Option Json
  | .string written => (Time.parse? written).map fun t => .string t.secondsText
  | _ => none

def rewriteNullable (rewrite : Json → Option Json) : Json → Option (Option Json)
  | .null => some none
  | j => (rewrite j).map some

mutual

def rewrite : Schema → Json → Option Json
  | .text, j => (decode j : Option String).map encode
  | .flag, j => (decode j : Option Bool).map encode
  | .int32, j => (decode j : Option Int32).map encode
  | .int64, j => (decode j : Option Int64).map encode
  | .int32OrText, j => rewriteInt32OrText j
  | .time, j => rewriteTime j
  | .free, j => rewriteFree j
  | .list item, .array items => (items.mapM (rewrite item)).map .array
  | .dict value, .object fields =>
    (fields.mapM fun field => (rewrite value field.2).map (field.1, ·)).map fun entries =>
      .object (Dict.ofList entries).entries
  | .object known, .object fields => (rewriteFields known ⟨fields⟩).map .object
  | _, _ => none

def rewriteFields : List Field → Members → Option (List (String × Json))
  | [], _ => some []
  | (key, isNeeded, s) :: rest, m => do
    let values ← (m.valuesOf key).mapM (rewriteNullable (rewrite s))
    let others ← rewriteFields rest m
    let value := values.getLast?.join <|> if isNeeded then some s.empty else none
    return (value.map (key, ·)).toList ++ others

end

mutual

/-- No object has two fields of one name. -/
def isProper : Schema → Bool
  | .list s | .dict s => isProper s
  | .object fields => (fields.map (·.1)).Nodup && areProper fields
  | _ => true

def areProper : List Field → Bool
  | [] => true
  | (_, _, s) :: rest => isProper s && areProper rest

end

class Proper (s : Schema) : Prop where
  isProper : s.isProper = true

mutual

def toShape : Schema → Shape
  | .text => shape String
  | .flag => shape Bool
  | .int32 => shape Int32
  | .int64 => shape Int64
  | .int32OrText => .scalar fun j => (rewriteInt32OrText j).isSome
  | .time => .scalar fun j => (rewriteTime j).isSome
  | .free => .free
  | .list item => .list (toShape item)
  | .dict value => .dict (toShape value)
  | .object fields => .object .lenient (toShapes fields)

def toShapes : List Field → List (FieldRule × Shape)
  | [] => []
  | (key, _, s) :: rest => Shape.field key .defaulted (.nullable (toShape s)) :: toShapes rest

end

end Schema

end NfsStorage.Json

import NfsStorage.Json.Basic
import NfsStorage.Data.Dict

/-!
How values are read from JSON and written to it. A record is read field by field: `Record` holds a
record whose fields may be given by name or by position, `Members` an object of which any field may
be missing or null.
-/

namespace NfsStorage

class JsonCodec (α : Type) where
  decode : Json → Option α
  encode : α → Json

export JsonCodec (decode encode)

namespace Json

instance : JsonCodec String where
  decode
    | .string value => some value
    | _ => none
  encode := .string

instance : JsonCodec Bool where
  decode
    | .bool value => some value
    | _ => none
  encode := .bool

def decodeInteger (least greatest : Int) : Json → Option Int
  | .number (.integer value) => if least ≤ value ∧ value ≤ greatest then some value else none
  | _ => none

instance : JsonCodec UInt8 where
  decode j := (decodeInteger 0 255 j).map fun value => UInt8.ofNat value.toNat
  encode value := .int value.toNat

instance : JsonCodec UInt16 where
  decode j := (decodeInteger 0 65535 j).map fun value => UInt16.ofNat value.toNat
  encode value := .int value.toNat

instance : JsonCodec UInt32 where
  decode j := (decodeInteger 0 4294967295 j).map fun value => UInt32.ofNat value.toNat
  encode value := .int value.toNat

instance : JsonCodec Int32 where
  decode j := (decodeInteger (-2147483648) 2147483647 j).map Int32.ofInt
  encode value := .int value.toInt

instance : JsonCodec Int64 where
  decode j := (decodeInteger (-9223372036854775808) 9223372036854775807 j).map Int64.ofInt
  encode value := .int value.toInt

/-- Free-form values: of the fields of one name the last counts. -/
instance : JsonCodec Json where
  decode j := some j.collapse
  encode j := j

instance {α : Type} [JsonCodec α] : JsonCodec (List α) where
  decode
    | .array items => items.mapM decode
    | _ => none
  encode items := .array (items.map encode)

def decodeEntries {α : Type} [JsonCodec α] (fields : List (String × Json)) :
    Option (List (String × α)) :=
  fields.mapM fun field => (decode field.2).map fun value => (field.1, value)

instance {α : Type} [JsonCodec α] : JsonCodec (Dict α) where
  decode
    | .object fields => (decodeEntries fields).map Dict.ofList
    | _ => none
  encode d := .object (d.entries.map fun entry => (entry.1, encode entry.2))

def decodeNullable {α : Type} [JsonCodec α] : Json → Option (Option α)
  | .null => some none
  | j => (decode j).map some

/-- A choice of names, written as text. `{"Name": null}` is read as the name, too. -/
def decodeName {α : Type} (named? : String → Option α) : Json → Option α
  | .string name => named? name
  | .object [(name, .null)] => named? name
  | _ => none

def fieldOf {α : Type} [JsonCodec α] (key : String) (value : α) : List (String × Json) :=
  [(key, encode value)]

/-- A field that is left out when it has no value. -/
def fieldOf? {α : Type} [JsonCodec α] (key : String) : Option α → List (String × Json)
  | none => []
  | some value => [(key, encode value)]

/-- The fields of a record that was given as an object, or as an array in the order of the fields'
declaration. -/
structure Record where
  fields : List (String × Json)
  positional : Bool

namespace Record

/-- An array may not hold more items than the record has fields. -/
def ofJson? (names : List String) : Json → Option Record
  | .object fields => some ⟨fields, false⟩
  | .array items =>
    if items.length ≤ names.length then some ⟨names.zip items, true⟩ else none
  | _ => none

/-- The value of a field, if it is given. A field that is given twice makes the record invalid. -/
def single (r : Record) (keys : List String) : Option (Option Json) :=
  match r.fields.filter (fun field => keys.contains field.1) with
  | [] => some none
  | [field] => some (some field.2)
  | _ => none

def given (r : Record) (key : String) : Option Json := (r.single [key]).join

variable {α : Type} [JsonCodec α]

def required (r : Record) (key : String) : Option α :=
  (r.given key).bind decode

/-- Missing or null means absent. -/
def optional (r : Record) (key : String) : Option (Option α) :=
  (r.single [key]).bind fun
    | none => some none
    | some j => decodeNullable j

/-- Missing means a default; null is no value. -/
def orDefault (r : Record) (key : String) (default : α) : Option α :=
  (r.single [key]).bind fun
    | none => some default
    | some j => decode j

/-- Missing or null means absent, but an array may not leave the field out. -/
def nullable (r : Record) (keys : List String) : Option (Option α) :=
  (r.single keys).bind fun
    | none => if r.positional then none else some none
    | some j => decodeNullable j

end Record

/-- The fields of an object whose every field may be missing or null. If a field is repeated, each
value has to be valid and the last counts. -/
structure Members where
  fields : List (String × Json)

namespace Members

def ofJson? : Json → Option Members
  | .object fields => some ⟨fields⟩
  | _ => none

def valuesOf (m : Members) (key : String) : List Json :=
  (m.fields.filter (fun field => field.1 = key)).map (·.2)

variable {α : Type} [JsonCodec α]

def optional (m : Members) (key : String) : Option (Option α) :=
  ((m.valuesOf key).mapM decodeNullable).map fun values => values.getLast?.join

def orDefault (m : Members) (key : String) (default : α) : Option α :=
  (m.optional key).map fun value => value.getD default

/-- A field that, where it is given, has to hold one text. -/
def constant (m : Members) (key text : String) : Option Unit :=
  if (m.valuesOf key).all (fun j => decode j = some text) then some () else none

end Members

end Json

end NfsStorage

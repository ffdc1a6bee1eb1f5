import NfsStorage.Json.Codec

/-!
What a value that is read has to look like. A shape decides which texts a reader takes and where a
text that it does not take goes wrong; what the value means is the codec's affair.
-/

namespace NfsStorage.Json

/-- Whether a field has to be given. A `nullable` field may be missing from an object, but not from
an array that gives the fields in their order. -/
inductive Presence where
  | required
  | nullable
  | defaulted
deriving DecidableEq, Repr

structure FieldRule where
  keys : List String
  presence : Presence
deriving DecidableEq, Repr

/-- How the fields of an object may be written. Those of a `fixed` object may also be given as an
array in their order; of a `lenient` object they may be repeated; an `extensible` object keeps the
fields that it does not know. -/
inductive Style where
  | fixed
  | lenient
  | extensible
deriving DecidableEq, Repr

/-- A `choice` is one of several names, or an object that maps one of them to null. -/
inductive Shape where
  | free
  | scalar (fits : Json → Bool)
  | choice (fits : String → Bool)
  | nullable (shape : Shape)
  | list (item : Shape)
  | dict (value : Shape)
  | object (style : Style) (fields : List (FieldRule × Shape))

/-- A type whose values have a shape of their own. -/
class Shaped (α : Type) where
  shape : Shape

export Shaped (shape)

def Shape.ofCodec (α : Type) [JsonCodec α] : Shape :=
  .scalar fun j => (decode j : Option α).isSome

def Shape.ofNames {α : Type} (named? : String → Option α) : Shape :=
  .choice fun name => (named? name).isSome

instance : Shaped String := ⟨.ofCodec String⟩
instance : Shaped Bool := ⟨.ofCodec Bool⟩
instance : Shaped UInt8 := ⟨.ofCodec UInt8⟩
instance : Shaped UInt16 := ⟨.ofCodec UInt16⟩
instance : Shaped UInt32 := ⟨.ofCodec UInt32⟩
instance : Shaped Int32 := ⟨.ofCodec Int32⟩
instance : Shaped Int64 := ⟨.ofCodec Int64⟩
instance : Shaped Json := ⟨.free⟩

variable {α : Type} [Shaped α]

instance : Shaped (Option α) := ⟨.nullable (shape α)⟩
instance : Shaped (List α) := ⟨.list (shape α)⟩
instance : Shaped (Dict α) := ⟨.dict (shape α)⟩

namespace Shape

def field (key : String) (presence : Presence) (shape : Shape) : FieldRule × Shape :=
  (⟨[key], presence⟩, shape)

def required (α : Type) [Shaped α] (key : String) : FieldRule × Shape :=
  field key .required (shape α)

/-- A field that may be left out everywhere. -/
def defaulted (α : Type) [Shaped α] (key : String) : FieldRule × Shape :=
  field key .defaulted (shape α)

/-- A field that may be null everywhere, and left out of an object. -/
def optional (α : Type) [Shaped α] (key : String) : FieldRule × Shape :=
  field key .nullable (shape (Option α))

/-- A field that may be null or left out everywhere. -/
def member (α : Type) [Shaped α] (key : String) : FieldRule × Shape :=
  field key .defaulted (shape (Option α))

/-- A field that may be left out, but where it is given has to hold one text. -/
def constant (key text : String) : FieldRule × Shape :=
  field key .defaulted (.scalar fun j => decode j = some text)

end Shape

end NfsStorage.Json

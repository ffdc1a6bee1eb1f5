import NfsStorage.Json.Basic

/-!
JSON pointers: `/spec/versions/0` leads from field to field, and through arrays by position.
-/

namespace NfsStorage.Json

/-- Positions are written without superfluous zeros. -/
def position? (part : String) : Option Nat :=
  match part.toList with
  | [] => none
  | '0' :: _ :: _ => none
  | digits => if digits.all (·.isDigit) then part.toNat? else none

def descend : Json → List String → Option Json
  | j, [] => some j
  | .object fields, part :: rest => (fields.lookup part).bind (descend · rest)
  | .array items, part :: rest =>
    (position? part).bind fun n => items[n]?.bind (descend · rest)
  | _, _ :: _ => none

/-- In a part of a pointer `~1` stands for a slash and `~0` for a tilde. -/
def unescapePart (part : String) : String := (part.replace "~1" "/").replace "~0" "~"

/-- The value a pointer leads to. The empty pointer leads to the whole value, and any other starts
with a slash. -/
def at? (j : Json) (pointer : String) : Option Json :=
  if pointer.isEmpty then some j
  else match pointer.splitOn "/" with
    | "" :: parts => j.descend (parts.map unescapePart)
    | _ => none

end NfsStorage.Json

import NfsStorage.Fault
import NfsStorage.Net.Uri

/-!
Addresses of objects on an API server. A name becomes part of the path of a URI as it is, so that
not every name has an address, and a name with a query behind it has the address of what comes
before.
-/

namespace NfsStorage

/-- Why there is no address for a name: it is empty, or holds a character that no URI may hold. -/
inductive AddressError where
  | unnamed
  | unwritable
deriving DecidableEq, Repr

namespace AddressError

instance : Fault AddressError where
  texts
    | unnamed =>
      ["Failed to build request: failed to validate request: A non-empty name is required",
        "failed to validate request: A non-empty name is required"]
    | unwritable =>
      ["Failed to build request: failed to build request: invalid uri character",
        "failed to build request: invalid uri character",
        "invalid uri character"]

end AddressError

namespace Address

/-- What the server sees of a name. -/
def seen (name : String) : String :=
  String.ofList (name.toList.takeWhile (!Net.Uri.isPathEnd ·))

def fault? («namespace» name : String) : Option AddressError :=
  if name = "" then some .unnamed
  else if Net.Uri.isTarget false («namespace» ++ "/" ++ name).toList then none
  else some .unwritable

end Address

end NfsStorage

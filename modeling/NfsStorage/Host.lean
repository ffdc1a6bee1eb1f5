import NfsStorage.Data.Dict
import NfsStorage.Net.Address

/-!
The machine that a program runs on: its files, and the addresses that can be listened at.
-/

namespace NfsStorage

structure Host where
  /-- The text of the file that a path leads to. -/
  file? : String → Option String
  canListen : Net.Address → Bool

namespace Host

/-- The names on the way that a path leads from a directory to a file. A path that begins at the
root, climbs or ends in a directory leads to no file. -/
def wayOf? (path : String) : Option (List (List Char)) :=
  let parts := Text.splitAt '/' path.toList
  let isHere (part : List Char) : Bool := part.isEmpty || part = ['.']
  let climbs := parts.contains ['.', '.']
  if parts.head?.all (·.isEmpty) || parts.getLast?.any isHere || climbs then none
  else some (parts.filter (!isHere ·))

def fileIn (files : Dict String) (path : String) : Option String :=
  (wayOf? path).bind fun way =>
    (files.entries.find? fun entry => wayOf? entry.1 = some way).map (·.2)

end Host

end NfsStorage

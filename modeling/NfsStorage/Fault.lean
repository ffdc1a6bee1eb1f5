/-!
Errors as chains of causes. The text of an error is its own text followed by the texts of its
causes, outermost first.
-/

namespace NfsStorage

def chainText (texts : List String) : String := ": ".intercalate texts

/-- An error with the texts of itself and its causes, outermost first. -/
class Fault (ε : Type) where
  texts : ε → List String

def Fault.own {ε : Type} [Fault ε] (error : ε) : String := (Fault.texts error).headD ""

def Fault.chain {ε : Type} [Fault ε] (error : ε) : String := chainText (Fault.texts error)

end NfsStorage

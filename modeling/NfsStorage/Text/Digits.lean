/-!
Numbers from decimal digits.
-/

namespace NfsStorage.Text

def natOfDigits (digits : List Char) : Nat :=
  digits.foldl (fun n c => 10 * n + (c.toNat - 48)) 0

def areDigits (text : List Char) : Bool := !text.isEmpty && text.all (·.isDigit)

end NfsStorage.Text

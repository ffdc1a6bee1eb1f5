import NfsStorage.Text.Unprintable

/-!
Texts in quotation marks, as error messages show them: quotation marks, backslashes and the common
controls have short escapes, and other characters without a visible form are shown by number.
-/

namespace NfsStorage.Text

def hexDigits (n : Nat) : List Char := Nat.toDigits 16 n

def escapeQuoted (c : Char) : List Char :=
  match c with
  | '\x00' => ['\\', '0']
  | '\t' => ['\\', 't']
  | '\n' => ['\\', 'n']
  | '\r' => ['\\', 'r']
  | '\x22' => ['\\', '\x22']
  | '\\' => ['\\', '\\']
  | c => if isPrintable c then [c] else ['\\', 'u', '\x7b'] ++ hexDigits c.toNat ++ ['\x7d']

def quoted (text : String) : String :=
  String.ofList ('\x22' :: (text.toList.flatMap escapeQuoted ++ ['\x22']))

end NfsStorage.Text

/-!
White space after Unicode (White_Space), and texts trimmed of it.
-/

namespace NfsStorage.Text

def isBlank (c : Char) : Bool :=
  let n := c.toNat
  (0x09 ≤ n && n ≤ 0x0D) || n = 0x20 || n = 0x85 || n = 0xA0 || n = 0x1680 ||
    (0x2000 ≤ n && n ≤ 0x200A) || n = 0x2028 || n = 0x2029 || n = 0x202F || n = 0x205F || n = 0x3000

def skipBlank (text : List Char) : List Char := text.dropWhile isBlank

def trimList (text : List Char) : List Char := (skipBlank (skipBlank text).reverse).reverse

def trim (text : String) : String := String.ofList (trimList text.toList)

def isAllBlank (text : String) : Bool := text.toList.all isBlank

/-- The text after a given beginning, if it begins so. -/
def after? : (beginning text : List Char) → Option (List Char)
  | [], text => some text
  | _ :: _, [] => none
  | a :: beginning, b :: text => if a = b then after? beginning text else none

def splitAt (separator : Char) : List Char → List (List Char)
  | [] => [[]]
  | c :: rest =>
    if c = separator then [] :: splitAt separator rest
    else match splitAt separator rest with
      | [] => [[c]]
      | part :: parts => (c :: part) :: parts

end NfsStorage.Text

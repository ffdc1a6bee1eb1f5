import NfsStorage.Logging.Filter
import NfsStorage.Text.LetterCase
import NfsStorage.Text.Quoted

/-!
The settings of the log: how much is logged, and in which format.
-/

namespace NfsStorage.Logging

/-- The filter that a level stands for. Levels are numbers or names, and anything else is a filter
already; filters are in lower case. -/
def directive (level : String) : String :=
  match Text.trim level with
  | "0" => "error"
  | "1" => "warn"
  | "2" => "info"
  | "3" => "debug"
  | "4" => "trace"
  | given => Text.lower given

inductive Format where
  | plain | json
deriving DecidableEq, Repr

namespace Format

def name : Format → String
  | plain => "Plain"
  | json => "Json"

def lowerAscii (text : String) : String := String.ofList (text.toList.map Char.toLower)

def ofSetting : Option String → Format
  | some value => if lowerAscii value = "json" then json else plain
  | none => plain

end Format

def filter? (level : String) : Option String :=
  let filter := directive level
  if isFilter filter then some filter else none

def refusal (level : String) : String := "invalid log filter " ++ Text.quoted (directive level)

/-- A character of a logged line. Controls that a terminal acts on are shown by number. -/
def shown (c : Char) : List Char :=
  let n := c.toNat
  if n = 0x07 || n = 0x08 || n = 0x0C || n = 0x1B || n = 0x7F then
    ['\\', 'x', Nat.digitChar (n / 16), Nat.digitChar (n % 16)]
  else if 0x80 ≤ n && n ≤ 0x9F then ['\\', 'u', '\x7b'] ++ Text.hexDigits n ++ ['\x7d']
  else [c]

def startupLine (description version target builtTime compiler : String) : String :=
  let line := "INFO Starting " ++ description ++ " version " ++ version ++ ", built for " ++
    target ++ " by " ++ compiler ++ " at " ++ builtTime
  Text.trim (String.ofList (line.toList.flatMap shown))

end NfsStorage.Logging

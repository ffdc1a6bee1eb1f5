import NfsStorage.Data.Dict
import NfsStorage.Text.Blank
import NfsStorage.Text.Digits

/-!
Command lines: flags with values, given as `--name value` or `--name=value`, and commands that have
flags of their own. A flag that is not given may be taken from a variable of the environment. Values
are checked as soon as a flag is complete, so the first fault in the line is the one that counts.
-/

namespace NfsStorage.Cli

inductive UsageError where
  | unknownArgument
  | invalidSubcommand
  | invalidValue
  | valueValidation
  | argumentConflict
  | missingRequiredArgument
  | tooManyValues
  | help
  | helpForMissingSubcommand
deriving DecidableEq, Repr

namespace UsageError

def name : UsageError → String
  | unknownArgument => "UnknownArgument"
  | invalidSubcommand => "InvalidSubcommand"
  | invalidValue => "InvalidValue"
  | valueValidation => "ValueValidation"
  | argumentConflict => "ArgumentConflict"
  | missingRequiredArgument => "MissingRequiredArgument"
  | tooManyValues => "TooManyValues"
  | help => "DisplayHelp"
  | helpForMissingSubcommand => "DisplayHelpOnMissingArgumentOrSubcommand"

/-- Asking for help is no failure, unlike getting it for want of a command. -/
def exitStatus : UsageError → Nat
  | help => 0
  | _ => 2

end UsageError

inductive ValueKind where
  | text
  /-- A path is not empty. -/
  | path
  /-- A number of 64 bits; a plus sign may come before it. -/
  | number
deriving DecidableEq, Repr

def numberOf? (text : String) : Option Nat :=
  let digits := match text.toList with
    | '+' :: rest => rest
    | chars => chars
  let n := Text.natOfDigits digits
  if Text.areDigits digits && n < 18446744073709551616 then some n else none

structure Flag where
  name : String
  kind : ValueKind := .text
  required : Bool := false
deriving DecidableEq, Repr

namespace Flag

def check (flag : Flag) (value : String) : Except UsageError Unit :=
  match flag.kind with
  | .text => .ok ()
  | .path => if value.isEmpty then .error .invalidValue else .ok ()
  | .number => if (numberOf? value).isSome then .ok () else .error .valueValidation

def variableName (flag : Flag) : String :=
  String.ofList (flag.name.toList.map fun c => if c = '-' then '_' else c.toUpper)

end Flag

abbrev Values := Dict String

def store (values : Values) (flag : Flag) (value : String) : Except UsageError Values :=
  if values.contains flag.name then .error .argumentConflict
  else do
    flag.check value
    return values.insert flag.name value

abbrev Pending := Option (Flag × Option String)

def settle (values : Values) : Pending → Except UsageError Values
  | none => .ok values
  | some (_, none) => .error .invalidValue
  | some (flag, some value) => store values flag value

/-- An argument as it looks: after two dashes a name, possibly with a value; after one dash letters;
two dashes alone; or neither. -/
inductive Argument where
  | long (name : String) (value : Option String)
  | short (letter : Char)
  | escape
  | other (text : String)
deriving DecidableEq, Repr

def Argument.ofText (text : String) : Argument :=
  match text.toList with
  | ['-', '-'] => escape
  | '-' :: '-' :: rest =>
    let name := rest.takeWhile (· ≠ '=')
    match rest.drop name.length with
    | [] => long (String.ofList name) none
    | _ :: value => long (String.ofList name) (some (String.ofList value))
  | '-' :: letter :: _ => short letter
  | _ => other text

def readFlags (flags : List Flag) : List String → Values → Pending → Except UsageError Values
  | [], values, pending => settle values pending
  | text :: rest, values, pending =>
    match Argument.ofText text, pending with
    | .escape, _ => if rest.isEmpty then settle values pending else .error .unknownArgument
    | .long "help" none, _ | .short 'h', _ => settle values pending >>= fun _ => .error .help
    | .long "help" (some _), _ => .error .tooManyValues
    | .long name value, _ =>
      match flags.find? (·.name = name), value with
      | none, _ => .error .unknownArgument
      | some flag, none => do
        let values ← settle values pending
        readFlags flags rest values (some (flag, none))
      | some flag, some value => do
        let values ← settle values pending
        let values ← store values flag value
        readFlags flags rest values none
    | .short _, _ => .error .unknownArgument
    | .other value, some (flag, none) => readFlags flags rest values (some (flag, some value))
    | .other _, _ => .error .unknownArgument

def fillIn (environment : Dict String) : List Flag → Values → Except UsageError Values
  | [], values => .ok values
  | flag :: rest, values =>
    match values.contains flag.name, environment.get? flag.variableName with
    | false, some value => do
      let values ← store values flag value
      fillIn environment rest values
    | _, _ => fillIn environment rest values

def checkRequired (flags : List Flag) (values : Values) : Except UsageError Values :=
  if flags.all fun flag => !flag.required || values.contains flag.name then .ok values
  else .error .missingRequiredArgument

def parseFlags (flags : List Flag) (environment : Dict String) (arguments : List String) :
    Except UsageError Values := do
  let given ← readFlags flags arguments ∅ none
  let values ← fillIn environment flags given
  checkRequired flags values

abbrev Commands := List (String × List Flag)

/-- After `help` a command may be named, and nothing after that. -/
def readHelp (commands : Commands) : List String → UsageError
  | [] => .help
  | [name] => if name = "help" || (commands.lookup name).isSome then .help else .invalidSubcommand
  | _ => .invalidSubcommand

def parseCommand (commands : Commands) (environment : Dict String) :
    List String → Except UsageError (String × Values)
  | [] => .error .helpForMissingSubcommand
  | text :: rest =>
    match Argument.ofText text with
    | .escape =>
      match rest with
      | [] => .error .helpForMissingSubcommand
      | name :: _ =>
        if name = "help" || (commands.lookup name).isSome then .error .unknownArgument
        else .error .invalidSubcommand
    | .long "help" none | .short 'h' => .error .help
    | .long "help" (some _) => .error .tooManyValues
    | .long .. | .short _ => .error .unknownArgument
    | .other "help" => .error (readHelp commands rest)
    | .other name =>
      match commands.lookup name with
      | none => .error .invalidSubcommand
      | some flags => (parseFlags flags environment rest).map fun values => (name, values)

end NfsStorage.Cli

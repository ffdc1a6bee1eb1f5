import NfsStorage.Startup
import NfsStorage.Yaml.Printer

/-!
The command line. The first argument names one of the four programs, and the others are its own.
-/

namespace NfsStorage

def readEnvironment : List String → IO (Dict String)
  | [] => return ∅
  | name :: rest => do
    let others ← readEnvironment rest
    match ← IO.getEnv name with
    | some value => return others.insert name value
    | none => return others

def readFiles : List String → IO (Dict String)
  | [] => return ∅
  | path :: rest => do
    let others ← readFiles rest
    try
      return others.insert path (← IO.FS.readFile path)
    catch _ => return others

/-- What a program finds when it starts. Files name more files, so they are read twice. -/
def look (program : ProgramName) (arguments : List String) : IO Surroundings := do
  let environment ← readEnvironment Surroundings.variableNames
  let bare : Surroundings :=
    { file? := fun _ => none
      canListen := fun _ => true
      environment
      clientConfig := environment.get? "KUBECONFIG" }
  let named ← readFiles (bare.filesNamed program arguments)
  let all ← readFiles ({ bare with file? := named.get? }.filesNamed program arguments)
  return { bare with file? := all.get? }

def report : Ending → IO Unit
  | .finished => return
  | .printed document => IO.print (Yaml.render document)
  | .usage error => IO.eprintln error.name
  | .failed error => IO.eprintln error.text

def runNamed : List String → IO UInt32
  | name :: arguments =>
    match ProgramName.ofText? name with
    | some program => do
      let ending := (← look program arguments).start program arguments
      report ending
      return ending.exitStatus.toUInt32
    | none => do
      IO.eprintln ("unknown program " ++ name)
      return 2
  | [] => do
    IO.eprintln "no program given"
    return 2

end NfsStorage

def main (arguments : List String) : IO UInt32 :=
  NfsStorage.runNamed arguments

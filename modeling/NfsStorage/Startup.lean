import NfsStorage.Cli.Programs
import NfsStorage.Client.Access
import NfsStorage.Definition
import NfsStorage.Extender.Settings
import NfsStorage.Logging
import NfsStorage.Serving
import NfsStorage.Teardown

/-!
How the four programs start, and how they end. Each stage of a start may fail, and the first failure
is the end; a program that has started serves until it is told to stop.
-/

namespace NfsStorage

inductive StartupError where
  | loadConfig
  | initLogging
  | initKube
  | healthProbeAddress
  | runHealthServer
  | parseListenAddr
  | runServer
  /-- So many steps of a teardown failed. -/
  | teardown (failed : Nat)
deriving DecidableEq, Repr

def StartupError.name : StartupError → String
  | loadConfig => "LoadConfig"
  | initLogging => "InitLogging"
  | initKube => "InitKube"
  | healthProbeAddress => "HealthProbeAddress"
  | runHealthServer => "RunHealthServer"
  | parseListenAddr => "ParseListenAddr"
  | runServer => "RunServer"
  | teardown _ => "Teardown"

def StartupError.text : StartupError → String
  | loadConfig => "failed to load configuration"
  | initLogging => "failed to initialize logging"
  | initKube => "failed to initialize Kubernetes client"
  | healthProbeAddress => "invalid health probe address"
  | runHealthServer => "failed to run health probe server"
  | parseListenAddr => "failed to parse listen address"
  | runServer => "failed to run server"
  | teardown failed => "teardown finished with " ++ toString failed ++ " failed step(s)"

inductive Ending where
  | finished
  /-- The definition of the declarations was printed. -/
  | printed (document : Json)
  | usage (error : Cli.UsageError)
  | failed (error : StartupError)

def Ending.exitStatus : Ending → Nat
  | finished | printed _ => 0
  | usage error => error.exitStatus
  | failed _ => 1

structure Surroundings extends Host where
  environment : Dict String := ∅
  /-- The files that say how to reach the API server. -/
  clientConfig : Option String := none

inductive ProgramName where
  | controller | scheduler | webhooks | hooks
deriving DecidableEq, Repr

def ProgramName.ofText? : String → Option ProgramName
  | "controller" => some controller
  | "scheduler" => some scheduler
  | "webhooks" => some webhooks
  | "hooks" => some hooks
  | _ => none

/-- What a program answers when every request fails for one cause. -/
def Program.refused {α : Type} (cause : StoreError) : Program α → α
  | .done a => a
  | .request _ next => (next (.error cause)).refused cause
  | .sleep _ next => next.refused cause

namespace Surroundings

def stage {ε α : Type} (error : StartupError) : Except ε α → Except StartupError α
  | .ok a => .ok a
  | .error _ => .error error

def initLogging (level : String) : Except StartupError Unit :=
  if (Logging.filter? level).isSome then .ok () else .error .initLogging

def logLevel (s : Surroundings) (default : String) : String :=
  (s.environment.get? "LOG_LEVEL").getD default

def initClient (s : Surroundings) : Except StartupError Unit :=
  if s.clientConfig.any (Client.canConnect s.toHost s.environment) then .ok ()
  else .error .initKube

def endingOf : Except StartupError Unit → Ending
  | .ok () => .finished
  | .error e => .failed e

/-- The controller serves probes of health while it waits to lead. -/
def runController (s : Surroundings) (options : Cli.ControllerOptions) :
    Except StartupError Unit := do
  initLogging (s.logLevel "debug")
  s.initClient
  let address ← stage .healthProbeAddress (Host.parseAddress options.healthAddress)
  stage .runHealthServer (s.serve address)

def readSettings (s : Surroundings) (path : String) :
    Except Extender.SettingsError Extender.PartialSettings :=
  match s.file? path with
  | none => .error (.unreadable path)
  | some content => Extender.PartialSettings.ofYaml content

def parseAddresses (settings : Extender.Settings) :
    Except StartupError (Net.Address × Option Net.Address) := do
  let listen ← stage .parseListenAddr (Host.parseAddress settings.listen)
  let health ← stage .parseListenAddr (settings.healthProbeBindAddress.mapM Host.parseAddress)
  return (listen, health)

/-- The extender answers the scheduler, and probes of health at an address of their own if one is
set. -/
def runScheduler (s : Surroundings) (values : Cli.Values) : Except StartupError Unit := do
  let settings ← stage .loadConfig (Extender.Settings.load s.readSettings values)
  initLogging settings.logLevel
  s.initClient
  let (listen, health) ← parseAddresses settings
  stage .runServer (s.serveTls listen settings.certFile settings.keyFile)
  stage .runServer (health.forM s.serve)

def runWebhooks (s : Surroundings) (options : Cli.WebhookOptions) : Except StartupError Unit := do
  initLogging (s.logLevel "info")
  s.initClient
  let address ← stage .parseListenAddr (Host.parseAddress options.listen)
  stage .runServer (s.serveTls address options.certFile options.keyFile)

/-- A teardown with a server that answers nothing. -/
def runTeardown (s : Surroundings) : Except StartupError Unit := do
  initLogging (s.logLevel "info")
  s.initClient
  let failed := (Teardown.run.refused .undecodable).length
  if failed = 0 then .ok () else .error (.teardown failed)

/-- Start a program, and tell how it ends. The API server that it is given answers no request. -/
def start (s : Surroundings) (program : ProgramName) (arguments : List String) : Ending :=
  match program with
  | .controller =>
    match Cli.ControllerCommand.parse s.environment arguments with
    | .error e => .usage e
    | .ok .crd => .printed Definition.document
    | .ok (.run options) => endingOf (s.runController options)
  | .scheduler =>
    match Cli.parseFlags Cli.extenderFlags s.environment arguments with
    | .error e => .usage e
    | .ok values => endingOf (s.runScheduler values)
  | .webhooks =>
    match Cli.WebhookOptions.parse s.environment arguments with
    | .error e => .usage e
    | .ok options => endingOf (s.runWebhooks options)
  | .hooks =>
    match Cli.TeardownOptions.parse s.environment arguments with
    | .error e => .usage e
    | .ok _ => endingOf s.runTeardown

def variableNames : List String :=
  ["LOG_LEVEL", "LOG_FORMAT", "KUBECONFIG"] ++ Client.Server.proxyVariables ++
    (Cli.controllerFlags ++ Cli.webhookFlags ++ Cli.extenderFlags).map Cli.Flag.variableName

/-- The files that a program is going to read, as far as the files that are known name them. -/
def filesNamed (s : Surroundings) (program : ProgramName) (arguments : List String) : List String :=
  let clientConfig := s.clientConfig.getD ""
  Client.pathsOf clientConfig ++ Client.filesNamed s.toHost clientConfig ++ match program with
    | .controller | .hooks => []
    | .webhooks =>
      match Cli.WebhookOptions.parse s.environment arguments with
      | .ok options => [options.certFile, options.keyFile]
      | .error _ => []
    | .scheduler =>
      match Cli.parseFlags Cli.extenderFlags s.environment arguments with
      | .ok values => (values.get? "config").toList ++
          match Extender.Settings.load s.readSettings values with
          | .ok settings => [settings.certFile, settings.keyFile]
          | .error _ => []
      | .error _ => []

end Surroundings

end NfsStorage

import NfsStorage.Cli.Flags
import NfsStorage.Resource.Names

/-!
The command lines of the four programs: the controller, the extender of the scheduler, the webhooks
and the hook that runs before the module is removed.
-/

namespace NfsStorage.Cli

structure ControllerOptions where
  controllerNamespace : Option String
  healthAddress : String
  /-- Both intervals are in seconds. -/
  requeueInterval : Nat
  nodeSelectorInterval : Nat
deriving DecidableEq, Repr

inductive ControllerCommand where
  /-- Print the definition of the declarations. -/
  | crd
  | run (options : ControllerOptions)
deriving DecidableEq, Repr

def controllerFlags : List Flag :=
  [⟨"controller-namespace", .text, false⟩, ⟨"health-probe-bind-address", .text, false⟩,
    ⟨"requeue-interval", .number, false⟩, ⟨"node-selector-interval", .number, false⟩]

def defaultInterval : Nat := 10

def interval (values : Values) (name : String) : Nat :=
  ((values.get? name).bind numberOf?).getD defaultInterval

def ControllerCommand.parse (environment : Dict String) (arguments : List String) :
    Except UsageError ControllerCommand := do
  let (command, values) ←
    parseCommand [("crd", []), ("run", controllerFlags)] environment arguments
  if command = "crd" then return .crd
  else return .run {
    controllerNamespace := values.get? "controller-namespace"
    healthAddress := (values.get? "health-probe-bind-address").getD ":8081"
    requeueInterval := interval values "requeue-interval"
    nodeSelectorInterval := interval values "node-selector-interval" }

structure WebhookOptions where
  certFile : String
  keyFile : String
  listen : String
deriving DecidableEq, Repr

def webhookFlags : List Flag :=
  [⟨"tls-cert-file", .path, true⟩, ⟨"tls-key-file", .path, true⟩, ⟨"listen", .text, false⟩]

def WebhookOptions.parse (environment : Dict String) (arguments : List String) :
    Except UsageError WebhookOptions := do
  let values ← parseFlags webhookFlags environment arguments
  return {
    certFile := (values.get? "tls-cert-file").getD ""
    keyFile := (values.get? "tls-key-file").getD ""
    listen := (values.get? "listen").getD ":8443" }

structure TeardownOptions where
  controllerNamespace : Option String
deriving DecidableEq, Repr

def TeardownOptions.parse (environment : Dict String) (arguments : List String) :
    Except UsageError TeardownOptions := do
  let (_, values) ← parseCommand
    [("teardown", [⟨"controller-namespace", .text, false⟩])] environment arguments
  return { controllerNamespace := values.get? "controller-namespace" }

def extenderFlags : List Flag :=
  [⟨"config", .path, false⟩, ⟨"listen", .text, false⟩, ⟨"log-level", .text, false⟩,
    ⟨"tls-cert-file", .path, false⟩, ⟨"tls-key-file", .path, false⟩,
    ⟨"health-probe-bind-address", .text, false⟩]

/-- The first of some namespaces that is not blank, trimmed, or else the default as it is. -/
def chooseNamespace (explicit fromFile : Option String) (default : String) : String :=
  (([explicit, fromFile].filterMap fun given => (given.map Text.trim).filter (· ≠ "")).head?).getD
    default

def identityBeginning (hostname : Option String) : String := hostname.getD "unknown" ++ "_"

end NfsStorage.Cli

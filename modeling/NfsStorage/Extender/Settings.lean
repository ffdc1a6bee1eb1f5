import NfsStorage.Cli.Programs
import NfsStorage.Text.Quoted
import NfsStorage.Yaml.Document

/-!
The settings of the extender. They are given in a YAML file and by flags, and the flags win.
-/

namespace NfsStorage.Extender

structure PartialSettings where
  listen : Option String := none
  logLevel : Option String := none
  certFile : Option String := none
  keyFile : Option String := none
  healthProbeBindAddress : Option String := none
deriving DecidableEq, Repr

structure Settings where
  listen : String
  logLevel : String
  certFile : String
  keyFile : String
  /-- Where probes of health are answered, if anywhere. -/
  healthProbeBindAddress : Option String
deriving DecidableEq, Repr

inductive SettingsError where
  | unreadable (path : String)
  | malformed
deriving DecidableEq, Repr

def SettingsError.text : SettingsError → String
  | unreadable path => "unable to read config file from " ++ Text.quoted path
  | malformed => "unable to parse config file"

namespace PartialSettings

/-- The value of a key among the entries of a document. A key may be given once, and has a scalar;
null is no value. -/
def setting? (d : Yaml.Document) (entries : List (String × Yaml.Node)) (key : String) :
    Option (Option String) :=
  match entries.filter (·.1 = key) with
  | [] => some none
  | [(_, node)] => d.optionalText? node
  | _ => none

/-- The settings of a document. Keys that mean nothing to the extender are ignored. -/
def ofDocument? (d : Yaml.Document) : Option PartialSettings :=
  match d.root.content with
  | .mapping given => do
    let entries ← given.mapM fun (key, value) => (d.text? key).map fun key => (key, value)
    return {
      listen := ← setting? d entries "listen"
      logLevel := ← setting? d entries "log-level"
      certFile := ← setting? d entries "cert-file"
      keyFile := ← setting? d entries "key-file"
      healthProbeBindAddress := ← setting? d entries "health-probe-bind-address" }
  | .scalar "" true _ => some {}
  | _ => none

def ofYaml (text : String) : Except SettingsError PartialSettings :=
  if Text.isAllBlank text then .ok {}
  else match Yaml.document? text with
    | none => .error .malformed
    | some none => .ok {}
    | some (some d) =>
      match ofDocument? d with
      | some settings => .ok settings
      | none => .error .malformed

def ofFlags (values : Cli.Values) : PartialSettings :=
  { listen := values.get? "listen"
    logLevel := values.get? "log-level"
    certFile := values.get? "tls-cert-file"
    keyFile := values.get? "tls-key-file"
    healthProbeBindAddress := values.get? "health-probe-bind-address" }

def orElse (first second : PartialSettings) : PartialSettings :=
  { listen := first.listen <|> second.listen
    logLevel := first.logLevel <|> second.logLevel
    certFile := first.certFile <|> second.certFile
    keyFile := first.keyFile <|> second.keyFile
    healthProbeBindAddress := first.healthProbeBindAddress <|> second.healthProbeBindAddress }

/-- The settings in full. An empty address for probes means none. -/
def complete (s : PartialSettings) : Settings :=
  { listen := s.listen.getD ":8000"
    logLevel := s.logLevel.getD "2"
    certFile := s.certFile.getD "/etc/csi-nfs-scheduler-extender/certs/tls.crt"
    keyFile := s.keyFile.getD "/etc/csi-nfs-scheduler-extender/certs/tls.key"
    healthProbeBindAddress := s.healthProbeBindAddress.filter (· ≠ "") }

end PartialSettings

def Settings.load (read : String → Except SettingsError PartialSettings) (values : Cli.Values) :
    Except SettingsError Settings := do
  let fromFile ← match values.get? "config" with
    | some path => read path
    | none => .ok {}
  return ((PartialSettings.ofFlags values).orElse fromFile).complete

end NfsStorage.Extender

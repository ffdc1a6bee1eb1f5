import NfsStorage.Resource.Declaration
import NfsStorage.Resource.ModuleConfig

/-!
Which declarations a module configuration admits. The controllers and the admission webhooks all go
by `ModuleConfig.validate`, which names the first rule that a declaration breaks.
-/

namespace NfsStorage

inductive MtlsGap where
  | all | clientCert | clientKey
deriving DecidableEq, Repr

inductive Violation where
  | v3Missing
  | v3Disabled
  | tlsUnsupported
  | tlsParametersMissing
  | caMissing
  | mtlsMissing (gap : MtlsGap)
deriving DecidableEq, Repr

namespace Violation

/-- The stable name of a violation, which begins the reason in a status. -/
def code : Violation → String
  | v3Missing | v3Disabled => "v3-disabled"
  | tlsUnsupported => "tls-not-supported"
  | tlsParametersMissing | caMissing => "missing-ca"
  | mtlsMissing _ => "missing-mtls-material"

def combination (config declaration problem use : String) : String :=
  "ModuleConfig: " ++ config ++ " (" ++ problem ++ "); NFSStorageClass: " ++ declaration ++
    " (" ++ use ++ "); Such a combination of parameters is not allowed"

def message (config declaration : String) : Violation → String
  | v3Missing =>
    combination config declaration "the v3support parameter is missing" "nfsVersion is set to 3"
  | v3Disabled =>
    combination config declaration "the v3support parameter is disabled" "nfsVersion is set to 3"
  | tlsUnsupported =>
    "RPC-with-TLS related parameters are not allowed because feature TLSEnabled: false"
  | tlsParametersMissing =>
    combination config declaration "the tlsParameters parameter is missing" "tls or mtls is enabled"
  | caMissing =>
    combination config declaration
      "the tlsParameters.ca parameter is either missing or has a zero length"
      "tls or mtls is enabled"
  | mtlsMissing gap =>
    combination config declaration
      (match gap with
        | .all => "the tlsParameters.mtls parameter is missing"
        | .clientCert =>
          "the tlsParameters.mtls.clientCert parameter is either missing or has a zero length"
        | .clientKey =>
          "the tlsParameters.mtls.clientKey parameter is either missing or has a zero length")
      "mtls is enabled"

end Violation

def isBlankParameter (value : Option String) : Bool := value.getD "" = ""

namespace ModuleConfig

def validateVersion (config : ModuleConfig) (declaration : Declaration) : Except Violation Unit :=
  if declaration.spec.connection.nfsVersion = .v3 then
    match config.spec.settings.v3support with
    | none => .error .v3Missing
    | some false => .error .v3Disabled
    | some true => .ok ()
  else .ok ()

def validateMtls (parameters : TlsParameters) : Except Violation Unit :=
  match parameters.mtls with
  | none => .error (.mtlsMissing .all)
  | some material =>
    if isBlankParameter material.clientCert then .error (.mtlsMissing .clientCert)
    else if isBlankParameter material.clientKey then .error (.mtlsMissing .clientKey)
    else .ok ()

/-- With TLS compiled off neither side may ask for it. -/
def validateTls (tls : Bool) (config : ModuleConfig) (declaration : Declaration) :
    Except Violation Unit :=
  let connection := declaration.spec.connection
  let wanted := connection.tls || connection.mtls
  if !tls then
    if wanted || config.spec.settings.tlsParameters.isSome then .error .tlsUnsupported else .ok ()
  else if !wanted then .ok ()
  else match config.spec.settings.tlsParameters with
    | none => .error .tlsParametersMissing
    | some parameters =>
      if isBlankParameter parameters.ca then .error .caMissing
      else if connection.mtls then validateMtls parameters
      else .ok ()

def validate (tls : Bool) (config : ModuleConfig) (declaration : Declaration) :
    Except Violation Unit := do
  config.validateVersion declaration
  config.validateTls tls declaration

def violationText (config : ModuleConfig) (declaration : Declaration) (violation : Violation) :
    String :=
  violation.message config.name declaration.name

end ModuleConfig

end NfsStorage

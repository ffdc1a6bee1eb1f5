import NfsStorage.Client.Config
import NfsStorage.Host
import NfsStorage.Net.Uri
import NfsStorage.Tls.Bundle
import NfsStorage.Tls.KeyPair

/-!
Whether a client of an API server can be made of what files say about it.
-/

namespace NfsStorage.Client

def pathsOf (list : String) : List String :=
  ((Text.splitAt ':' list.toList).map String.ofList).filter (· ≠ "")

def configOf? (host : Host) (paths : List String) : Option Config := do
  if paths.isEmpty then none
  Config.mergeAll? (← paths.mapM fun path =>
    ((host.file? path).bind Config.ofText?).map (·.beside (directoryOf path)))

/-- Data that is given in base64, or else in a file. -/
def dataOf? (host : Host) (data file : Option String) : Option Bytes :=
  match data with
  | some text => Base64.decode text.toList
  | none => (file.bind host.file?).map Bytes.ofText

namespace Server

def hasAuthorities (host : Host) (s : Server) : Bool :=
  if s.authorityData.isNone && s.authorityFile.isNone then true
  else match (dataOf? host s.authorityData s.authorityFile).bind Tls.bundled? with
    | some certificates => certificates.all fun bytes => (Tls.Certificate.publicKey? bytes).isSome
    | none => false

def proxyVariables : List String := ["HTTP_PROXY", "http_proxy", "HTTPS_PROXY", "https_proxy"]

/-- A server is reached by its own address, and not through a proxy. -/
def isUsable (host : Host) (environment : Dict String) (s : Server) : Bool :=
  s.address.any Net.Uri.isUri && s.hasAuthorities host && s.proxy.all (· = "") &&
    proxyVariables.all fun name => (environment.get? name).all (· = "")

end Server

namespace User

/-- The first way that is given of showing who a user is. No command is run. -/
def hasCredentials (host : Host) (u : User) : Bool :=
  match u.provider, u.tokenFile with
  | some provider, _ => provider.hasToken
  | none, tokenFile =>
    if (u.username.isSome && u.password.isSome) || u.token.isSome then true
    else match tokenFile with
      | some path => (host.file? path).isSome
      | none => !u.runsCommand

/-- A certificate that can be read together with its key has to fit it. -/
def hasIdentity (host : Host) (u : User) : Bool :=
  match dataOf? host u.certificateData u.certificateFile, dataOf? host u.keyData u.keyFile with
  | some certificate, some key =>
    Tls.isIdentity (key ++ [0x0A] ++ certificate)
  | _, _ => true

end User

def canConnect (host : Host) (environment : Dict String) (list : String) : Bool :=
  match (configOf? host (pathsOf list)).bind Config.current? with
  | some (server, user) =>
    server.isUsable host environment && user.hasCredentials host && user.hasIdentity host
  | none => false

def filesNamed (host : Host) (list : String) : List String :=
  match (configOf? host (pathsOf list)).bind Config.current? with
  | some (server, user) =>
    server.authorityFile.toList ++ user.tokenFile.toList ++ user.certificateFile.toList ++
      user.keyFile.toList
  | none => []

end NfsStorage.Client

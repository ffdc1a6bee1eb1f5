import NfsStorage.Host
import NfsStorage.Tls.KeyPair

/-!
What a server needs in order to serve: an address that it can listen at, and for TLS a certificate
with its key.
-/

namespace NfsStorage

inductive ServeError where
  | parseAddress (address : String)
  | bindListener
  | loadCertificate (certFile keyFile : String)
  | runServer
deriving DecidableEq, Repr

namespace ServeError

def name : ServeError → String
  | parseAddress _ => "ParseAddress"
  | bindListener => "BindListener"
  | loadCertificate .. => "LoadCertificate"
  | runServer => "RunServer"

def text : ServeError → String
  | parseAddress address => Net.Address.refusal address
  | bindListener => "failed to bind listener"
  | loadCertificate certFile keyFile =>
    "failed to load TLS certificate " ++ Text.quoted certFile ++ " and key " ++ Text.quoted keyFile
  | runServer => "failed to run server"

end ServeError

namespace Host

def parseAddress (address : String) : Except ServeError Net.Address :=
  match Net.Address.ofListen? address with
  | some parsed => .ok parsed
  | none => .error (.parseAddress address)

def hasKeyPair (host : Host) (certFile keyFile : String) : Bool :=
  match host.file? certFile, host.file? keyFile with
  | some certificates, some key => Tls.areKeyPair (.ofText certificates) (.ofText key)
  | _, _ => false

def serve (host : Host) (address : Net.Address) : Except ServeError Unit :=
  if host.canListen address then .ok () else .error .bindListener

/-- Serve over TLS until shutdown. The certificate is loaded before the address is taken. -/
def serveTls (host : Host) (address : Net.Address) (certFile keyFile : String) :
    Except ServeError Unit :=
  if !host.hasKeyPair certFile keyFile then .error (.loadCertificate certFile keyFile)
  else if host.canListen address then .ok ()
  else .error .runServer

end Host

end NfsStorage

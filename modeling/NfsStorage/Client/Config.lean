import NfsStorage.Yaml.Document
import NfsStorage.Yaml.Value

/-!
The files that say how to reach an API server. A file lists servers, users and contexts by name; a
context is a server together with a user, and one of the contexts is the current one.
-/

namespace NfsStorage.Client

open Yaml

abbrev Fields := List (String × Value)

/-- A mapping whose keys are texts. Null is an empty one. -/
def fields? : Value → Option Fields
  | .null => some []
  | .mapping entries => entries.mapM fun
    | (.string key, value) => some (key, value)
    | _ => none
  | _ => none

def text? : Value → Option String
  | .string value => some value
  | _ => none

def flag? : Value → Option Bool
  | .bool value => some value
  | _ => none

def listOf? {α : Type} (read : Value → Option α) : Value → Option (List α)
  | .list items => items.mapM read
  | _ => none

def texts? (value : Value) : Option Unit := do
  let fields ← fields? value
  if (fields.all fun field => (text? field.2).isSome) then return () else none

namespace Fields

variable {α : Type}

def optional (f : Fields) (key : String) (read : Value → Option α) : Option (Option α) :=
  match f.lookup key with
  | none | some .null => some none
  | some value => (read value).map some

def required (f : Fields) (key : String) (read : Value → Option α) : Option α :=
  (f.lookup key).bind read

def named (f : Fields) (key : String) (content : String) (read : Fields → Option α) :
    Option (List (String × Option α)) := do
  let items ← f.optional key (listOf? fun item => do
    let fields ← fields? item
    let name ← fields.required "name" text?
    let value ← fields.optional content fun value => (fields? value).bind read
    return (name, value))
  return items.getD []

/-- Extensions are not used, but have to be in order. -/
def checkExtensions (f : Fields) : Option Unit := do
  let _ ← f.optional "extensions" (listOf? fun item => do
    let fields ← fields? item
    let _ ← fields.required "name" text?
    fields.lookup "extension")

end Fields

/-- Where a path leads to from a directory, which is empty or ends in a slash. -/
def pathFrom (directory path : String) : String :=
  if path.toList.head? = some '/' then path else directory ++ path

def directoryOf (path : String) : String :=
  String.ofList (path.toList.reverse.dropWhile (· ≠ '/')).reverse

/-- How to reach a server. Its authority is a certificate that its own has to be signed with. -/
structure Server where
  address : Option String
  authorityFile : Option String
  authorityData : Option String
  proxy : Option String

namespace Server

def ofFields? (f : Fields) : Option Server := do
  let _ ← f.optional "insecure-skip-tls-verify" flag?
  let _ ← f.optional "disable-compression" flag?
  let _ ← f.optional "tls-server-name" text?
  f.checkExtensions
  return {
    address := ← f.optional "server" text?
    authorityFile := ← f.optional "certificate-authority" text?
    authorityData := ← f.optional "certificate-authority-data" text?
    proxy := ← f.optional "proxy-url" text? }

/-- The files that a server names in a file stand beside it. -/
def beside (directory : String) (s : Server) : Server :=
  { s with authorityFile := s.authorityFile.map (pathFrom directory) }

end Server

structure Provider where
  name : String
  /-- A token that has been given already. -/
  idToken : Option String

namespace Provider

def ofFields? (f : Fields) : Option Provider := do
  let name ← f.required "name" text?
  match f.lookup "config" with
  | some config =>
    let _ ← texts? config
    let idToken := ((← fields? config).lookup "id-token").bind text?
    return { name, idToken }
  | none => return { name, idToken := none }

/-- The providers whose tokens are understood. Nobody is asked for a new one. -/
def hasToken (p : Provider) : Bool := ["oidc", "gcp"].contains p.name && p.idToken.isSome

end Provider

/-- How a user shows who it is. -/
structure User where
  username : Option String := none
  password : Option String := none
  token : Option String := none
  tokenFile : Option String := none
  certificateFile : Option String := none
  certificateData : Option String := none
  keyFile : Option String := none
  keyData : Option String := none
  provider : Option Provider := none
  /-- A command is run for a token. -/
  runsCommand : Bool := false

namespace User

def checkCommand (value : Value) : Option Unit := do
  let f ← fields? value
  let _ ← f.optional "apiVersion" text?
  let _ ← f.optional "command" text?
  let _ ← f.optional "args" (listOf? text?)
  let _ ← f.optional "env" (listOf? texts?)
  let _ ← f.optional "interactiveMode" fun value => (text? value).filter
    ["Never", "IfAvailable", "Always"].contains
  match f.lookup "provideClusterInfo" with
  | some value => (flag? value).map fun _ => ()
  | none => return ()

def ofFields? (f : Fields) : Option User := do
  let _ ← f.optional "as" text?
  let _ ← f.optional "as-groups" (listOf? text?)
  return {
    username := ← f.optional "username" text?
    password := ← f.optional "password" text?
    token := ← f.optional "token" text?
    tokenFile := ← f.optional "tokenFile" text?
    certificateFile := ← f.optional "client-certificate" text?
    certificateData := ← f.optional "client-certificate-data" text?
    keyFile := ← f.optional "client-key" text?
    keyData := ← f.optional "client-key-data" text?
    provider := ← f.optional "auth-provider" fun value => (fields? value).bind Provider.ofFields?
    runsCommand := (← f.optional "exec" checkCommand).isSome }

def beside (directory : String) (u : User) : User :=
  { u with
    tokenFile := u.tokenFile.map (pathFrom directory)
    certificateFile := u.certificateFile.map (pathFrom directory)
    keyFile := u.keyFile.map (pathFrom directory) }

end User

structure Context where
  server : String
  user : Option String

namespace Context

def ofFields? (f : Fields) : Option Context := do
  let _ ← f.optional "namespace" text?
  f.checkExtensions
  return {
    server := ← f.required "cluster" text?
    user := ← f.optional "user" text? }

end Context

/-- What a file says. An item may be named without being described. -/
structure Config where
  kind : Option String := none
  apiVersion : Option String := none
  servers : List (String × Option Server) := []
  users : List (String × Option User) := []
  contexts : List (String × Option Context) := []
  currentContext : Option String := none

namespace Config

def checkPreferences (value : Value) : Option Unit := do
  let f ← fields? value
  let _ ← f.optional "colors" flag?
  f.checkExtensions

def ofValue? (value : Value) : Option Config := do
  let f ← fields? value
  let _ ← f.optional "preferences" checkPreferences
  f.checkExtensions
  return {
    kind := ← f.optional "kind" text?
    apiVersion := ← f.optional "apiVersion" text?
    servers := ← f.named "clusters" "cluster" Server.ofFields?
    users := ← f.named "users" "user" User.ofFields?
    contexts := ← f.named "contexts" "context" Context.ofFields?
    currentContext := ← f.optional "current-context" text? }

/-- Items of new names are added to a list. -/
def addNew {α : Type} (items more : List (String × α)) : List (String × α) :=
  items ++ more.filter fun item => (items.lookup item.1).isNone

/-- Two texts that are both given have to be the same. -/
def agree (a b : Option String) : Bool := a.isNone || b.isNone || a = b

/-- What comes first counts. -/
def merge? (first second : Config) : Option Config :=
  if agree first.kind second.kind && agree first.apiVersion second.apiVersion then
    some {
      kind := first.kind <|> second.kind
      apiVersion := first.apiVersion <|> second.apiVersion
      servers := addNew first.servers second.servers
      users := addNew first.users second.users
      contexts := addNew first.contexts second.contexts
      currentContext := first.currentContext <|> second.currentContext }
  else none

def beside (directory : String) (c : Config) : Config :=
  { c with
    servers := c.servers.map fun (name, server?) => (name, server?.map (·.beside directory))
    users := c.users.map fun (name, user?) => (name, user?.map (·.beside directory)) }

def mergeAll? (configs : List Config) : Option Config := configs.foldlM merge? {}

def ofText? (text : String) : Option Config := do
  let documents ← documents? text
  mergeAll? (← documents.mapM fun d => d.value?.bind ofValue?)

/-- The server and the user of the current context. A user who is not described has nothing to
show. -/
def current? (c : Config) : Option (Server × User) := do
  let context ← (c.contexts.lookup (← c.currentContext)).join
  let server ← (c.servers.lookup context.server).join
  let user? := context.user.bind fun name => (c.users.lookup name).join
  return (server, user?.getD {})

end Config

end NfsStorage.Client

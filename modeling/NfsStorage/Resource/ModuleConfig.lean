import NfsStorage.Resource.Metadata

/-!
The configuration of the module. Settings that the controllers do not act on are kept as they were
given.
-/

namespace NfsStorage

open Json

structure MtlsParameters where
  clientCert : Option String := none
  clientKey : Option String := none
deriving DecidableEq

instance : JsonCodec MtlsParameters where
  decode j := do
    let r ← Record.ofJson? ["clientCert", "clientKey"] j
    return {
      clientCert := ← r.optional "clientCert"
      clientKey := ← r.optional "clientKey" }
  encode p := .object (fieldOf? "clientCert" p.clientCert ++ fieldOf? "clientKey" p.clientKey)

instance : Shaped MtlsParameters := ⟨.object .fixed [
  Shape.member String "clientCert",
  Shape.member String "clientKey"]⟩

structure TlsParameters where
  ca : Option String := none
  mtls : Option MtlsParameters := none
deriving DecidableEq

instance : JsonCodec TlsParameters where
  decode j := do
    let r ← Record.ofJson? ["ca", "mtls"] j
    return {
      ca := ← r.optional "ca"
      mtls := ← r.optional "mtls" }
  encode p := .object (fieldOf? "ca" p.ca ++ fieldOf? "mtls" p.mtls)

instance : Shaped TlsParameters := ⟨.object .fixed [
  Shape.member String "ca",
  Shape.member MtlsParameters "mtls"]⟩

structure ModuleSettings where
  v3support : Option Bool := none
  tlsParameters : Option TlsParameters := none
  other : Dict Json := ∅

namespace ModuleSettings

def interpreted : List String := ["v3support", "tlsParameters"]

instance : JsonCodec ModuleSettings where
  decode
    | .object fields => do
      let r : Record := ⟨fields, false⟩
      let rest ← decodeEntries (fields.filter fun field => !interpreted.contains field.1)
      return {
        v3support := ← r.optional "v3support"
        tlsParameters := ← r.optional "tlsParameters"
        other := Dict.ofList rest }
    | _ => none
  encode s := .object (
    fieldOf? "v3support" s.v3support ++
    fieldOf? "tlsParameters" s.tlsParameters ++
    s.other.entries)

instance : Shaped ModuleSettings := ⟨.object .extensible [
  Shape.member Bool "v3support",
  Shape.member TlsParameters "tlsParameters"]⟩

end ModuleSettings

structure ModuleConfigSpec where
  enabled : Option Bool := none
  version : Option Int64 := none
  settings : ModuleSettings := {}

instance : JsonCodec ModuleConfigSpec where
  decode j := do
    let r ← Record.ofJson? ["enabled", "version", "settings"] j
    return {
      enabled := ← r.optional "enabled"
      version := ← r.optional "version"
      settings := ← r.orDefault "settings" {} }
  encode s := .object (
    fieldOf? "enabled" s.enabled ++
    fieldOf? "version" s.version ++
    fieldOf "settings" s.settings)

instance : Shaped ModuleConfigSpec := ⟨.object .fixed [
  Shape.member Bool "enabled",
  Shape.member Int64 "version",
  Shape.defaulted ModuleSettings "settings"]⟩

structure ModuleConfig where
  metadata : Metadata
  spec : ModuleConfigSpec

namespace ModuleConfig

def singleton : String := "csi-nfs"

instance : Resource ModuleConfig where
  decode j := do
    let r ← Record.ofJson? ["metadata", "spec"] j
    return {
      metadata := ← r.required "metadata"
      spec := ← r.required "spec" }
  encode c := .object (
    fieldOf "apiVersion" "deckhouse.io/v1alpha1" ++
    fieldOf "kind" "ModuleConfig" ++
    fieldOf "metadata" c.metadata ++
    fieldOf "spec" c.spec)
  metadata := metadata
  withMetadata c m := { c with metadata := m }

instance : Shaped ModuleConfig := ⟨.object .fixed [
  Shape.required Metadata "metadata",
  Shape.required ModuleConfigSpec "spec"]⟩

/-- Stands in while the configuration does not exist. -/
def unset : ModuleConfig := ⟨{ name := some singleton }, {}⟩

instance : Inhabited ModuleConfig := ⟨unset⟩

def name (c : ModuleConfig) : String := c.metadata.nameAny

end ModuleConfig

end NfsStorage

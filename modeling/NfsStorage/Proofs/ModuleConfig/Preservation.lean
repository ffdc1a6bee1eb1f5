import NfsStorage.Json.Pointer
import NfsStorage.Proofs.Codec.Settings

/-!
# What is kept of module settings

Settings that the controllers do not act on are kept beside those that they do, whatever stands in
them. The interpreted ones are kept if they are not null; but `tlsParameters`, and `mtls` in them,
are written with their interpreted fields only, so that an unknown field in there is lost.
`settings_written` says of every field of the settings what is written of it.
-/

namespace NfsStorage

open Json

namespace Json

def Record.present (r : Record) (key : String) : Option Json := (r.given key).filter (!·.isNull)

/-- Of a record, the known fields that are not null, each with what is kept of its value. -/
def keepKnown (known : List (String × (Json → Json))) (j : Json) : Json :=
  .object <| (Record.ofJson? (known.map Prod.fst) j).toList.flatMap fun r =>
    known.flatMap fun (key, kept) => ((r.present key).map kept).toList.map (key, ·)

variable {α : Type} [JsonCodec α]

/-- What is written of an optional field is what is kept of the value that it was read from. -/
theorem Record.map_encode_of_optional {r : Record} {key : String} {value : Option α}
    {kept : Json → Json} (faithful : ∀ {j : Json} {a : α}, decode j = some a → encode a = kept j)
    (read : r.optional key = some value) : value.map encode = (r.present key).map kept := by
  obtain ⟨found, single, decoded⟩ := Option.bind_eq_some_iff.mp read
  rw [present, given, single]
  cases found with
  | none =>
      obtain rfl := Option.some.inj decoded
      rfl
  | some j =>
      cases j with
      | null =>
          obtain rfl := Option.some.inj decoded
          rfl
      | _ =>
          obtain ⟨a, aRead, rfl⟩ := Option.map_eq_some_iff.mp decoded
          exact congrArg some (faithful aRead)

theorem fieldOf?_eq (key : String) (value : Option α) :
    fieldOf? key value = (value.map encode).toList.map (key, ·) := by
  cases value <;> rfl

theorem encode_of_decode_string {j : Json} {text : String} (read : decode j = some text) :
    encode text = id j := by
  cases j with
  | string given => exact congrArg Json.string (Option.some.inj read).symm
  | _ => cases read

theorem encode_of_decode_bool {j : Json} {flag : Bool} (read : decode j = some flag) :
    encode flag = id j := by
  cases j with
  | bool given => exact congrArg Json.bool (Option.some.inj read).symm
  | _ => cases read

end Json

/-- What is kept of the parameters of mutual TLS. -/
def MtlsParameters.kept : Json → Json := keepKnown [("clientCert", id), ("clientKey", id)]

theorem MtlsParameters.encode_of_decode {j : Json} {p : MtlsParameters}
    (read : decode j = some p) : encode p = kept j := by
  simp only [decode, Option.bind_eq_bind, Option.bind_eq_some_iff] at read
  obtain ⟨r, record, cert, certRead, key, keyRead, made⟩ := read
  obtain rfl := Option.some.inj made
  change Json.object (fieldOf? "clientCert" cert ++ fieldOf? "clientKey" key) = _
  rw [fieldOf?_eq, fieldOf?_eq, Record.map_encode_of_optional encode_of_decode_string certRead,
    Record.map_encode_of_optional encode_of_decode_string keyRead]
  simp [kept, keepKnown, record]

/-- What is kept of the parameters of TLS. -/
def TlsParameters.kept : Json → Json := keepKnown [("ca", id), ("mtls", MtlsParameters.kept)]

theorem TlsParameters.encode_of_decode {j : Json} {p : TlsParameters}
    (read : decode j = some p) : encode p = kept j := by
  simp only [decode, Option.bind_eq_bind, Option.bind_eq_some_iff] at read
  obtain ⟨r, record, ca, caRead, mtls, mtlsRead, made⟩ := read
  obtain rfl := Option.some.inj made
  change Json.object (fieldOf? "ca" ca ++ fieldOf? "mtls" mtls) = _
  rw [fieldOf?_eq, fieldOf?_eq, Record.map_encode_of_optional encode_of_decode_string caRead,
    Record.map_encode_of_optional MtlsParameters.encode_of_decode mtlsRead]
  simp [kept, keepKnown, record]

namespace ModuleSettings

theorem valuesAt_encode (s : ModuleSettings) (key : String) :
    valuesAt (encode s).fields key =
      (if "v3support" = key then (s.v3support.map encode).toList else []) ++
      (if "tlsParameters" = key then (s.tlsParameters.map encode).toList else []) ++
      (s.other.get? key).toList := by
  simp only [encode, Json.fields, valuesAt_append, valuesAt_fieldOf?, Dict.valuesAt_entries]

/-- Field by field, what is written of settings that were read. -/
theorem field?_encode_of_decode {fields : List (String × Json)} {s : ModuleSettings}
    (read : decode (.object fields) = some s) :
    (∀ key, interpreted.contains key = false →
      (encode s).field? key = (valuesAt fields key).getLast?.map collapse) ∧
    (encode s).field? "v3support" = (Record.mk fields false).present "v3support" ∧
    (encode s).field? "tlsParameters" =
      ((Record.mk fields false).present "tlsParameters").map TlsParameters.kept := by
  obtain ⟨versionRead, parametersRead, other⟩ := exists_of_decode read
  have look (key : String) : (encode s).field? key = (valuesAt (encode s).fields key).head? :=
    lookup_eq_head?_valuesAt _ _
  refine ⟨fun key unknown => ?_, ?_, ?_⟩
  · have apart : "v3support" ≠ key ∧ "tlsParameters" ≠ key := by
      constructor <;> rintro rfl <;> exact nomatch unknown
    rw [look, valuesAt_encode, if_neg apart.1, if_neg apart.2, other, unknown]
    cases (valuesAt fields key).getLast? <;> rfl
  · have kept := Record.map_encode_of_optional encode_of_decode_bool versionRead
    rw [Option.map_id_fun, id] at kept
    rw [look, valuesAt_encode, other, ← kept]
    cases s.v3support <;> rfl
  · rw [look, valuesAt_encode, other,
      ← Record.map_encode_of_optional TlsParameters.encode_of_decode parametersRead]
    cases s.tlsParameters <;> rfl

end ModuleSettings

namespace ModuleConfig

/-- What is given as the settings of a configuration, by name or by position. -/
def settings? (j : Json) : Option Json := do
  let config ← Record.ofJson? ["metadata", "spec"] j
  let spec ← Record.ofJson? ["enabled", "version", "settings"] (← config.given "spec")
  spec.given "settings"

theorem decode_settings {j settings : Json} {config : ModuleConfig} (read : decode j = some config)
    (given : settings? j = some settings) : decode settings = some config.spec.settings := by
  simp only [decode, Option.bind_eq_bind, Option.bind_eq_some_iff] at read
  obtain ⟨r, record, m, -, spec, specRead, made⟩ := read
  obtain rfl := Option.some.inj made
  obtain ⟨specGiven, specAt, specRead⟩ := Option.bind_eq_some_iff.mp specRead
  simp only [decode, Option.bind_eq_bind, Option.bind_eq_some_iff] at specRead
  obtain ⟨r', record', _, -, _, -, found, settingsRead, made⟩ := specRead
  obtain rfl := Option.some.inj made
  simp only [settings?, record, specAt, record', Option.bind_eq_bind, Option.bind_some] at given
  obtain ⟨single, singleAt, settingsRead⟩ := Option.bind_eq_some_iff.mp settingsRead
  rw [Record.given, singleAt, Option.join_some] at given
  subst given
  exact settingsRead

/-- Of the settings of a configuration, given as an object, every field that is not interpreted is
written as it was given, as deep as it goes; of a field that is given twice, the last one. The
interpreted fields are written if they are not null, and within the parameters of TLS the
interpreted fields only. -/
theorem settings_written {j : Json} {config : ModuleConfig} {fields : List (String × Json)}
    (read : decode j = some config) (given : settings? j = some (.object fields)) :
    ∃ written, (encode config).descend ["spec", "settings"] = some written ∧
      (∀ key, ModuleSettings.interpreted.contains key = false →
        written.field? key = (valuesAt fields key).getLast?.map collapse) ∧
      written.field? "v3support" = (Record.mk fields false).present "v3support" ∧
      written.field? "tlsParameters" =
        ((Record.mk fields false).present "tlsParameters").map TlsParameters.kept := by
  refine ⟨encode config.spec.settings, ?_,
    ModuleSettings.field?_encode_of_decode (decode_settings read given)⟩
  rcases config with ⟨m, _ | enabled, _ | version, settings⟩ <;> rfl

def deepSettings : List (String × Json) := [
  ("logLevel", .object [("driver", .string "DEBUG")]),
  ("tlsParameters", .object [("ca", .string "Y2E="), ("minVersion", .string "1.3"),
    ("mtls", .object [("clientCert", .string "c"), ("extra", .int 1)])])]

def deepConfig : Json := .object [
  ("metadata", .object [("name", .string "csi-nfs")]),
  ("spec", .object [("settings", .object deepSettings)])]

/-- Beside the interpreted settings they are kept, in the parameters of TLS they are not. -/
theorem settings_written_deep : ∃ (config : ModuleConfig) (written : Json),
    decode deepConfig = some config ∧
      (encode config).descend ["spec", "settings"] = some written ∧
      written.field? "logLevel" = some (.object [("driver", .string "DEBUG")]) ∧
      written.field? "v3support" = none ∧
      written.field? "tlsParameters" = some (.object [("ca", .string "Y2E="),
        ("mtls", .object [("clientCert", .string "c")])]) := by
  obtain ⟨config, read⟩ : ∃ config : ModuleConfig, decode deepConfig = some config :=
    Option.isSome_iff_exists.mp (by decide +kernel)
  obtain ⟨written, here, others, version, parameters⟩ :=
    settings_written read (rfl : settings? deepConfig = some (.object deepSettings))
  exact ⟨config, written, read, here, others "logLevel" rfl, version, parameters⟩

/-- A setting that stands in the parameters of TLS is not written, though it is not null. -/
theorem deepSettings_lost : ¬ ∀ (j settings : Json) (config : ModuleConfig) (path : List String)
    (value : Json), decode j = some config → settings? j = some settings →
    settings.descend path = some value → value.isObject = false → value ≠ .null →
    (encode config).descend ("spec" :: "settings" :: path) = some value := by
  intro preserved
  obtain ⟨config, read⟩ : ∃ config : ModuleConfig, decode deepConfig = some config :=
    Option.isSome_iff_exists.mp (by decide +kernel)
  have kept := preserved deepConfig (.object deepSettings) config ["tlsParameters", "minVersion"]
    (.string "1.3") read rfl rfl rfl Json.noConfusion
  have lost : ((decode deepConfig : Option ModuleConfig).bind fun config =>
      (encode config).descend ["spec", "settings", "tlsParameters", "minVersion"]) = none := rfl
  rw [read, Option.bind_some, kept] at lost
  exact nomatch lost

end ModuleConfig

end NfsStorage

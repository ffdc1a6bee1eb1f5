import NfsStorage.Proofs.Derived.Settle
import NfsStorage.Validation

/-!
# Mount options and what backs them

The derived objects of a declaration pass on one list of mount options, each in a form of its own.
A node can mount by an option only if the configuration has what the option takes: support for
version 3, or the material for TLS. A configuration that accepts a declaration backs every option on
its list.
-/

namespace NfsStorage

/-- The options in a text, with a comma between them. -/
def optionsOf (text : String) : List String := (text.toList.splitOn ',').map String.ofList

theorem optionsOf_intercalate {options : List String} (some : options ≠ [])
    (plain : ∀ option ∈ options, ',' ∉ option.toList) :
    optionsOf (",".intercalate options) = options := by
  have parts : ∀ part ∈ options.map String.toList, ',' ∉ part := by
    intro part membership
    obtain ⟨option, listed, rfl⟩ := List.mem_map.mp membership
    exact plain option listed
  have someParts : options.map String.toList ≠ [] := fun none => some (List.map_eq_nil_iff.mp none)
  have joined : (",".intercalate options).toList =
      List.intercalate [','] (options.map String.toList) := String.toList_intercalate
  rw [optionsOf, joined, List.splitOn_intercalate ',' parts someParts, List.map_map]
  exact (List.map_congr_left fun option _ => String.ofList_toList).trans (List.map_id _)

namespace DeclarationPass.DerivedKind

def mountOptions : (kind : DerivedKind) → kind.collection.Object → List String
  | storageClass, c => (StorageClass.mountOptions c).getD []
  | secret, s =>
    optionsOf ((((Secret.data s).getD ∅).get? Names.mountOptionsKey).bind Bytes.text? |>.getD "")
  | snapshotClass, c =>
    optionsOf ((((SnapshotClass.parameters c).getD ∅).get? Names.mountOptionsKey).getD "")

theorem mountOptions_updated (kind : DerivedKind) (live desired : kind.collection.Object) :
    kind.mountOptions (updated live desired) = kind.mountOptions desired := by
  cases kind <;> rfl

end DeclarationPass.DerivedKind

namespace DeclarationSpec

/-- The options by which the settings of a mount are passed on begin with other letters than those
of the version and the transport, and none has a comma in it. -/
structure IsSetting (option : String) : Prop where
  plain : ',' ∉ option.toList
  begins : option.toList.head? ∈ [some 'h', some 's', some 't', some 'r']

theorem isDigit_of_mem_toString {n : Nat} {c : Char} (digit : c ∈ (toString n).toList) :
    c.isDigit = true := by
  rw [Nat.toString_eq_ofList_toDigits, String.toList_ofList] at digit
  exact Nat.isDigit_of_mem_toDigits (by decide) (by decide) digit

theorem not_comma_mem_toString {n : Int} (positive : 0 < n) : ',' ∉ (toString n).toList := by
  obtain ⟨m, rfl⟩ := Int.eq_ofNat_of_zero_le (Int.le_of_lt positive)
  exact fun comma => absurd (isDigit_of_mem_toString comma) (by decide)

theorem isSetting_positiveOption {key option : String} {value : Option Int32}
    (listed : option ∈ positiveOption key value) (setting : IsSetting key) : IsSetting option := by
  cases value with
  | none => cases listed
  | some n =>
      rw [positiveOption] at listed
      split at listed
      next positive =>
        obtain rfl := List.mem_singleton.mp listed
        have begins := setting.begins
        constructor
        · simp only [String.toList_append, List.mem_append, not_or]
          exact ⟨⟨setting.plain, by decide⟩, not_comma_mem_toString positive⟩
        · rw [String.toList_append, String.toList_append, List.append_assoc]
          cases chars : key.toList with
          | nil =>
              rw [chars] at begins
              exact absurd begins (by decide)
          | cons c rest =>
              rw [chars] at begins
              exact begins
      next => cases listed

theorem isSetting_of_mem {options : MountOptions} {option : String}
    (listed : option ∈ settingOptions options) : IsSetting option := by
  simp only [settingOptions, List.mem_append] at listed
  rcases listed with ((mode | timeout) | retransmissions) | access
  · obtain ⟨given, -, rfl⟩ := Option.map_eq_some_iff.mp (Option.mem_toList.mp mode)
    cases given <;> exact ⟨by decide, by decide⟩
  · exact isSetting_positiveOption timeout ⟨by decide, by decide⟩
  · exact isSetting_positiveOption retransmissions ⟨by decide, by decide⟩
  · generalize options.readOnly = given at access
    rcases given with _ | _ | _
    · cases access
    · obtain rfl := List.mem_singleton.mp access
      exact ⟨by decide, by decide⟩
    · obtain rfl := List.mem_singleton.mp access
      exact ⟨by decide, by decide⟩

theorem mem_mountOptionList {tls : Bool} {spec : DeclarationSpec} {option : String}
    (listed : option ∈ spec.mountOptionList tls) :
    option = "nfsvers=" ++ spec.connection.nfsVersion.text ∨
      tls = true ∧ spec.connection.mtls = true ∧ option = "xprtsec=mtls" ∨
      tls = true ∧ spec.connection.tls = true ∧ option = "xprtsec=tls" ∨ IsSetting option := by
  rw [mountOptionList, List.cons_append] at listed
  rcases List.mem_cons.mp listed with version | listed
  · exact Or.inl version
  · rcases List.mem_append.mp listed with transport | setting
    · rw [transportOptions] at transport
      split at transport
      next wanted =>
        obtain ⟨compiled, mtls⟩ := Bool.and_eq_true_iff.mp wanted
        exact Or.inr (Or.inl ⟨compiled, mtls, List.mem_singleton.mp transport⟩)
      next =>
        split at transport
        next wanted =>
          obtain ⟨compiled, tls⟩ := Bool.and_eq_true_iff.mp wanted
          exact Or.inr (Or.inr (Or.inl ⟨compiled, tls, List.mem_singleton.mp transport⟩))
        next => cases transport
    · cases options : spec.mountOptions with
      | none => rw [options] at setting; cases setting
      | some given =>
          rw [options] at setting
          exact Or.inr (Or.inr (Or.inr (isSetting_of_mem setting)))

theorem plain_of_mem {tls : Bool} {spec : DeclarationSpec} {option : String}
    (listed : option ∈ spec.mountOptionList tls) : ',' ∉ option.toList := by
  rcases mem_mountOptionList listed with rfl | ⟨-, -, rfl⟩ | ⟨-, -, rfl⟩ | setting
  · cases spec.connection.nfsVersion <;> decide
  · decide
  · decide
  · exact setting.plain

end DeclarationSpec

/-- What the configuration holds for a mount by an option, where `tls` says whether RPC with TLS is
compiled in. -/
structure Backs (tls : Bool) (config : ModuleConfig) (option : String) : Prop where
  v3 : option = "nfsvers=3" → config.spec.settings.v3support = some true
  ca : option = "xprtsec=tls" ∨ option = "xprtsec=mtls" → ∃ parameters text,
    config.spec.settings.tlsParameters = some parameters ∧ parameters.ca = some text ∧ text ≠ ""
  material : option = "xprtsec=mtls" → ∃ parameters material certificate key,
    config.spec.settings.tlsParameters = some parameters ∧ parameters.mtls = some material ∧
    material.clientCert = some certificate ∧ certificate ≠ "" ∧
    material.clientKey = some key ∧ key ≠ ""
  off : tls = false → ¬ "xprtsec".toList <+: option.toList

theorem exists_of_isBlankParameter {value : Option String} (given : ¬ isBlankParameter value = true) :
    ∃ text, value = some text ∧ text ≠ "" := by
  cases value with
  | none => exact absurd rfl given
  | some text => exact ⟨text, rfl, fun empty => given (decide_eq_true empty)⟩

namespace ModuleConfig

variable {tls : Bool} {config : ModuleConfig} {d : Declaration}

theorem validate_eq_ok_iff : config.validate tls d = .ok () ↔
    config.validateVersion d = .ok () ∧ config.validateTls tls d = .ok () := by
  rw [validate]
  cases config.validateVersion d with
  | error violation => exact ⟨nofun, nofun⟩
  | ok _ => exact (and_iff_right rfl).symm

theorem v3support_of_validateVersion (accepted : config.validateVersion d = .ok ())
    (v3 : d.spec.connection.nfsVersion = .v3) : config.spec.settings.v3support = some true := by
  rw [validateVersion, if_pos v3] at accepted
  split at accepted
  next => cases accepted
  next => cases accepted
  next supported => exact supported

theorem exists_of_validateMtls {parameters : TlsParameters}
    (accepted : validateMtls parameters = .ok ()) : ∃ material certificate key,
      parameters.mtls = some material ∧ material.clientCert = some certificate ∧
      certificate ≠ "" ∧ material.clientKey = some key ∧ key ≠ "" := by
  rw [validateMtls] at accepted
  split at accepted
  next => cases accepted
  next material given =>
    split at accepted
    next => cases accepted
    next certificateGiven =>
      split at accepted
      next => cases accepted
      next keyGiven =>
        obtain ⟨certificate, certificateIs, filled⟩ := exists_of_isBlankParameter certificateGiven
        obtain ⟨key, keyIs, keyFilled⟩ := exists_of_isBlankParameter keyGiven
        exact ⟨material, certificate, key, given, certificateIs, filled, keyIs, keyFilled⟩

theorem exists_of_validateTls (accepted : config.validateTls true d = .ok ())
    (wanted : (d.spec.connection.tls || d.spec.connection.mtls) = true) :
    ∃ parameters text, config.spec.settings.tlsParameters = some parameters ∧
      parameters.ca = some text ∧ text ≠ "" ∧
      (d.spec.connection.mtls = true → validateMtls parameters = .ok ()) := by
  simp only [validateTls, wanted, Bool.not_true, Bool.false_eq_true, if_false] at accepted
  split at accepted
  next => cases accepted
  next parameters given =>
    split at accepted
    next => cases accepted
    next caGiven =>
      obtain ⟨text, caIs, filled⟩ := exists_of_isBlankParameter caGiven
      refine ⟨parameters, text, given, caIs, filled, fun mtls => ?_⟩
      rwa [if_pos mtls] at accepted

end ModuleConfig

/-- An option that names no transport takes nothing but what its version takes. -/
theorem backs_of_head? {tls : Bool} {config : ModuleConfig} {option : String}
    (v3 : option = "nfsvers=3" → config.spec.settings.v3support = some true)
    (noTransport : option.toList.head? ≠ some 'x') : Backs tls config option where
  v3 := v3
  ca same := by
    rcases same with rfl | rfl <;> exact absurd rfl noTransport
  material same := absurd (congrArg (·.toList.head?) same) noTransport
  off _ begins := by
    obtain ⟨rest, same⟩ := begins
    rw [← same] at noTransport
    exact noTransport rfl

/-- A configuration that accepts a declaration backs the options that the declaration leads to. -/
theorem backs_of_validate {tls : Bool} {config : ModuleConfig} {d : Declaration}
    (accepted : config.validate tls d = .ok ()) {option : String}
    (listed : option ∈ d.spec.mountOptionList tls) : Backs tls config option := by
  obtain ⟨version, transport⟩ := ModuleConfig.validate_eq_ok_iff.mp accepted
  rcases DeclarationSpec.mem_mountOptionList listed with
    rfl | ⟨rfl, mtls, rfl⟩ | ⟨rfl, wanted, rfl⟩ | setting
  · cases number : d.spec.connection.nfsVersion with
    | v3 =>
        exact backs_of_head? (fun _ => ModuleConfig.v3support_of_validateVersion version number)
          (by decide)
    | v41 => exact backs_of_head? (fun same => absurd same (by decide)) (by decide)
    | v42 => exact backs_of_head? (fun same => absurd same (by decide)) (by decide)
  · have either : (d.spec.connection.tls || d.spec.connection.mtls) = true := by
      rw [mtls, Bool.or_true]
    obtain ⟨parameters, text, given, caIs, filled, rest⟩ :=
      ModuleConfig.exists_of_validateTls transport either
    obtain ⟨material, certificate, key, materialIs, certificateIs, certificateFilled, keyIs,
      keyFilled⟩ := ModuleConfig.exists_of_validateMtls (rest mtls)
    exact {
      v3 := fun same => absurd same (by decide)
      ca := fun _ => ⟨parameters, text, given, caIs, filled⟩
      material := fun _ => ⟨parameters, material, certificate, key, given, materialIs,
        certificateIs, certificateFilled, keyIs, keyFilled⟩
      off := fun off => absurd off (by decide) }
  · have either : (d.spec.connection.tls || d.spec.connection.mtls) = true := by
      rw [wanted, Bool.true_or]
    obtain ⟨parameters, text, given, caIs, filled, -⟩ :=
      ModuleConfig.exists_of_validateTls transport either
    exact {
      v3 := fun same => absurd same (by decide)
      ca := fun _ => ⟨parameters, text, given, caIs, filled⟩
      material := fun same => absurd same (by decide)
      off := fun off => absurd off (by decide) }
  · refine backs_of_head? (fun same => ?_) fun first => ?_
    · exact absurd (same ▸ setting.begins) (by decide)
    · exact absurd (first ▸ setting.begins) (by decide)

namespace DeclarationPass.DerivedKind

theorem text?_ofText (text : String) : Bytes.text? (Bytes.ofText text) = some text := by
  rw [Bytes.text?, Bytes.ofText, Array.toArray_toList, String.fromUTF8?]
  exact dif_pos text.isValidUTF8

theorem get?_secretData (spec : DeclarationSpec) (options : String) :
    (Declaration.secretData spec options).get? Names.mountOptionsKey =
      some (Bytes.ofText options) := by
  have different : Names.mountOptionsKey ≠ Names.volumeCleanupKey := by decide
  rw [Declaration.secretData]
  cases nonEmpty? spec.volumeCleanup with
  | none => exact Dict.get?_insert _ _ _ _
  | some cleanup =>
      refine (Dict.get?_insert _ _ _ _).trans ((if_neg different).trans ?_)
      exact Dict.get?_insert _ _ _ _

theorem mountOptions_wanted (kind : DerivedKind) (op : Operator) (d : Declaration) :
    kind.mountOptions (kind.wanted op d) = d.spec.mountOptionList op.tls := by
  have joined : optionsOf (",".intercalate (d.spec.mountOptionList op.tls)) =
      d.spec.mountOptionList op.tls :=
    optionsOf_intercalate (List.cons_ne_nil _ _) fun _ => DeclarationSpec.plain_of_mem
  cases kind with
  | storageClass => rfl
  | secret =>
      refine Eq.trans ?_ joined
      change optionsOf ((((Declaration.secretData d.spec _).get? Names.mountOptionsKey).bind
        Bytes.text?).getD "") = _
      rw [get?_secretData, Option.bind_some, text?_ofText]
      rfl
  | snapshotClass => exact joined

end DeclarationPass.DerivedKind

end NfsStorage

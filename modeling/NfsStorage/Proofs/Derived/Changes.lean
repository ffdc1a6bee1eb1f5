import NfsStorage.Proofs.Derived.Settings

/-!
# Changes of a declaration

What a declaration has derived is judged by what it derives now, so a change of the declaration
shows in the judgement of each object. A storage class is made anew if a setting that it cannot
change is another one, and each object is updated if a setting that it passes on is another one.
Nothing else in a declaration makes a difference.
-/

namespace NfsStorage

theorem Bytes.ofText_injective : Function.Injective Bytes.ofText := by
  intro a b same
  have text : Bytes.text? (Bytes.ofText a) = Bytes.text? (Bytes.ofText b) := congrArg _ same
  rw [DeclarationPass.DerivedKind.text?_ofText, DeclarationPass.DerivedKind.text?_ofText] at text
  exact Option.some.inj text

theorem ReclaimPolicy.text_injective : Function.Injective ReclaimPolicy.text := by
  intro p q same
  cases p <;> cases q <;> first | rfl | exact absurd same (by decide)

theorem VolumeBindingMode.text_injective : Function.Injective VolumeBindingMode.text := by
  intro m m' same
  cases m <;> cases m' <;> first | rfl | exact absurd same (by decide)

theorem DeletionPolicy.ofReclaimPolicy_injective :
    Function.Injective DeletionPolicy.ofReclaimPolicy := by
  intro p q same
  cases p <;> cases q <;> first | rfl | exact absurd same (by decide)

theorem Dict.get?_ofList_append_toList {α : Type} (entries : List (String × α)) (key : String)
    (value : Option α) (target : String) :
    (Dict.ofList (entries ++ value.toList.map fun v => (key, v))).get? target =
      if target = key then value.or ((Dict.ofList entries).get? target)
      else (Dict.ofList entries).get? target := by
  rw [Dict.ofList, Dict.ofList, List.foldl_append]
  cases value with
  | none => simp
  | some v => exact Dict.get?_insert _ _ _ _

namespace Declaration

section Entries

variable (name «namespace» : String) (spec : DeclarationSpec)

theorem get?_server : (classParameters name «namespace» spec).get? Names.serverParameter =
    some spec.connection.host := by
  rw [classParameters, Dict.get?_ofList_append_toList, if_neg (by decide)]
  simp [Dict.ofList, Dict.get?_insert, Names.serverParameter, Names.shareParameter,
    Names.secretNameParameter, Names.secretNamespaceParameter]

theorem get?_share : (classParameters name «namespace» spec).get? Names.shareParameter =
    some spec.connection.share := by
  rw [classParameters, Dict.get?_ofList_append_toList, if_neg (by decide)]
  simp [Dict.ofList, Dict.get?_insert, Names.shareParameter, Names.secretNameParameter,
    Names.secretNamespaceParameter]

theorem get?_mountPermissions :
    (classParameters name «namespace» spec).get? Names.mountPermissionsParameter =
      nonEmpty? spec.chmodPermissions := by
  rw [classParameters, Dict.get?_ofList_append_toList, if_pos rfl]
  simp [Dict.ofList, Dict.get?_insert, Dict.get?_empty, Names.mountPermissionsParameter,
    Names.serverParameter, Names.shareParameter, Names.secretNameParameter,
    Names.secretNamespaceParameter]

theorem get?_volumeCleanup (options : String) :
    (secretData spec options).get? Names.volumeCleanupKey =
      (nonEmpty? spec.volumeCleanup).map Bytes.ofText := by
  have entries : secretData spec options =
      Dict.ofList ([(Names.mountOptionsKey, Bytes.ofText options)] ++
        ((nonEmpty? spec.volumeCleanup).map Bytes.ofText).toList.map fun cleanup =>
          (Names.volumeCleanupKey, cleanup)) := by
    rw [Option.toList_map, List.map_map]
    rfl
  rw [entries, Dict.get?_ofList_append_toList, if_pos rfl]
  simp [Dict.ofList, Dict.get?_insert, Dict.get?_empty, Names.mountOptionsKey,
    Names.volumeCleanupKey]

end Entries

theorem classParameters_eq_iff (name «namespace» : String) (a b : DeclarationSpec) :
    classParameters name «namespace» a = classParameters name «namespace» b ↔
      a.connection.host = b.connection.host ∧ a.connection.share = b.connection.share ∧
        nonEmpty? a.chmodPermissions = nonEmpty? b.chmodPermissions := by
  constructor
  · intro same
    have found := fun key => congrArg (Dict.get? · key) same
    have host := found Names.serverParameter
    have share := found Names.shareParameter
    have permissions := found Names.mountPermissionsParameter
    simp only [get?_server, get?_share, get?_mountPermissions, Option.some.injEq] at *
    exact ⟨host, share, permissions⟩
  · rintro ⟨host, share, permissions⟩
    rw [classParameters, classParameters, host, share, permissions]

theorem secretData_eq_iff (a b : DeclarationSpec) (options options' : String) :
    secretData a options = secretData b options' ↔
      options = options' ∧ nonEmpty? a.volumeCleanup = nonEmpty? b.volumeCleanup := by
  constructor
  · intro same
    have found := fun key => congrArg (Dict.get? · key) same
    have text := found Names.mountOptionsKey
    have cleanup := found Names.volumeCleanupKey
    simp only [DeclarationPass.DerivedKind.get?_secretData, get?_volumeCleanup,
      Option.some.injEq] at *
    exact ⟨Bytes.ofText_injective text,
      (Option.map_inj_right fun _ _ sameBytes => Bytes.ofText_injective sameBytes).mp cleanup⟩
  · rintro ⟨rfl, cleanup⟩
    rw [secretData, secretData, cleanup]

end Declaration

/-- The settings of a storage class that nobody can change once it is there. -/
structure FixedSettings where
  host : String
  share : String
  permissions : Option String
  reclaimPolicy : ReclaimPolicy
  volumeBindingMode : VolumeBindingMode
deriving DecidableEq

def DeclarationSpec.fixedSettings (spec : DeclarationSpec) : FixedSettings where
  host := spec.connection.host
  share := spec.connection.share
  permissions := nonEmpty? spec.chmodPermissions
  reclaimPolicy := spec.reclaimPolicy
  volumeBindingMode := spec.volumeBindingMode

namespace DeclarationSpec

variable {tls : Bool} {a b : DeclarationSpec}

theorem mountOptionList_eq_iff : a.mountOptionList tls = b.mountOptionList tls ↔
    a.mountSettings tls = b.mountSettings tls := by
  rw [mountOptionList_eq, mountOptionList_eq]
  exact ⟨fun same => MountSettings.options_injective same, congrArg _⟩

theorem intercalate_mountOptionList_eq_iff :
    ",".intercalate (a.mountOptionList tls) = ",".intercalate (b.mountOptionList tls) ↔
      a.mountSettings tls = b.mountSettings tls := by
  rw [← mountOptionList_eq_iff]
  refine ⟨fun same => ?_, congrArg _⟩
  have options := congrArg optionsOf same
  rwa [mountOptionList_eq, mountOptionList_eq, MountSettings.optionsOf_intercalate_options,
    MountSettings.optionsOf_intercalate_options, ← mountOptionList_eq,
    ← mountOptionList_eq] at options

end DeclarationSpec

section Judgements

variable (tls : Bool) («namespace» : String) {d d' : Declaration}

theorem secret_action_derive :
    Secret.action (some (d.derive tls «namespace»).secret) (d'.derive tls «namespace»).secret
        false =
      .ok (if d.spec.mountSettings tls ≠ d'.spec.mountSettings tls ∨
          nonEmpty? d.spec.volumeCleanup ≠ nonEmpty? d'.spec.volumeCleanup then .updateInPlace
        else .keep) := by
  have managed : (d.derive tls «namespace»).secret.metadata.isManaged = true := rfl
  have payload : (d.derive tls «namespace»).secret.data.getD ∅ =
      (d'.derive tls «namespace»).secret.data.getD ∅ ↔
      d.spec.mountSettings tls = d'.spec.mountSettings tls ∧
        nonEmpty? d.spec.volumeCleanup = nonEmpty? d'.spec.volumeCleanup :=
    (Declaration.secretData_eq_iff _ _ _ _).trans
      (and_congr_left' DeclarationSpec.intercalate_mountOptionList_eq_iff)
  simp only [ne_eq, ← Decidable.not_and_iff_not_or_not, ite_not, ← payload]
  split
  next same => simp [Secret.action, managed, same]
  next differ => simp [Secret.action, managed, differ]

variable (sameName : d.name = d'.name)

include sameName

theorem sameFixedFields_derive_iff :
    (d.derive tls «namespace»).storageClass.sameFixedFields
        (d'.derive tls «namespace»).storageClass = true ↔
      d.spec.fixedSettings = d'.spec.fixedSettings := by
  have policy := @ReclaimPolicy.text_injective d.spec.reclaimPolicy d'.spec.reclaimPolicy
  have mode :=
    @VolumeBindingMode.text_injective d.spec.volumeBindingMode d'.spec.volumeBindingMode
  simp only [StorageClass.sameFixedFields, Declaration.derive, sameName, Option.some.injEq,
    Option.getD_some, Bool.and_eq_true, decide_eq_true_iff,
    Declaration.classParameters_eq_iff, DeclarationSpec.fixedSettings, FixedSettings.mk.injEq]
  constructor
  · rintro ⟨⟨⟨samePolicy, sameMode⟩, -⟩, host, share, permissions⟩
    exact ⟨host, share, permissions, policy samePolicy, mode sameMode⟩
  · rintro ⟨host, share, permissions, samePolicy, sameMode⟩
    exact ⟨⟨⟨congrArg _ samePolicy, congrArg _ sameMode⟩, trivial⟩, host, share, permissions⟩

theorem storageClass_action_derive :
    StorageClass.action (some (d.derive tls «namespace»).storageClass)
        (d'.derive tls «namespace»).storageClass false =
      if d.spec.fixedSettings ≠ d'.spec.fixedSettings then .recreate
      else if d.spec.mountSettings tls ≠ d'.spec.mountSettings tls then .updateInPlace
      else .keep := by
  have ours : (d.derive tls «namespace»).storageClass.provisioner = Names.nfsDriver := rfl
  have covers : (d.derive tls «namespace»).storageClass.metadata.covers
      (d'.derive tls «namespace»).storageClass.metadata = true := by
    simp [Declaration.derive, sameName, Metadata.covers, Dict.extends?_self]
  have options : (d.derive tls «namespace»).storageClass.mountOptions.getD [] =
      (d'.derive tls «namespace»).storageClass.mountOptions.getD [] ↔
      d.spec.mountSettings tls = d'.spec.mountSettings tls :=
    DeclarationSpec.mountOptionList_eq_iff
  have fixed := sameFixedFields_derive_iff tls «namespace» sameName
  simp only [ne_eq, ite_not, ← fixed, ← options]
  split
  next same => simp [StorageClass.action, ours, covers, same]
  next differ => simp [StorageClass.action, ours, differ]

theorem snapshotClass_action_derive :
    SnapshotClass.action (some (d.derive tls «namespace»).snapshotClass)
        (d'.derive tls «namespace»).snapshotClass false =
      if d.spec.reclaimPolicy ≠ d'.spec.reclaimPolicy ∨
          d.spec.mountSettings tls ≠ d'.spec.mountSettings tls then .updateInPlace
      else .keep := by
  have ours : (d.derive tls «namespace»).snapshotClass.driver = Names.nfsDriver := rfl
  have covers : (d.derive tls «namespace»).snapshotClass.metadata.covers
      (d'.derive tls «namespace»).snapshotClass.metadata = true := by
    simp [Declaration.derive, sameName, Metadata.covers, Dict.extends?_self]
  have policy : (d.derive tls «namespace»).snapshotClass.deletionPolicy =
      (d'.derive tls «namespace»).snapshotClass.deletionPolicy ↔
      d.spec.reclaimPolicy = d'.spec.reclaimPolicy :=
    ⟨fun same => DeletionPolicy.ofReclaimPolicy_injective same,
      congrArg DeletionPolicy.ofReclaimPolicy⟩
  have parameters : (d.derive tls «namespace»).snapshotClass.parameters.getD ∅ =
      (d'.derive tls «namespace»).snapshotClass.parameters.getD ∅ ↔
      d.spec.mountSettings tls = d'.spec.mountSettings tls := by
    rw [← DeclarationSpec.intercalate_mountOptionList_eq_iff]
    -- The options are all the parameters that there are.
    refine ⟨fun same => ?_, fun same => ?_⟩
    · exact Option.some.inj (congrArg (Dict.get? · Names.mountOptionsKey) same)
    · exact congrArg (fun text => Dict.ofList [(Names.mountOptionsKey, text)]) same
  simp only [ne_eq, ← Decidable.not_and_iff_not_or_not, ite_not, ← policy, ← parameters]
  simp [SnapshotClass.action, ours, covers]

end Judgements

/-- A change of a declaration shows in each derived object that it makes a difference to, and in
no other: a class is made anew for a setting that it cannot change, and an object is updated for a
setting that it passes on. -/
theorem changes_detected (tls : Bool) («namespace» : String) {d d' : Declaration}
    (sameName : d.name = d'.name) :
    let live := d.derive tls «namespace»
    let desired := d'.derive tls «namespace»
    let fixedDiffer := d.spec.fixedSettings ≠ d'.spec.fixedSettings
    let mountsDiffer := d.spec.mountSettings tls ≠ d'.spec.mountSettings tls
    let policyDiffers := d.spec.reclaimPolicy ≠ d'.spec.reclaimPolicy
    let cleanupDiffers := nonEmpty? d.spec.volumeCleanup ≠ nonEmpty? d'.spec.volumeCleanup
    StorageClass.action (some live.storageClass) desired.storageClass false =
        (if fixedDiffer then .recreate else if mountsDiffer then .updateInPlace else .keep) ∧
      Secret.action (some live.secret) desired.secret false =
        .ok (if mountsDiffer ∨ cleanupDiffers then .updateInPlace else .keep) ∧
      SnapshotClass.action (some live.snapshotClass) desired.snapshotClass false =
        (if policyDiffers ∨ mountsDiffer then .updateInPlace else .keep) :=
  ⟨storageClass_action_derive tls «namespace» sameName, secret_action_derive tls «namespace»,
    snapshotClass_action_derive tls «namespace» sameName⟩

/-- Other volumes are kept now; permissions without a text and a TLS that is not compiled in are
none. -/
def elaborateRetained : Declaration :=
  { elaborate with
    spec :=
      { elaborate.spec with
        connection := { elaborate.spec.connection with mtls := false }
        chmodPermissions := some ""
        reclaimPolicy := .retain } }

theorem changes_detected_retained :
    let live := elaborate.derive false Names.defaultNamespace
    let desired := elaborateRetained.derive false Names.defaultNamespace
    elaborate.name = elaborateRetained.name ∧
      StorageClass.action (some live.storageClass) desired.storageClass false = .recreate ∧
      Secret.action (some live.secret) desired.secret false = .ok .keep ∧
      SnapshotClass.action (some live.snapshotClass) desired.snapshotClass false =
        .updateInPlace := by
  have sameName : elaborate.name = elaborateRetained.name := rfl
  obtain ⟨storageClass, secret, snapshotClass⟩ :=
    changes_detected false Names.defaultNamespace sameName
  refine ⟨sameName, storageClass.trans (if_pos (by decide)), secret.trans ?_,
    snapshotClass.trans (if_pos (by decide))⟩
  exact congrArg Except.ok (if_neg (by decide))

end NfsStorage

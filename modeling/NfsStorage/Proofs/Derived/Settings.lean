import NfsStorage.Proofs.Derived.Backing
import NfsStorage.Proofs.Derived.Fulfilled
import NfsStorage.Proofs.Store.Versioned

/-!
# Mount settings and their options

A mount option is the text of one setting that takes effect. No two settings have one text, and no
text is empty or has a comma or a space in it. So a list of options tells the settings that it was
made from, and it can be read back from one text in which commas stand between them.
-/

namespace NfsStorage

theorem NfsVersion.text_injective : Function.Injective NfsVersion.text := by
  intro v w same
  cases v <;> cases w <;> first | rfl | exact absurd same (by decide)

theorem MountMode.text_injective : Function.Injective MountMode.text := by
  intro m m' same
  cases m <;> cases m' <;> first | rfl | exact absurd same (by decide)

inductive Transport where
  | tls | mtls
deriving DecidableEq, Repr

namespace Transport

def text : Transport → String
  | tls => "tls"
  | mtls => "mtls"

theorem text_injective : Function.Injective text := by
  intro t t' same
  cases t <;> cases t' <;> first | rfl | exact absurd same (by decide)

end Transport

/-- A setting of a mount that takes effect. -/
inductive MountSetting where
  | version (version : NfsVersion)
  | transport (transport : Transport)
  | mode (mode : MountMode)
  | timeout (tenths : Nat)
  | retransmissions (count : Nat)
  | access (readOnly : Bool)

namespace MountSetting

def text : MountSetting → String
  | version v => "nfsvers=" ++ v.text
  | transport t => "xprtsec=" ++ t.text
  | mode m => m.text
  | timeout n => "timeo=" ++ toString n
  | retransmissions n => "retrans=" ++ toString n
  | access readOnly => if readOnly then "ro" else "rw"

def sort : MountSetting → Nat
  | version _ => 0
  | transport _ => 1
  | mode _ => 2
  | timeout _ => 3
  | retransmissions _ => 4
  | access _ => 5

def sort? : List Char → Option Nat
  | 'n' :: _ => some 0
  | 'x' :: _ => some 1
  | 'h' :: _ | 's' :: _ => some 2
  | 't' :: _ => some 3
  | 'r' :: 'e' :: _ => some 4
  | 'r' :: _ => some 5
  | _ => none

theorem sort?_text (s : MountSetting) : sort? s.text.toList = some s.sort := by
  cases s with
  | version v => cases v <;> rfl
  | transport t => cases t <;> rfl
  | mode m => cases m <;> rfl
  | timeout n =>
      rw [text, String.toList_append]
      rfl
  | retransmissions n =>
      rw [text, String.toList_append]
      rfl
  | access readOnly => cases readOnly <;> rfl

theorem text_injective : Function.Injective text := by
  intro a b same
  have sorts : a.sort = b.sort :=
    Option.some.inj (a.sort?_text.symm.trans (same ▸ b.sort?_text))
  cases a with
  | version v =>
      cases b with
      | version w =>
          exact congrArg version (NfsVersion.text_injective ((String.append_right_inj _).mp same))
      | transport | mode | timeout | retransmissions | access => cases sorts
  | transport t =>
      cases b with
      | transport t' =>
          exact congrArg transport (Transport.text_injective ((String.append_right_inj _).mp same))
      | version | mode | timeout | retransmissions | access => cases sorts
  | mode m =>
      cases b with
      | mode m' => exact congrArg mode (MountMode.text_injective same)
      | version | transport | timeout | retransmissions | access => cases sorts
  | timeout n =>
      cases b with
      | timeout n' =>
          exact congrArg timeout (eq_of_toString_eq ((String.append_right_inj _).mp same))
      | version | transport | mode | retransmissions | access => cases sorts
  | retransmissions n =>
      cases b with
      | retransmissions n' =>
          exact congrArg retransmissions (eq_of_toString_eq ((String.append_right_inj _).mp same))
      | version | transport | mode | timeout | access => cases sorts
  | access readOnly =>
      cases b with
      | access readOnly' =>
          cases readOnly <;> cases readOnly' <;> first | rfl | exact absurd same (by decide)
      | version | transport | mode | timeout | retransmissions => cases sorts

/-- An option as a driver takes it: a text that stands out among others in a list with commas. -/
structure IsWord (option : String) : Prop where
  given : option ≠ ""
  noComma : ',' ∉ option.toList
  noSpace : ' ' ∉ option.toList

theorem isWord_append_toString {key : String} (word : IsWord key) (n : Nat) :
    IsWord (key ++ toString n) := by
  have digits : ∀ c, c.isDigit = false → c ∉ (toString n).toList := fun c other digit =>
    Bool.false_ne_true (other.symm.trans (DeclarationSpec.isDigit_of_mem_toString digit))
  constructor
  · exact String.append_ne_empty word.given
  · rw [String.toList_append, List.mem_append, not_or]
    exact ⟨word.noComma, digits ',' (by decide)⟩
  · rw [String.toList_append, List.mem_append, not_or]
    exact ⟨word.noSpace, digits ' ' (by decide)⟩

theorem isWord_text (s : MountSetting) : IsWord s.text := by
  cases s with
  | version v => cases v <;> exact ⟨by decide, by decide, by decide⟩
  | transport t => cases t <;> exact ⟨by decide, by decide, by decide⟩
  | mode m => cases m <;> exact ⟨by decide, by decide, by decide⟩
  | timeout n => exact isWord_append_toString ⟨by decide, by decide, by decide⟩ n
  | retransmissions n => exact isWord_append_toString ⟨by decide, by decide, by decide⟩ n
  | access readOnly => cases readOnly <;> exact ⟨by decide, by decide, by decide⟩

end MountSetting

structure MountSettings where
  version : NfsVersion
  transport : Option Transport
  mode : Option MountMode
  timeout : Option Nat
  retransmissions : Option Nat
  readOnly : Option Bool
deriving DecidableEq

namespace MountSettings

def list (s : MountSettings) : List MountSetting :=
  .version s.version :: (s.transport.toList.map .transport ++ (s.mode.toList.map .mode ++
    (s.timeout.toList.map .timeout ++ (s.retransmissions.toList.map .retransmissions ++
      s.readOnly.toList.map .access))))

theorem eq_of_toList_append_eq {α β : Type} {f : α → β} (injective : Function.Injective f)
    {a b : Option α} {rest rest' : List β} (apart : ∀ x, f x ∉ rest) (apart' : ∀ x, f x ∉ rest')
    (same : a.toList.map f ++ rest = b.toList.map f ++ rest') : a = b ∧ rest = rest' := by
  cases a with
  | none =>
      cases b with
      | none => exact ⟨rfl, same⟩
      | some y =>
          have same : rest = f y :: rest' := same
          exact absurd (same ▸ List.mem_cons_self ..) (apart y)
  | some x =>
      cases b with
      | none =>
          have same : f x :: rest = rest' := same
          exact absurd (same ▸ List.mem_cons_self ..) (apart' x)
      | some y =>
          obtain ⟨first, rest⟩ := List.cons.inj same
          exact ⟨congrArg some (injective first), rest⟩

/-- The settings of one sort follow on those of another, so none can be taken for another. -/
theorem list_injective : Function.Injective list := by
  intro s s' same
  obtain ⟨version, same⟩ := List.cons.inj same
  obtain ⟨transport, same⟩ := eq_of_toList_append_eq (fun _ _ => MountSetting.transport.inj)
    (by simp) (by simp) same
  obtain ⟨mode, same⟩ := eq_of_toList_append_eq (fun _ _ => MountSetting.mode.inj)
    (by simp) (by simp) same
  obtain ⟨timeout, same⟩ := eq_of_toList_append_eq (fun _ _ => MountSetting.timeout.inj)
    (by simp) (by simp) same
  obtain ⟨retransmissions, same⟩ := eq_of_toList_append_eq
    (fun _ _ => MountSetting.retransmissions.inj) (by simp) (by simp) same
  -- Nothing follows on the last, so it is told apart from an empty rest.
  obtain ⟨access, -⟩ := eq_of_toList_append_eq (fun _ _ => MountSetting.access.inj)
    (fun _ => List.not_mem_nil) (fun _ => List.not_mem_nil)
    ((List.append_nil _).trans (same.trans (List.append_nil _).symm))
  cases s
  cases s'
  simp only [MountSetting.version.injEq] at version
  simp only [mk.injEq]
  exact ⟨version, transport, mode, timeout, retransmissions, access⟩

def options (s : MountSettings) : List String := s.list.map MountSetting.text

theorem options_injective : Function.Injective options := fun _ _ same =>
  list_injective
    ((List.map_inj_right fun _ _ sameText => MountSetting.text_injective sameText).mp same)

theorem options_ne_nil (s : MountSettings) : s.options ≠ [] := List.cons_ne_nil _ _

theorem isWord_of_mem {s : MountSettings} {option : String} (listed : option ∈ s.options) :
    MountSetting.IsWord option := by
  obtain ⟨setting, -, rfl⟩ := List.mem_map.mp listed
  exact setting.isWord_text

theorem optionsOf_intercalate_options (s : MountSettings) :
    optionsOf (",".intercalate s.options) = s.options :=
  optionsOf_intercalate s.options_ne_nil fun _ listed => (isWord_of_mem listed).noComma

end MountSettings

namespace DeclarationSpec

def positive? (value : Option Int32) : Option Nat := (value.map (·.toInt.toNat)).filter (0 < ·)

def transport? (tls : Bool) (connection : Connection) : Option Transport :=
  if tls = false then none
  else if connection.mtls then some .mtls
  else if connection.tls then some .tls
  else none

/-- The settings of a declaration that take effect on its mounts. -/
def mountSettings (tls : Bool) (spec : DeclarationSpec) : MountSettings where
  version := spec.connection.nfsVersion
  transport := transport? tls spec.connection
  mode := spec.mountOptions.bind (·.mountMode)
  timeout := positive? (spec.mountOptions.bind (·.timeout))
  retransmissions := positive? (spec.mountOptions.bind (·.retransmissions))
  readOnly := spec.mountOptions.bind (·.readOnly)

theorem positiveOption_eq (key : String) (value : Option Int32) :
    positiveOption key value = (positive? value).toList.map fun n => key ++ "=" ++ toString n := by
  cases value with
  | none => rfl
  | some n =>
      rw [positiveOption, positive?, Option.map_some, Option.filter_some]
      by_cases positive : 0 < n.toInt
      · have counts : decide (0 < n.toInt.toNat) = true := decide_eq_true (by omega)
        have same : toString n.toInt = toString n.toInt.toNat := by
          exact congrArg toString (Int.toNat_of_nonneg (Int.le_of_lt positive)).symm
        rw [if_pos positive, if_pos counts, same]
        rfl
      · have void : ¬ decide (0 < n.toInt.toNat) = true := by
          rw [decide_eq_true_iff]
          omega
        rw [if_neg positive, if_neg void]
        rfl

theorem transportOptions_eq (tls : Bool) (spec : DeclarationSpec) :
    spec.transportOptions tls =
      (transport? tls spec.connection).toList.map fun t => (MountSetting.transport t).text := by
  rw [transportOptions, transport?]
  cases tls <;> cases spec.connection.mtls <;> cases spec.connection.tls <;> rfl

theorem accessOptions_eq (readOnly : Option Bool) :
    accessOptions readOnly = readOnly.toList.map fun r => (MountSetting.access r).text := by
  rcases readOnly with _ | _ | _ <;> rfl

theorem settingOptions_eq (options : MountOptions) : settingOptions options =
    options.mountMode.toList.map (fun m => (MountSetting.mode m).text) ++
      (positive? options.timeout).toList.map (fun n => (MountSetting.timeout n).text) ++
      (positive? options.retransmissions).toList.map
        (fun n => (MountSetting.retransmissions n).text) ++
      options.readOnly.toList.map (fun r => (MountSetting.access r).text) := by
  rw [settingOptions, positiveOption_eq, positiveOption_eq, accessOptions_eq, Option.toList_map]
  rfl

/-- The option list of a declaration says the settings that take effect, and nothing else. -/
theorem mountOptionList_eq (tls : Bool) (spec : DeclarationSpec) :
    spec.mountOptionList tls = (spec.mountSettings tls).options := by
  rw [mountOptionList, transportOptions_eq, MountSettings.options, MountSettings.list]
  cases given : spec.mountOptions with
  | none => simp [mountSettings, given, MountSetting.text, positive?]
  | some options =>
      simp [mountSettings, given, settingOptions_eq, MountSetting.text, Function.comp_def]

end DeclarationSpec

/-- What the storage class lists is what stands, with commas in between, in the secret and in the
snapshot class. -/
theorem one_option_list (tls : Bool) («namespace» : String) (d : Declaration) :
    let derived := d.derive tls «namespace»
    ∃ options payload text parameter,
      derived.storageClass.mountOptions = some options ∧
      (∀ option ∈ options, option ≠ "" ∧ ',' ∉ option.toList ∧ ' ' ∉ option.toList) ∧
      (derived.secret.data.getD ∅).get? Names.mountOptionsKey = some payload ∧
      Bytes.text? payload = some text ∧ optionsOf text = options ∧
      (derived.snapshotClass.parameters.getD ∅).get? Names.mountOptionsKey = some parameter ∧
      optionsOf parameter = options := by
  intro derived
  let settings := d.spec.mountSettings tls
  have listed : d.spec.mountOptionList tls = settings.options := d.spec.mountOptionList_eq tls
  have readBack : optionsOf (",".intercalate (d.spec.mountOptionList tls)) = settings.options := by
    rw [listed]
    exact settings.optionsOf_intercalate_options
  refine ⟨settings.options, _, _, _, congrArg some listed, ?_,
    DeclarationPass.DerivedKind.get?_secretData d.spec _,
    DeclarationPass.DerivedKind.text?_ofText _, readBack,
    (Dict.get?_insert _ _ _ _).trans (if_pos rfl), readBack⟩
  intro option among
  have word := MountSettings.isWord_of_mem among
  exact ⟨word.given, word.noComma, word.noSpace⟩

def elaborate : Declaration :=
  { metadata := { name := some "a" }
    spec :=
      { connection :=
          { host := "host", share := "/share", nfsVersion := .v42, tls := true, mtls := true }
        mountOptions := some
          { mountMode := some .soft
            timeout := some 600
            retransmissions := some 2147483647
            readOnly := some true }
        reclaimPolicy := .delete
        volumeBindingMode := .immediate } }

theorem one_option_list_elaborate :
    let derived := elaborate.derive true Names.defaultNamespace
    let option := "retrans=2147483647"
    let options := ["nfsvers=4.2", "xprtsec=mtls", "soft", "timeo=600", option, "ro"]
    ∃ text parameter,
      derived.storageClass.mountOptions = some options ∧
      option ∈ options ∧ (option ≠ "" ∧ ',' ∉ option.toList ∧ ' ' ∉ option.toList) ∧
      ((derived.secret.data.getD ∅).get? Names.mountOptionsKey).bind Bytes.text? = some text ∧
      optionsOf text = options ∧
      (derived.snapshotClass.parameters.getD ∅).get? Names.mountOptionsKey = some parameter ∧
      optionsOf parameter = options := by
  intro derived option options
  have listed : derived.storageClass.mountOptions = some options := by decide +kernel
  obtain ⟨given, payload, text, parameter, same, words, payloadIs, textIs, fromText, parameterIs,
    fromParameter⟩ := one_option_list true Names.defaultNamespace elaborate
  obtain rfl : options = given := Option.some.inj (listed.symm.trans same)
  have among : option ∈ options := by decide
  exact ⟨text, parameter, listed, among, words option among,
    (congrArg (Option.bind · Bytes.text?) payloadIs).trans textIs, fromText, parameterIs,
    fromParameter⟩

end NfsStorage

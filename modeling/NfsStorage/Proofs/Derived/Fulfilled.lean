import NfsStorage.Proofs.Derived.Settle

/-!
# Objects as they are wanted

An object that a pass keeps has all the content that its declaration asks for, and its labels and
annotations among others. An object that a pass leaves alone is foreign, and the reason for it is a
text that says something.
-/

namespace NfsStorage

/-- The content of a storage class is as desired, and its metadata cover those desired. -/
structure StorageClass.Fulfils (live desired : StorageClass) : Prop where
  provisioner : live.provisioner = desired.provisioner
  parameters : live.parameters = desired.parameters
  mountOptions : live.mountOptions = desired.mountOptions
  reclaimPolicy : live.reclaimPolicy = desired.reclaimPolicy
  volumeBindingMode : live.volumeBindingMode = desired.volumeBindingMode
  allowVolumeExpansion : live.allowVolumeExpansion = desired.allowVolumeExpansion
  metadata : live.metadata.covers desired.metadata = true

structure Secret.Fulfils (live desired : Secret) : Prop where
  data : live.data = desired.data
  metadata : live.metadata.covers desired.metadata = true

structure SnapshotClass.Fulfils (live desired : SnapshotClass) : Prop where
  driver : live.driver = desired.driver
  deletionPolicy : live.deletionPolicy = desired.deletionPolicy
  parameters : live.parameters = desired.parameters
  metadata : live.metadata.covers desired.metadata = true

theorem Option.eq_of_getD_eq {α : Type} {a b : Option α} {default : α}
    (same : a.getD default = b.getD default) (given : b.getD default ≠ default) : a = b := by
  cases b with
  | none => exact absurd rfl given
  | some value =>
      cases a with
      | none => exact absurd same.symm given
      | some other => exact congrArg some same

theorem Dict.ofList_ne_empty {α : Type} {entries : List (String × α)} (filled : entries ≠ []) :
    Dict.ofList entries ≠ ∅ := by
  intro empty
  rcases List.eq_nil_or_concat entries with rfl | ⟨earlier, ⟨key, value⟩, rfl⟩
  · exact filled rfl
  · have last : (Dict.ofList (earlier.concat (key, value))).get? key = some value := by
      rw [Dict.ofList, List.concat_eq_append, List.foldl_append]
      exact (Dict.get?_insert _ _ _ _).trans (if_pos rfl)
    rw [empty] at last
    cases last

theorem String.append_ne_empty {a b : String} (given : a ≠ "") : a ++ b ≠ "" :=
  fun empty => given (String.append_eq_empty_iff.mp empty).1

theorem String.intercalate_ne_empty {separator : String} {texts : List String}
    (filled : texts ≠ []) (each : ∀ text ∈ texts, text ≠ "") : separator.intercalate texts ≠ "" := by
  cases texts with
  | nil => exact absurd rfl filled
  | cons first rest =>
      have given : first ≠ "" := each first (List.mem_cons_self ..)
      cases rest with
      | nil => rwa [String.intercalate_singleton]
      | cons second others =>
          rw [String.intercalate_cons_cons]
          exact String.append_ne_empty (String.append_ne_empty given)

theorem Metadata.covers_of_isManaged {live : Metadata} (managed : live.isManaged = true)
    (name : String) («namespace» : Option String) :
    live.covers (Declaration.managedMetadata name «namespace») = true := by
  have mark := live.isManaged_iff.mp managed
  have labels : (live.labels.getD ∅).extends?
      (Dict.ofList [(Names.managedByLabel, Names.operator)]) = true := by
    rw [Dict.extends?_iff]
    intro key value wanted
    have wanted : (Dict.empty.insert Names.managedByLabel Names.operator).get? key =
        some value := wanted
    rw [Dict.get?_insert] at wanted
    split at wanted
    next here =>
      rw [here, mark]
      exact wanted
    next => exact nomatch wanted
  have annotations : (live.annotations.getD ∅).extends? ∅ = true :=
    (Dict.extends?_iff _ _).mpr fun _ _ wanted => nomatch wanted
  exact Bool.and_eq_true_iff.mpr ⟨labels, annotations⟩

namespace DeclarationPass.DerivedKind

variable {op : Operator} {d : Declaration}

theorem storageClass_fulfils {live : Option StorageClass}
    (keep : storageClass.action live (storageClass.wanted op d) false = .ok .keep) :
    ∃ c, live = some c ∧ c.Fulfils (d.derive op.tls op.namespace).storageClass := by
  have keep : StorageClass.action live (d.derive op.tls op.namespace).storageClass false = .keep :=
    Except.ok.inj keep
  cases live with
  | none => cases keep
  | some c =>
      simp only [StorageClass.action, Bool.false_eq_true, if_false] at keep
      split at keep
      next => cases keep
      next ours =>
        split at keep
        next => cases keep
        next fixed =>
          split at keep
          next same =>
            simp only [StorageClass.sameFixedFields, Bool.not_eq_true', Bool.not_eq_false,
              Bool.and_eq_true, decide_eq_true_eq] at fixed same
            obtain ⟨⟨⟨reclaimPolicy, volumeBindingMode⟩, allowVolumeExpansion⟩, parameters⟩ := fixed
            obtain ⟨mountOptions, metadata⟩ := same
            exact ⟨c, rfl,
              { provisioner := Decidable.not_not.mp ours
                parameters := Option.eq_of_getD_eq parameters (Dict.ofList_ne_empty (List.cons_ne_nil _ _))
                mountOptions := Option.eq_of_getD_eq mountOptions (List.cons_ne_nil _ _)
                reclaimPolicy
                volumeBindingMode
                allowVolumeExpansion
                metadata }⟩
          next => cases keep

theorem secret_fulfils {live : Option Secret}
    (keep : secret.action live (secret.wanted op d) false = .ok .keep) :
    ∃ s, live = some s ∧ s.Fulfils (d.derive op.tls op.namespace).secret := by
  have keep : Secret.action live (d.derive op.tls op.namespace).secret false = .ok .keep := keep
  cases live with
  | none => cases keep
  | some s =>
      simp only [Secret.action] at keep
      split at keep
      next => cases keep
      next => cases keep
      next managed same =>
        exact ⟨s, rfl,
          { data := Option.eq_of_getD_eq (of_decide_eq_true same) (Dict.ofList_ne_empty (List.cons_ne_nil _ _))
            metadata := Metadata.covers_of_isManaged managed _ _ }⟩
      next => cases keep
      next => cases keep
      next => cases keep

theorem snapshotClass_fulfils {live : Option SnapshotClass}
    (keep : snapshotClass.action live (snapshotClass.wanted op d) false = .ok .keep) :
    ∃ c, live = some c ∧ c.Fulfils (d.derive op.tls op.namespace).snapshotClass := by
  have keep : SnapshotClass.action live (d.derive op.tls op.namespace).snapshotClass false =
      .keep := Except.ok.inj keep
  cases live with
  | none => cases keep
  | some c =>
      simp only [SnapshotClass.action, Bool.false_eq_true, if_false] at keep
      split at keep
      next => cases keep
      next ours =>
        split at keep
        next same =>
          simp only [Bool.and_eq_true, decide_eq_true_eq] at same
          obtain ⟨⟨deletionPolicy, parameters⟩, metadata⟩ := same
          exact ⟨c, rfl,
            { driver := Decidable.not_not.mp ours
              deletionPolicy
              parameters := Option.eq_of_getD_eq parameters (Dict.ofList_ne_empty (List.cons_ne_nil _ _))
              metadata }⟩
        next => cases keep

/-- The object belongs to somebody else: to another driver, or without the mark of the module and
with another payload. -/
def Foreign : (kind : DerivedKind) → (live desired : kind.collection.Object) → Prop
  | storageClass, live, _ => StorageClass.provisioner live ≠ Names.nfsDriver
  | secret, live, desired =>
    (Secret.metadata live).isManaged = false ∧
      (Secret.data live).getD ∅ ≠ (Secret.data desired).getD ∅
  | snapshotClass, live, _ => SnapshotClass.driver live ≠ Names.nfsDriver

theorem action_of_native {kind : DerivedKind} {live desired : kind.collection.Object}
    (native : ¬ kind.Foreign live desired) :
    kind.action (some live) desired false = .ok .keep ∨
      kind.action (some live) desired false = .ok .updateInPlace ∨
      kind.action (some live) desired false = .ok .recreate := by
  cases kind with
  | storageClass =>
      have ours : StorageClass.provisioner live = Names.nfsDriver := Decidable.not_not.mp native
      simp only [action, StorageClass.action, ours, ne_eq, not_true_eq_false, Bool.false_eq_true,
        if_false]
      split
      next => exact Or.inr (Or.inr rfl)
      next =>
        split
        next => exact Or.inl rfl
        next => exact Or.inr (Or.inl rfl)
  | secret =>
      simp only [action, Secret.action]
      split
      next => contradiction
      next => contradiction
      next => exact Or.inl rfl
      next => exact Or.inr (Or.inl rfl)
      next => exact Or.inr (Or.inl rfl)
      next unmanaged different =>
        exact absurd ⟨unmanaged, of_decide_eq_false different⟩ native
  | snapshotClass =>
      have ours : SnapshotClass.driver live = Names.nfsDriver := Decidable.not_not.mp native
      simp only [action, SnapshotClass.action, ours, ne_eq, not_true_eq_false, Bool.false_eq_true,
        if_false]
      split
      next => exact Or.inl rfl
      next => exact Or.inr (Or.inl rfl)

theorem reason_eq_none {kind : DerivedKind} {live : Option kind.collection.Object}
    {desired : kind.collection.Object}
    (native : ∀ object, live = some object → ¬ kind.Foreign object desired) :
    kind.reason live desired false = none := by
  unfold reason
  cases live with
  | none => rw [action_absent]
  | some object =>
      rcases action_of_native (native object rfl) with keep | update | recreate
      · rw [keep]
      · rw [update]
      · rw [recreate]

theorem ne_empty_of_reason {kind : DerivedKind} {live : Option kind.collection.Object}
    {desired : kind.collection.Object} {deleting : Bool} {text : String}
    (left : kind.reason live desired deleting = some text) : text ≠ "" := by
  have foreignObject : "foreign-object: " ≠ "" := by decide
  have foreignSecret : "foreign-secret: secret " ≠ "" := by decide
  unfold reason at left
  split at left
  next owner =>
    obtain rfl := Option.some.inj left
    iterate 4 apply String.append_ne_empty
    exact String.append_ne_empty foreignObject
  next foreign =>
    obtain rfl := Option.some.inj left
    exact String.append_ne_empty (String.append_ne_empty foreignSecret)
  next => exact nomatch left

end DeclarationPass.DerivedKind

end NfsStorage

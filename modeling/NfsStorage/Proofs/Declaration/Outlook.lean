import NfsStorage.Proofs.Derived.Settle

/-!
# What a declaration has to expect

The outlook of a declaration is what a pass without failures would leave of it and of its derived
objects. It can be told from the cluster before the pass, and a pass that fails somewhere on its way
changes the cluster but not the outlook.
-/

namespace NfsStorage

open DeclarationPass (DerivedKind Outcome)

/-- The finalizers of a declaration, if it is there, its derived objects up to versions and times,
and its status, unless it is being deleted. -/
@[ext]
structure Outlook where
  finalizers : Option (Option (List String))
  derived : (kind : DerivedKind) → Option kind.collection.Object
  status : Option DeclarationStatus

namespace Declaration

def finalizersHeld (d : Declaration) : List String :=
  if d.metadata.finalizerList.contains Names.finalizer then d.metadata.finalizerList
  else d.metadata.finalizerList ++ [Names.finalizer]

/-- The finalizers that stay when a declaration is let go; without any it goes itself. -/
def finalizersLeft (d : Declaration) : Option (Option (List String)) :=
  if d.metadata.finalizerList.contains Names.finalizer then
    let others := d.metadata.finalizerList.filter (· ≠ Names.finalizer)
    if others.isEmpty then none else some (some others)
  else some d.metadata.finalizers

section Expected

variable (op : Operator) (config : ModuleConfig) (d : Declaration)
  (live : (kind : DerivedKind) → Option kind.collection.Object)

def reasons : List String :=
  let of (kind : DerivedKind) := (kind.reason (live kind) (kind.wanted op d) false).toList
  of .storageClass ++ of .secret ++ of .snapshotClass

/-- What a pass over a declaration that stays comes to. -/
def conclusion : Outcome :=
  match config.validate op.tls d with
  | .error violation => .invalid (violation.code ++ ": " ++ config.violationText d violation)
  | .ok () => if (d.reasons op live).isEmpty then .created else .foreign (d.reasons op live)

/-- The derived objects of a declaration that the configuration does not accept stay as they are. -/
def outlook : Outlook :=
  if d.isDeleting then
    { finalizers := d.finalizersLeft
      derived := fun kind => kind.settle (live kind) (kind.wanted op d) true
      status := none }
  else
    { finalizers := some (some d.finalizersHeld)
      derived := fun kind =>
        match config.validate op.tls d with
        | .error _ => (live kind).map Resource.timeless
        | .ok () => kind.settle (live kind) (kind.wanted op d) false
      status := (d.conclusion op config live).status? }

end Expected

end Declaration

namespace Cluster

variable (k : Cluster) (op : Operator) (n : String)

def config : ModuleConfig := (k.object? .moduleConfigs ModuleConfig.singleton).getD .unset

def outlook : Outlook :=
  match k.object? .declarations n with
  | none =>
    { finalizers := none
      derived := fun kind => (k.derived kind n).map Resource.timeless
      status := none }
  | some d => d.outlook op k.config fun kind => k.derived kind n

def observed : Outlook where
  finalizers := (k.object? .declarations n).map fun d : Declaration => d.metadata.finalizers
  derived kind := (k.derived kind n).map Resource.timeless
  status := (k.object? .declarations n).bind fun d : Declaration =>
    if d.isDeleting then none else d.status

end Cluster

section Same

variable {op : Operator} {config : ModuleConfig} {d d' : Declaration}
  {live live' : (kind : DerivedKind) → Option kind.collection.Object}

theorem DeclarationPass.DerivedKind.wanted_congr (named : d'.name = d.name)
    (spec : d'.spec = d.spec) (kind : DerivedKind) : kind.wanted op d' = kind.wanted op d := by
  unfold DerivedKind.wanted
  rw [Declaration.derive_congr named spec]

theorem ModuleConfig.validate_congr (spec : d'.spec = d.spec) (tls : Bool) :
    config.validate tls d' = config.validate tls d := by
  simp only [ModuleConfig.validate, ModuleConfig.validateVersion, ModuleConfig.validateTls, spec]

theorem Declaration.conclusion_congr (named : d'.name = d.name) (spec : d'.spec = d.spec)
    (same : ∀ kind : DerivedKind, kind.reason (live' kind) (kind.wanted op d) false =
      kind.reason (live kind) (kind.wanted op d) false) :
    d'.conclusion op config live' = d.conclusion op config live := by
  have reasons : d'.reasons op live' = d.reasons op live := by
    simp only [Declaration.reasons, DerivedKind.wanted_congr named spec, same]
  have text : config.violationText d' = config.violationText d := by
    funext violation
    rw [ModuleConfig.violationText, named, ModuleConfig.violationText]
  unfold Declaration.conclusion
  rw [ModuleConfig.validate_congr spec, reasons, text]

/-- The outlook is the same for a declaration with the same name and spec, as long as it is held, or
let go, with the same finalizers. -/
theorem Declaration.outlook_congr (named : d'.name = d.name) (spec : d'.spec = d.spec)
    (deleting : d'.isDeleting = d.isDeleting)
    (held : d.isDeleting = false → d'.finalizersHeld = d.finalizersHeld)
    (left : d.isDeleting = true → d'.finalizersLeft = d.finalizersLeft) :
    d'.outlook op config live = d.outlook op config live := by
  unfold Declaration.outlook
  rw [deleting]
  cases state : d.isDeleting with
  | true => simp only [if_true, left state, DerivedKind.wanted_congr named spec]
  | false =>
      simp only [Bool.false_eq_true, if_false, held state, ModuleConfig.validate_congr spec,
        DerivedKind.wanted_congr named spec]
      rw [Declaration.conclusion_congr named spec fun _ => rfl]

theorem Declaration.outlook_congr_live
    (due : d.isDeleting = true ∨ config.validate op.tls d = .ok ())
    (settle : ∀ kind : DerivedKind, kind.settle (live' kind) (kind.wanted op d) d.isDeleting =
      kind.settle (live kind) (kind.wanted op d) d.isDeleting)
    (reason : d.isDeleting = false → ∀ kind : DerivedKind,
      kind.reason (live' kind) (kind.wanted op d) false =
        kind.reason (live kind) (kind.wanted op d) false) :
    d.outlook op config live' = d.outlook op config live := by
  unfold Declaration.outlook
  cases state : d.isDeleting with
  | true =>
      rw [state] at settle
      simp only [if_true, settle]
  | false =>
      rw [state] at settle due
      have accepted : config.validate op.tls d = .ok () := due.resolve_left Bool.false_ne_true
      simp only [Bool.false_eq_true, if_false, accepted, settle]
      rw [Declaration.conclusion_congr rfl rfl (reason state)]

end Same

namespace Cluster

variable {k : Cluster} {op : Operator} {n : String}

@[simp]
theorem config_write_declaration (k : Cluster) (verb : Verb) (name : String) (d : Declaration) :
    (k.write .declarations verb name d).config = k.config := by
  have elsewhere : Collection.moduleConfigs ≠ .declarations := nofun
  rw [config, object?_write_of_ne _ _ _ _ _ fun same => absurd same elsewhere]
  rfl

@[simp]
theorem config_write_derived (k : Cluster) {kind : DerivedKind} (verb : Verb) (name : String)
    (object : kind.collection.Object) :
    (k.write kind.collection verb name object).config = k.config := by
  have elsewhere : Collection.moduleConfigs ≠ kind.collection := by
    cases kind <;> exact nofun
  rw [config, object?_write_of_ne _ _ _ _ _ fun same => absurd same elsewhere]
  rfl

theorem outlook_write_declaration (sound : k.Sound) {verb : Verb} {old new : Declaration}
    (found : k.object? .declarations n = some old) (kept : Store.isReleased new = false)
    (spec : new.spec = old.spec) (deleting : new.isDeleting = old.isDeleting)
    (held : old.isDeleting = false → new.finalizersHeld = old.finalizersHeld)
    (left : old.isDeleting = true → new.finalizersLeft = old.finalizersLeft) :
    (k.write .declarations verb n new).outlook op n = k.outlook op n := by
  have written : (k.write .declarations verb n new).object? .declarations n =
      some ((k.store .declarations).stamped n new) := by
    rw [object?_write_self, Store.isReleased_stamped, kept]
    rfl
  have named : old.name = n := (sound.tidy (c := .declarations) rfl).named found
  unfold outlook
  rw [written, found, config_write_declaration]
  simp only [derived_write_declaration]
  exact Declaration.outlook_congr named.symm spec deleting held left

theorem outlook_write_derived {kind : DerivedKind} {verb : Verb} {object : kind.collection.Object}
    {d : Declaration} (found : k.object? .declarations n = some d)
    (due : d.isDeleting = true ∨ k.config.validate op.tls d = .ok ())
    (settle : kind.settle ((k.write kind.collection verb (kind.nameOf n) object).derived kind n)
        (kind.wanted op d) d.isDeleting =
      kind.settle (k.derived kind n) (kind.wanted op d) d.isDeleting)
    (reason : d.isDeleting = false →
      kind.reason ((k.write kind.collection verb (kind.nameOf n) object).derived kind n)
        (kind.wanted op d) false = kind.reason (k.derived kind n) (kind.wanted op d) false) :
    (k.write kind.collection verb (kind.nameOf n) object).outlook op n = k.outlook op n := by
  -- The other two kinds are judged as before, because their live objects are the same.
  have others : ∀ other, other ≠ kind →
      (k.write kind.collection verb (kind.nameOf n) object).derived other n = k.derived other n :=
    fun other different => k.derived_write_other fun same => absurd same different
  unfold outlook
  rw [declaration_write_derived, found, config_write_derived]
  refine Declaration.outlook_congr_live due (fun other => ?_) (fun state other => ?_)
  · by_cases same : other = kind
    · subst same
      exact settle
    · rw [others other same]
  · by_cases same : other = kind
    · subst same
      exact reason state
    · rw [others other same]

end Cluster

end NfsStorage

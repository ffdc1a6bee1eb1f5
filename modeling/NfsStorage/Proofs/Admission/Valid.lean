import NfsStorage.Proofs.Admission.Reviewed
import NfsStorage.Proofs.Declaration.Footprint
import NfsStorage.Proofs.Program.Asking
import NfsStorage.Proofs.Store.Coherent

/-!
# Review keeps a cluster valid

Declarations and the configuration are written independently of each other and reviewed one at a
time. Each verdict looks at the other kind as it is at that moment, and so every declaration that
stays fits the configuration in place.
-/

namespace NfsStorage

theorem ModuleConfig.validate_congr_config {config config' : ModuleConfig}
    (spec : config'.spec = config.spec) (tls : Bool) (d : Declaration) :
    config'.validate tls d = config.validate tls d := by
  simp only [ModuleConfig.validate, ModuleConfig.validateVersion, ModuleConfig.validateTls, spec]

/-- A patch that leaves the spec of a declaration alone leaves it as it was read. -/
theorem Declaration.spec_of_decode {fields : List (String × Json)} {spec : DeclarationSpec}
    {d : Declaration} (values : Json.valuesAt fields "spec" = [encode spec])
    (read : decode (.object fields) = some d) : d.spec = spec := by
  simp only [decode, Json.Record.ofJson?, Option.bind_eq_bind, Option.bind_some,
    Option.bind_eq_some_iff] at read
  obtain ⟨_, -, given, specRead, _, -, made⟩ := read
  rw [Json.Record.required_of_values "spec" spec values] at specRead
  obtain rfl := Option.some.inj specRead
  obtain rfl := Option.some.inj made
  rfl

theorem Declaration.spec_of_decode_merge {old new : Declaration} {key : String} {value : Json}
    (elsewhere : key ≠ "spec")
    (read : decode (Json.merge (encode old) (.object [(key, value)])) = some new) :
    new.spec = old.spec := by
  have values : Json.valuesAt (Json.mergeFields (encode old : Json).fields [(key, value)]) "spec" =
      [encode old.spec] := by
    rw [Json.valuesAt_mergeFields_of_ne _ _ elsewhere]
    simp [encode, Json.fields]
  rw [Json.merge] at read
  exact Declaration.spec_of_decode values read

namespace Cluster

variable {tls : Bool} {k l : Cluster}

/-- Every declaration that stays fits the configuration, and the configuration stays. -/
structure Valid (tls : Bool) (k : Cluster) : Prop where
  declarations : ∀ {name : String} {d : Declaration}, k.object? .declarations name = some d →
    d.isDeleting = false → k.config.validate tls d = .ok ()
  config : k.deletes .moduleConfigs ModuleConfig.singleton = false

theorem Valid.of_same (valid : k.Valid tls)
    (declarations : ∀ name, l.object? .declarations name = k.object? .declarations name)
    (config : l.object? .moduleConfigs ModuleConfig.singleton =
      k.object? .moduleConfigs ModuleConfig.singleton) : l.Valid tls where
  declarations found staying := by
    rw [Cluster.config, config]
    exact valid.declarations ((declarations _).symm.trans found) staying
  config := by
    rw [deletes, config]
    exact valid.config

theorem Valid.write_declaration (valid : k.Valid tls) {verb : Verb} {name : String}
    {new : Declaration}
    (fits : Resource.isDeleting new = false → k.config.validate tls new = .ok ()) :
    (k.write .declarations verb name new).Valid tls where
  declarations {target d} found staying := by
    rw [config_write_declaration]
    rcases eq_stamped_of_object?_write _ _ _ _ _ found with ⟨-, rfl, -⟩ | ⟨-, before⟩
    · exact fits (((k.store .declarations).isDeleting_stamped name new).symm.trans staying)
    · exact valid.declarations before staying
  config := by
    have elsewhere : Collection.moduleConfigs ≠ .declarations := nofun
    rw [deletes, object?_write_of_ne _ _ _ _ _ fun same => absurd same elsewhere]
    exact valid.config

theorem Valid.write_config {verb : Verb} {new : ModuleConfig}
    (staying : Resource.isDeleting new = false)
    (fits : ∀ name d, k.object? .declarations name = some d → new.validate tls d = .ok ()) :
    (k.write .moduleConfigs verb ModuleConfig.singleton new).Valid tls := by
  have staysStamped : Resource.isDeleting
      ((k.store .moduleConfigs).stamped ModuleConfig.singleton new) = false :=
    ((k.store .moduleConfigs).isDeleting_stamped _ new).trans staying
  have found : (k.write .moduleConfigs verb ModuleConfig.singleton new).object? .moduleConfigs
      ModuleConfig.singleton =
        some ((k.store .moduleConfigs).stamped ModuleConfig.singleton new) := by
    rw [object?_write_self, Store.isReleased_eq_false (c := .moduleConfigs) staysStamped]
    rfl
  constructor
  · intro name d present _
    have elsewhere : Collection.declarations ≠ .moduleConfigs := nofun
    rw [object?_write_of_ne _ _ _ _ _ fun same => absurd same elsewhere] at present
    have spec : (k.write .moduleConfigs verb ModuleConfig.singleton new).config.spec = new.spec := by
      rw [Cluster.config, found]
      rfl
    rw [ModuleConfig.validate_congr_config spec]
    exact fits name d present
  · rw [deletes, found, Option.any_some]
    exact staysStamped

theorem Valid.write_kept (valid : k.Valid tls) {verb : Verb} {name : String}
    {old new : Declaration} (found : k.object? .declarations name = some old)
    (deleting : Resource.isDeleting new = Resource.isDeleting old) (spec : new.spec = old.spec) :
    (k.write .declarations verb name new).Valid tls := by
  refine valid.write_declaration fun staying => ?_
  rw [ModuleConfig.validate_congr spec]
  exact valid.declarations found (deleting.symm.trans staying)

theorem Valid.serve (valid : k.Valid tls) {r : Request} (exempt : Exempt r) :
    (k.serve r).2.Valid tls := by
  have served := k.served r
  generalize (k.serve r).1 = answer at served
  generalize (k.serve r).2 = l at served
  cases exempt with
  | reads reads => rwa [served.eq_of_reads reads]
  | elsewhere declarations moduleConfigs =>
      exact valid.of_same (fun _ => served.object? fun same => absurd same.symm declarations)
        (served.object? fun same => absurd same.symm moduleConfigs)
  | otherModule collection other =>
      have elsewhere : Collection.declarations ≠ .moduleConfigs := nofun
      exact valid.of_same
        (fun _ => served.object? fun same => absurd (same.trans collection) elsewhere)
        (served.object? fun _ => other)
  | delete name =>
      cases served with
      | failed | alreadyGone => exact valid
      | deleted _ _ old found =>
          refine valid.write_declaration fun staying => ?_
          have deleting : Resource.isDeleting (Store.asked k.clock old) = true :=
            Store.isDeleting_setDeletion (c := .declarations) old _
          exact absurd (deleting.symm.trans staying) nofun
  | finalizers name finalizers =>
      cases served with
      | failed => exact valid
      | patched _ _ _ old new _ found read =>
          exact valid.write_kept found
            (Collection.isDeleting_of_decode_merge (c := .declarations)
              (sparesDeletion_finalizersPatch finalizers) read)
            (Declaration.spec_of_decode_merge (by decide) read)
  | status name change =>
      cases served with
      | failed => exact valid
      | patchedStatus _ _ _ old new _ found read =>
          exact valid.write_kept found
            (Collection.isDeleting_of_decode_merge (c := .declarations)
              (sparesDeletion_status _) read)
            (Declaration.spec_of_decode_merge (by decide) read)

theorem Valid.declare (valid : k.Valid tls) {r : Request} {operation : Admission.Operation}
    {d : Declaration} (submits : k.Submits .declarations r operation d)
    (honest : k.Honest .declarations r d)
    (fits : Resource.isDeleting d = false → k.config.validate tls d = .ok ()) :
    (k.serve r).2.Valid tls := by
  rcases submits.serve_cases with same | ⟨verb, new, written, rfl | ⟨time, rfl, asked⟩⟩
  · rwa [same]
  · rw [written]
    exact valid.write_declaration fits
  · rw [written]
    refine valid.write_declaration fun staying => ?_
    have stored : k.deletes .declarations r.subject = false := by
      rw [← asked, ← Store.isDeleting_setDeletion (c := .declarations), staying]
    have accepted := fits (Bool.eq_false_iff.mpr fun deleting =>
      Bool.eq_false_iff.mp stored (honest deleting))
    exact (ModuleConfig.validate_congr (d := d) rfl tls).trans accepted

theorem Valid.configure (valid : k.Valid tls) {r : Request} {operation : Admission.Operation}
    {config : ModuleConfig} (submits : k.Submits .moduleConfigs r operation config)
    (ours : r.subject = ModuleConfig.singleton) (staying : Resource.isDeleting config = false)
    (fits : ∀ name d, k.object? .declarations name = some d → config.validate tls d = .ok ()) :
    (k.serve r).2.Valid tls := by
  rcases submits.serve_cases with same | ⟨verb, new, written, rfl | ⟨time, rfl, asked⟩⟩
  · rwa [same]
  · rw [written, ours]
    exact Valid.write_config staying fits
  · rw [written, ours]
    refine Valid.write_config ?_ fun name d found => ?_
    · rw [Store.isDeleting_setDeletion (c := .moduleConfigs), asked, ours]
      exact valid.config
    · exact (ModuleConfig.validate_congr_config rfl tls d).trans (fits name d found)

theorem Valid.step (valid : k.Valid tls) (step : Step tls k l) : l.Valid tls := by
  cases step with
  | @declare r operation d uid submits honest =>
      split
      next allowed =>
        refine valid.declare submits honest fun staying => ?_
        exact ((Admission.admitDeclaration_eq_allowed_iff submits.operation_ne_delete staying).mp
          allowed).2
      next => exact valid
  | @configure r operation config uid submits honest ours named =>
      split
      next allowed =>
        have staying : Resource.isDeleting config = false :=
          Bool.eq_false_iff.mpr fun deleting =>
            Bool.eq_false_iff.mp valid.config (ours ▸ honest deleting)
        exact valid.configure submits ours staying
          ((Admission.admitModuleConfig_eq_allowed_iff submits.operation_ne_delete staying named).mp
            allowed).2
      next => exact valid
  | serve exempt => exact valid.serve exempt
  | refuse c refused =>
      exact valid.of_same (object?_withRefusals k c _ refused) (object?_withRefusals k c _ refused _)
  | tick clock =>
      exact valid.of_same (object?_withClock k clock _) (object?_withClock k clock _ _)

theorem Governed.valid (governed : Governed tls k) : k.Valid tls := by
  induction governed with
  | start noDeclarations noConfigs =>
      refine ⟨fun found => (by cases (noDeclarations _).symm.trans found), ?_⟩
      rw [deletes, noConfigs]
      rfl
  | step _ step valid => exact valid.step step

end Cluster

end NfsStorage

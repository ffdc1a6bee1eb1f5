import NfsStorage.Proofs.Admission.Valid
import NfsStorage.Proofs.Declaration.Requests
import NfsStorage.Proofs.ModuleConfig.Marks
import NfsStorage.Proofs.Program.Recorded

/-!
# Passes under review

The controllers go by the rules of the review. So a pass that runs by itself finds no declaration
that is not accepted and sets no mark, and what it leaves has come about under review. If reviewed
writes come between the calls of a pass, what it goes by may be out of date: only then can it find
that a declaration and the configuration do not fit.
-/

namespace NfsStorage

open DeclarationPass (DerivedKind)

namespace DeclarationPass

variable {op : Operator} {d : Declaration} {k l : Cluster} {reason : String}

theorem not_invalid_establish (accepted : k.config.validate op.tls d = .ok ()) :
    ¬ Pass.Succeeds (establish op d) k (.invalid reason) l := by
  intro ended
  obtain ⟨found, m, looked, rest⟩ := Pass.succeeds_bind.mp ended
  obtain ⟨-, rfl, rfl⟩ := Pass.succeeds_get.mp looked
  have accepts : ((m.object? .moduleConfigs ModuleConfig.singleton).getD .unset).validate op.tls d =
      .ok () := accepted
  simp only [accepts] at rest
  obtain ⟨foreign, _, -, done⟩ := Pass.succeeds_bind.mp rest
  obtain ⟨same, -⟩ := Pass.succeeds_pure.mp done
  split at same <;> cases same

theorem not_invalid_converge (accepted : k.config.validate op.tls d = .ok ()) :
    ¬ Pass.Succeeds (converge op d) k (.invalid reason) l := by
  rw [converge_eq]
  split
  next =>
    intro ended
    obtain ⟨_, m, patched, rest⟩ := Pass.succeeds_bind.mp ended
    exact not_invalid_establish (config_patchFinalizers patched ▸ accepted) rest
  next => exact not_invalid_establish accepted

variable {calls : List Program.Call} {m : Cluster}

/-- Where the configuration was read, no declaration that stays had this spec any more. -/
theorem stale_of_invalid_establish
    (runs : Pass.Recorded (establish op d) k calls (.ok (.invalid reason)) m)
    (governed : ∀ c ∈ calls, c.before.Governed op.tls) :
    ∃ c ∈ calls, c.request = .get .moduleConfigs ModuleConfig.singleton ∧
      ∀ n e, c.before.object? .declarations n = some e → e.isDeleting = false →
        e.spec ≠ d.spec := by
  obtain ⟨l, rest, -, rfl, ⟨-, -, e, failed⟩ | ⟨found, answered, runs⟩⟩ :=
    Pass.recorded_request_bind runs
  · cases failed
  · obtain rfl := Program.Call.found_of_answer answered
    refine ⟨_, List.mem_cons_self .., rfl, fun n e stored staying same => ?_⟩
    have accepts : l.config.validate op.tls d = .ok () := by
      rw [ModuleConfig.validate_congr same.symm]
      exact (governed _ (List.mem_cons_self ..)).valid.declarations stored staying
    rw [Cluster.config] at accepts
    simp only [accepts] at runs
    obtain ⟨e, failed, -⟩ | ⟨foreign, l', _, _, -, -, done⟩ := Pass.recorded_bind runs
    · cases failed
    · obtain ⟨-, ended, -⟩ := Pass.recorded_pure done
      split at ended <;> cases ended

theorem stale_of_invalid_converge
    (runs : Pass.Recorded (converge op d) k calls (.ok (.invalid reason)) m)
    (governed : ∀ c ∈ calls, c.before.Governed op.tls) :
    ∃ c ∈ calls, c.request = .get .moduleConfigs ModuleConfig.singleton ∧
      ∀ n e, c.before.object? .declarations n = some e → e.isDeleting = false →
        e.spec ≠ d.spec := by
  rw [converge_eq] at runs
  split at runs
  next =>
    obtain ⟨e, failed, -⟩ | ⟨_, l, first, rest, rfl, -, runs⟩ := Pass.recorded_bind runs
    · cases failed
    · obtain ⟨c, made, looked, stale⟩ := stale_of_invalid_establish runs fun c made =>
        governed c (List.mem_append_right _ made)
      exact ⟨c, List.mem_append_right _ made, looked, stale⟩
  next => exact stale_of_invalid_establish runs governed

theorem not_invalid_release :
    ¬ Pass.Recorded (release op d) k calls (.ok (.invalid reason)) m := by
  intro runs
  obtain ⟨e, failed, -⟩ | ⟨_, l, _, _, -, -, runs⟩ := Pass.recorded_bind runs
  · cases failed
  · simp only at runs
    split at runs
    next =>
      obtain ⟨e, failed, -⟩ | ⟨_, l', _, _, -, -, done⟩ := Pass.recorded_bind runs
      · cases failed
      · cases (Pass.recorded_pure done).2.1
    next => cases (Pass.recorded_pure runs).2.1

end DeclarationPass

/-- If the request writes, it takes the mark off a storage class, or sets it in case of a fault. -/
def Request.MarksIf (faulty : Prop) (r : Request) : Prop :=
  r.writes? = none ∨ ∃ name mismatch,
    r = .patch .storageClasses name (ModuleConfigPass.mismatchPatch mismatch) ∧
      (mismatch = true → faulty)

namespace ModuleConfigPass

open Pass (Asks)

variable {op : Operator} {k : Cluster} {config : ModuleConfig} {classes : Dict StorageClass}
  {faulty : Prop}

theorem asks_checkAll {declarations : List Declaration}
    (faults : ∀ d ∈ declarations, config.validate op.tls d ≠ .ok () → faulty) :
    Program.Asks (Request.MarksIf faulty) (checkAll op config classes declarations) k := by
  rw [checkAll_eq]
  refine Pass.asks_collect fun d membership _ => asks_checkDeclaration_of_patch fun c _ _ _ =>
    Or.inr ⟨c.name, _, rfl, fun mismatch => faults d membership fun accepted => ?_⟩
  rw [isAdmitted, accepted] at mismatch
  cases mismatch

/-- The pass over a configuration sets a mark only if the configuration does not accept some
declaration that stays. -/
theorem asks_reconcile (op : Operator) (name : String) (k : Cluster) :
    Asks (Request.MarksIf (∃ n d, k.object? .declarations n = some d ∧ d.isDeleting = false ∧
      ((k.object? .moduleConfigs name).getD .unset).validate op.tls d ≠ .ok ()))
      (reconcile op name) k := by
  unfold reconcile
  refine Asks.bind (Asks.request _ (Or.inl rfl)) fun found l looked => ?_
  obtain ⟨-, rfl, rfl⟩ := Pass.succeeds_get.mp looked
  refine Asks.bind (Asks.request _ (Or.inl rfl)) fun declarations m listed => ?_
  obtain ⟨-, rfl, rfl⟩ := Pass.succeeds_list.mp listed
  refine Asks.bind (Asks.request _ (Or.inl rfl)) fun classes m' _ => ?_
  refine Asks.bind (Program.Asks.bind (asks_checkAll fun d live fault => ?_)
    fun _ sent => nomatch sent) fun _ _ _ => fun _ sent => nomatch sent
  obtain ⟨listed, staying⟩ := List.mem_filter.mp live
  obtain ⟨n, stored⟩ := Dict.mem_values_iff.mp listed
  exact ⟨n, d, stored, by simpa using staying, fault⟩

section Recorded

variable {calls : List Program.Call} {m : Cluster} {name : String} {c : Program.Call}

theorem not_accepted_of_recorded_checkDeclaration {d : Declaration} {result : Except Error Unit}
    (runs : Pass.Recorded (checkDeclaration op config classes d) k calls result m)
    (made : c ∈ calls) (marks : c.request = .patch .storageClasses name (mismatchPatch true)) :
    config.validate op.tls d ≠ .ok () := by
  unfold checkDeclaration setMark at runs
  split at runs
  next =>
    cases runs
    exact nomatch made
  next =>
    split at runs
    next =>
      obtain ⟨rfl, -⟩ := Pass.recorded_pure runs
      exact nomatch made
    next =>
      split at runs
      next =>
        obtain ⟨rfl, -⟩ := Pass.recorded_pure runs
        exact nomatch made
      next =>
        obtain ⟨l, -, rfl, -⟩ := Pass.recorded_request_then runs
        obtain rfl := List.mem_singleton.mp made
        intro accepted
        rw [isAdmitted, accepted] at marks
        cases marks

/-- The configuration changed after the pass had read it and before it listed the declarations. -/
theorem stale_of_marked {result : Except Failure Next}
    (runs : Pass.Recorded (reconcile op ModuleConfig.singleton) k calls result m)
    (governed : ∀ c ∈ calls, c.before.Governed op.tls) (made : c ∈ calls)
    (marks : c.request = .patch .storageClasses name (mismatchPatch true)) :
    ∃ looked listed rest, calls = looked :: listed :: rest ∧
      listed.before.config.spec ≠ looked.before.config.spec := by
  have elsewhere : ∀ {r : Request} {l : Cluster} {rest : List Program.Call}, r.writes? = none →
      c ∈ (⟨r, l⟩ : Program.Call) :: rest → c ∈ rest := by
    intro r l rest reads made
    refine (List.mem_cons.mp made).resolve_left fun here => ?_
    subst here
    cases marks
    cases reads
  unfold reconcile at runs
  obtain ⟨looked, rest, -, rfl, ⟨-, rfl, -⟩ | ⟨found, answered, runs⟩⟩ :=
    Pass.recorded_request_bind runs
  · exact nomatch elsewhere rfl made
  obtain rfl := Program.Call.found_of_answer answered
  obtain ⟨listed, rest, -, rfl, ⟨-, rfl, -⟩ | ⟨declarations, answered, runs⟩⟩ :=
    Pass.recorded_request_bind runs
  · exact nomatch elsewhere rfl (elsewhere rfl made)
  obtain rfl := Program.Call.listed_of_answer answered
  refine ⟨_, _, rest, rfl, fun same => ?_⟩
  obtain ⟨l, rest, -, rfl, ⟨-, rfl, -⟩ | ⟨classes, -, runs⟩⟩ := Pass.recorded_request_bind runs
  · exact nomatch elsewhere rfl (elsewhere rfl (elsewhere rfl made))
  have made := elsewhere rfl (elsewhere rfl (elsewhere rfl made))
  rw [Pass.Recorded, Pass.run_lift_bind, checkAll_eq] at runs
  obtain ⟨errors, l', checks, last, rfl, turns, done⟩ := Program.recorded_bind runs
  have done : Program.Recorded (pure (summary errors)) l' last result m := done
  obtain ⟨rfl, -⟩ := Program.recorded_pure done
  rw [List.append_nil] at made
  obtain ⟨d, live, _, _, _, _, turn, made⟩ := Pass.exists_of_recorded_collect turns made
  obtain ⟨there, staying⟩ := List.mem_filter.mp live
  obtain ⟨n, stored⟩ := Dict.mem_values_iff.mp there
  -- What is listed is accepted where it is listed, and the pass goes by the configuration before.
  refine not_accepted_of_recorded_checkDeclaration turn made marks ?_
  have reviewed := governed _ (List.mem_cons_of_mem _ (List.mem_cons_self ..))
  have accepted := reviewed.valid.declarations stored (by simpa using staying)
  exact (ModuleConfig.validate_congr_config same.symm op.tls d).trans accepted

end Recorded

end ModuleConfigPass

namespace Cluster

variable {tls : Bool} {k : Cluster} {op : Operator}

theorem exempt_of_derived (kind : DerivedKind) {r : Request}
    (collection : r.collection = kind.collection) : Exempt r := by
  refine .elsewhere (collection ▸ kind.collection_ne_declarations) ?_
  rw [collection]
  cases kind <;> exact nofun

theorem exempt_of_tends {d : Declaration} {due : Prop} {r : Request} (tends : r.Tends op d due) :
    Exempt r := by
  cases tends with
  | configured => exact .reads rfl
  | held finalizers => exact .finalizers _ finalizers
  | told status => exact .status _ _
  | derived kind _ derives => exact exempt_of_derived kind derives.collection_eq

theorem exempt_of_marksIf {faulty : Prop} {r : Request} (marks : r.MarksIf faulty) : Exempt r := by
  rcases marks with reads | ⟨name, mismatch, rfl, -⟩
  · exact .reads reads
  · exact .elsewhere nofun nofun

theorem Governed.run {α : Type} {p : Program α} (governed : Governed tls k)
    (asks : p.Asks Exempt k) : Governed tls (p.run .direct k).2 :=
  asks.run_induction (fun _ _ exempt governed => .step governed (.serve exempt)) governed

theorem asks_exempt_declaration (op : Operator) (n : String) (k : Cluster) :
    Pass.Asks Exempt (DeclarationPass.reconcile op n) k := by
  unfold DeclarationPass.reconcile
  refine Pass.Asks.bind (Pass.Asks.request _ (.reads rfl)) fun found l _ => ?_
  cases found with
  | none => exact Pass.Asks.pure _
  | some d => exact (DeclarationPass.asks_reconcileFound op d l).mono fun _ => exempt_of_tends

end Cluster

/-- Under review every declaration that stays fits the configuration in place, whatever is written
and refused in whatever order. So the work of a pass over a declaration never ends with the
declaration not accepted, and the pass over the configuration takes marks off and sets none; what
the passes leave has come about under review, too.

The last two parts are about passes with reviewed writes between their calls. A declaration is found
not accepted only by a pass that goes by a spec that no declaration has any more when the
configuration is read, and a mark is set only if the configuration changed between the first two
calls. -/
theorem review_keeps_valid {tls : Bool} {k : Cluster} (governed : k.Governed tls) (op : Operator)
    (compiled : op.tls = tls) :
    (∀ name d, k.object? .declarations name = some d → d.isDeleting = false →
      k.config.validate tls d = .ok ()) ∧
    (∀ name d reason l, k.object? .declarations name = some d →
      ¬ Pass.Succeeds (if d.isDeleting then DeclarationPass.release op d
        else DeclarationPass.converge op d) k (.invalid reason) l) ∧
    (∀ r ∈ (ModuleConfigPass.reconcile op ModuleConfig.singleton).run.requests k,
      r.writes? = none ∨
        ∃ name, r = .patch .storageClasses name (ModuleConfigPass.mismatchPatch false)) ∧
    (∀ name, ((DeclarationPass.reconcile op name).run.run .direct k).2.Governed tls) ∧
    (∀ name, ((ModuleConfigPass.reconcile op name).run.run .direct k).2.Governed tls) ∧
    (∀ d calls reason m, Pass.Recorded (if d.isDeleting then DeclarationPass.release op d
        else DeclarationPass.converge op d) k calls (.ok (.invalid reason)) m →
      (∀ c ∈ calls, c.before.Governed tls) →
      ∃ c ∈ calls, c.request = .get .moduleConfigs ModuleConfig.singleton ∧
        ∀ name e, c.before.object? .declarations name = some e → e.isDeleting = false →
          e.spec ≠ d.spec) ∧
    ∀ calls result m,
      Pass.Recorded (ModuleConfigPass.reconcile op ModuleConfig.singleton) k calls result m →
      (∀ c ∈ calls, c.before.Governed tls) → ∀ c ∈ calls, ∀ name,
        c.request = .patch .storageClasses name (ModuleConfigPass.mismatchPatch true) →
        ∃ looked listed rest, calls = looked :: listed :: rest ∧
          listed.before.config.spec ≠ looked.before.config.spec := by
  have valid := governed.valid
  refine ⟨fun _ _ => valid.declarations, ?_, ?_, ?_, ?_, ?_, ?_⟩
  · intro name d reason l found
    cases state : d.isDeleting with
    | true => exact fun ended => DeclarationPass.not_invalid_release ended.recorded
    | false =>
        exact DeclarationPass.not_invalid_converge (compiled ▸ valid.declarations found state)
  · intro r sent
    rcases ModuleConfigPass.asks_reconcile op _ k r sent with reads | ⟨name, mismatch, rfl, faulty⟩
    · exact Or.inl reads
    · cases mismatch with
      | false => exact Or.inr ⟨name, rfl⟩
      | true =>
          obtain ⟨n, d, found, staying, fault⟩ := faulty rfl
          exact absurd (compiled ▸ valid.declarations found staying) fault
  · exact fun name => governed.run (Cluster.asks_exempt_declaration op name k)
  · intro name
    refine governed.run (Program.Asks.mono (ModuleConfigPass.asks_reconcile op name k) ?_)
    exact fun _ => Cluster.exempt_of_marksIf
  · intro d calls reason m runs reviewed
    cases state : d.isDeleting with
    | true =>
        rw [state] at runs
        exact absurd runs DeclarationPass.not_invalid_release
    | false =>
        rw [state] at runs
        exact DeclarationPass.stale_of_invalid_converge runs (compiled ▸ reviewed)
  · intro calls result m runs reviewed c made name marks
    exact ModuleConfigPass.stale_of_marked runs (compiled ▸ reviewed) made marks

/-- A configuration that supports version 3 is made, then a declaration that mounts it; taking the
support back is denied. -/
theorem review_keeps_valid_denied :
    let config (supports : Bool) : ModuleConfig :=
      { metadata := { name := some ModuleConfig.singleton }
        spec := { settings := { v3support := some supports } } }
    let declaration : Declaration :=
      { metadata := { name := some "a" }
        spec :=
          { connection := { host := "host", share := "/share", nfsVersion := .v3 }
            reclaimPolicy := .delete
            volumeBindingMode := .immediate } }
    let reviewed (k : Cluster) (verdict : Program Admission.Verdict) (r : Request) : Cluster :=
      if (verdict.run .direct k).1 = .allowed then (k.serve r).2 else k
    let configured := reviewed {}
      (Admission.admitModuleConfig true ⟨"1", .create, some (config true)⟩)
      (.create .moduleConfigs (config true))
    let declared := reviewed configured
      (Admission.admitDeclaration true ⟨"2", .create, some declaration⟩)
      (.create .declarations declaration)
    let k := reviewed declared
      (Admission.admitModuleConfig true ⟨"3", .update, some (config false)⟩)
      (.replace .moduleConfigs ModuleConfig.singleton (config false))
    k.Governed true ∧ ∃ d, k.object? .declarations "a" = some d ∧ d.isDeleting = false ∧
      d.spec.connection.nfsVersion = .v3 ∧ k.config.validate true d = .ok () := by
  intro config declaration reviewed configured declared k
  have configuredGoverned : configured.Governed true :=
    .step (.start (fun _ => rfl) (fun _ => rfl)) (.configure "1" (.create _) nofun rfl rfl)
  have declaredGoverned : declared.Governed true :=
    .step configuredGoverned (.declare "2" (.create _) nofun)
  have governed : k.Governed true :=
    .step declaredGoverned (.configure "3" (.replace _ _) nofun rfl rfl)
  have there : (k.object? .declarations "a").any (fun d : Declaration =>
      !d.isDeleting && d.spec.connection.nfsVersion = .v3) = true := by decide +kernel
  obtain ⟨d, found, stays⟩ := (Option.any_eq_true _ _).mp there
  obtain ⟨staying, v3⟩ := Bool.and_eq_true_iff.mp stays
  have staying : d.isDeleting = false := by simpa using staying
  refine ⟨governed, d, found, staying, of_decide_eq_true v3, ?_⟩
  exact (review_keeps_valid governed {} rfl).1 "a" d found staying

end NfsStorage

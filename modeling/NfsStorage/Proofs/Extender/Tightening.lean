import NfsStorage.Proofs.Extender.Filtering

/-!
# More claims let fewer nodes pass

The verdict on a pod depends on which volumes it has, and not on their order or on how often they
are named. Further volumes can only take candidates away. This is so because the nodes that all
declarations select are told by the set of the declarations: a selector that cannot be read is an
error as soon as there is a node to try it on, whatever the other declarations select.
-/

namespace NfsStorage

def Pod.volumes (pod : Pod) : List PodVolume := (pod.spec.bind (·.volumes)).getD []

theorem Pod.mem_claimNames {pod : Pod} {name : String} : name ∈ pod.claimNames ↔
    ∃ volume ∈ pod.volumes, volume.persistentVolumeClaim.map (·.claimName) = some name :=
  List.mem_filterMap

theorem sortedNames_congr {names others : List String}
    (same : ∀ name, name ∈ others ↔ name ∈ names) : sortedNames others = sortedNames names := by
  refine congrArg Dict.keys (Dict.ext_get? fun name => ?_)
  simp only [Dict.get?_ofList_same, same]

section Failing

variable {α β ε : Type} {f : α → Except ε β} {e : ε}

theorem bind_eq_error_iff {result : Except ε α} : result >>= f = .error e ↔
    result = .error e ∨ ∃ a, result = .ok a ∧ f a = .error e := by
  cases result <;> simp [bind, Except.bind]

theorem mapM_cons_eq_error_iff {first : α} {rest : List α} :
    (first :: rest).mapM f = .error e ↔
      f first = .error e ∨ (∃ value, f first = .ok value) ∧ rest.mapM f = .error e := by
  simp only [List.mapM_cons, bind_eq_error_iff, pure, Except.pure, reduceCtorEq, and_false,
    exists_false, or_false, exists_and_right]

theorem mapM_eq_error_iff {items : List α} :
    items.mapM f = .error e ↔ ∃ before item rest, items = before ++ item :: rest ∧
      (∀ earlier ∈ before, ∃ value, f earlier = .ok value) ∧ f item = .error e := by
  induction items with
  | nil => simp [List.mapM_nil, pure, Except.pure]
  | cons first rest inductionHypothesis =>
      rw [mapM_cons_eq_error_iff, inductionHypothesis]
      constructor
      · rintro (failed | ⟨done, before, item, others, rfl, earlier, failed⟩)
        · exact ⟨[], first, rest, rfl, nofun, failed⟩
        · exact ⟨first :: before, item, others, rfl, List.forall_mem_cons.mpr ⟨done, earlier⟩,
            failed⟩
      · rintro ⟨before, item, others, same, earlier, failed⟩
        cases before with
        | nil =>
            obtain ⟨rfl, rfl⟩ := List.cons.inj same
            exact Or.inl failed
        | cons head before =>
            obtain ⟨rfl, rfl⟩ := List.cons.inj same
            obtain ⟨done, earlier⟩ := List.forall_mem_cons.mp earlier
            exact Or.inr ⟨done, before, item, others, rfl, earlier, failed⟩

end Failing

namespace Extender

open Pass (Succeeds)

section Admission

variable {declarations others : List Declaration} {nodes : List Node} {e : Error}

theorem exists_filterAuxM_ok {α ε : Type} {p : α → Except ε Bool}
    (tested : ∀ item, ∃ passes, p item = .ok passes) (items chosen : List α) :
    ∃ kept, items.filterAuxM p chosen = .ok kept := by
  induction items generalizing chosen with
  | nil => exact ⟨chosen, rfl⟩
  | cons first rest inductionHypothesis =>
      obtain ⟨passes, done⟩ := tested first
      obtain ⟨kept, filtered⟩ := inductionHypothesis (cond passes (first :: chosen) chosen)
      exact ⟨kept, bind_eq_ok_iff.mpr ⟨passes, done, filtered⟩⟩

theorem exists_selectedNames {d : Declaration} {conditions : List Condition}
    (valid : d.nodeSelector.conditions = .ok conditions) (nodes : List Node) :
    ∃ names, selectedNames d nodes = .ok names := by
  have tested (node : Node) : ∃ passes, (d.nodeSelector.selects node.metadata.labels).mapError
      (Error.invalidSelector d.name) = .ok passes := by
    rw [LabelSelector.selects, valid]
    exact ⟨_, rfl⟩
  obtain ⟨chosen, filtered⟩ := exists_filterAuxM_ok tested nodes []
  exact ⟨_, bind_eq_ok_iff.mpr ⟨_, bind_eq_ok_iff.mpr ⟨chosen, filtered, rfl⟩, rfl⟩⟩

theorem selectedNames_of_invalid {d : Declaration} {cause : SelectorError}
    (invalid : d.nodeSelector.conditions = .error cause) (node : Node) (rest : List Node) :
    selectedNames d (node :: rest) = .error (.invalidSelector d.name cause) := by
  have fails : (d.nodeSelector.selects node.metadata.labels).mapError
      (Error.invalidSelector d.name) = .error (.invalidSelector d.name cause) := by
    rw [LabelSelector.selects, invalid]
    rfl
  exact bind_eq_error_iff.mpr (Or.inl (bind_eq_error_iff.mpr (Or.inl
    (bind_eq_error_iff.mpr (Or.inl fails)))))

theorem selectedNames_eq_error_iff {d : Declaration} : selectedNames d nodes = .error e ↔
    nodes ≠ [] ∧ ∃ cause, d.nodeSelector.conditions = .error cause ∧
      e = .invalidSelector d.name cause := by
  cases read : d.nodeSelector.conditions with
  | ok conditions =>
      obtain ⟨names, selected⟩ := exists_selectedNames read nodes
      simp [selected]
  | error cause =>
      cases nodes with
      | nil => exact iff_of_false nofun fun failed => failed.1 rfl
      | cons node rest => simp [selectedNames_of_invalid read, eq_comm]

theorem exists_selectedNames_iff {d : Declaration} (some : nodes ≠ []) :
    (∃ names, selectedNames d nodes = .ok names) ↔
      ∃ conditions, d.nodeSelector.conditions = .ok conditions := by
  constructor
  · rintro ⟨names, selected⟩
    cases read : d.nodeSelector.conditions with
    | ok conditions => exact ⟨conditions, rfl⟩
    | error cause =>
        have failed := selectedNames_eq_error_iff.mpr ⟨some, cause, read, rfl⟩
        exact nomatch selected.symm.trans failed
  · rintro ⟨conditions, valid⟩
    exact exists_selectedNames valid nodes

/-- The nodes that all declarations select are not told where there is a node and a selector that
cannot be read. The error names the first declaration with such a selector. -/
theorem admittedNames_eq_error_iff : admittedNames declarations nodes = .error e ↔
    nodes ≠ [] ∧ ∃ before d rest cause, declarations = before ++ d :: rest ∧
      (∀ earlier ∈ before, ∃ conditions, earlier.nodeSelector.conditions = .ok conditions) ∧
      d.nodeSelector.conditions = .error cause ∧ e = .invalidSelector d.name cause := by
  have first : admittedNames declarations nodes = .error e ↔
      declarations.mapM (fun d => selectedNames d nodes) = .error e := by
    rw [admittedNames, bind_eq_error_iff]
    simp [pure, Except.pure]
  rw [first, mapM_eq_error_iff]
  constructor
  · rintro ⟨before, d, rest, same, earlier, failed⟩
    obtain ⟨some, cause, invalid, error⟩ := selectedNames_eq_error_iff.mp failed
    exact ⟨some, before, d, rest, cause, same,
      fun d there => (exists_selectedNames_iff some).mp (earlier d there), invalid, error⟩
  · rintro ⟨some, before, d, rest, cause, same, earlier, invalid, error⟩
    exact ⟨before, d, rest, same,
      fun d there => (exists_selectedNames_iff some).mpr (earlier d there),
      selectedNames_eq_error_iff.mpr ⟨some, cause, invalid, error⟩⟩

theorem exists_admittedNames_iff : (∃ names, admittedNames declarations nodes = .ok names) ↔
    (nodes ≠ [] → ∀ d ∈ declarations, ∃ conditions,
      d.nodeSelector.conditions = .ok conditions) := by
  constructor
  · rintro ⟨names, admitted⟩ some d there
    obtain ⟨selections, selected, -⟩ := bind_eq_ok_iff.mp admitted
    obtain ⟨chosen, -, selected⟩ := (exists_of_mapM_ok selected).1 d there
    exact (exists_selectedNames_iff some).mp ⟨chosen, selected⟩
  · intro valid
    cases admitted : admittedNames declarations nodes with
    | ok names => exact ⟨names, rfl⟩
    | error e =>
        obtain ⟨some, before, d, rest, cause, rfl, -, invalid, -⟩ :=
          admittedNames_eq_error_iff.mp admitted
        obtain ⟨conditions, ok⟩ := valid some d (by simp)
        exact nomatch ok.symm.trans invalid

theorem exists_sortedNames_eq {names : List String}
    (admitted : admittedNames declarations nodes = .ok names) :
    ∃ chosen, names = sortedNames chosen := by
  obtain ⟨selections, -, admitted⟩ := bind_eq_ok_iff.mp admitted
  obtain rfl := Except.ok.inj admitted
  cases selections with
  | nil => exact ⟨[], rfl⟩
  | cons first rest => exact ⟨_, rfl⟩

/-- Whether there is an answer, and which nodes are in it, is told by the set of the declarations
and the set of the nodes. -/
theorem toOption_admittedNames_congr {others : List Declaration} {nodes' : List Node}
    (same : ∀ d, d ∈ others ↔ d ∈ declarations) (alike : ∀ node, node ∈ nodes' ↔ node ∈ nodes) :
    (admittedNames others nodes').toOption = (admittedNames declarations nodes).toOption := by
  have empty : nodes' = [] ↔ nodes = [] := by
    simp only [List.eq_nil_iff_forall_not_mem, alike]
  have answered : (∃ names, admittedNames others nodes' = .ok names) ↔
      ∃ names, admittedNames declarations nodes = .ok names := by
    simp only [exists_admittedNames_iff, same, ne_eq, empty]
  cases admitted : admittedNames declarations nodes with
  | error e =>
      cases admitted' : admittedNames others nodes' with
      | error e' => rfl
      | ok names' =>
          obtain ⟨names, contrary⟩ := answered.mp ⟨names', admitted'⟩
          exact nomatch admitted.symm.trans contrary
  | ok names =>
      obtain ⟨names', admitted'⟩ := answered.mpr ⟨names, admitted⟩
      rw [admitted']
      refine congrArg some ?_
      by_cases none : declarations = []
      · subst none
        obtain rfl : others = [] :=
          List.eq_nil_iff_forall_not_mem.mpr fun d there => nomatch (same d).mp there
        exact Except.ok.inj (admitted'.symm.trans admitted)
      · have some : others ≠ [] := by
          obtain ⟨d, there⟩ := List.exists_mem_of_ne_nil _ none
          exact List.ne_nil_of_mem ((same d).mpr there)
        have equal (name : String) : name ∈ names' ↔ name ∈ names := by
          rw [mem_of_admittedNames admitted' some, mem_of_admittedNames admitted none]
          simp only [same, alike]
        obtain ⟨chosen, rfl⟩ := exists_sortedNames_eq admitted
        obtain ⟨chosen', rfl⟩ := exists_sortedNames_eq admitted'
        exact sortedNames_congr fun name => by simpa only [mem_sortedNames] using equal name

theorem admittedNames_congr {others : List Declaration} {names : List String}
    (admitted : admittedNames declarations nodes = .ok names)
    (same : ∀ d, d ∈ others ↔ d ∈ declarations) : admittedNames others nodes = .ok names := by
  have equal : (admittedNames others nodes).toOption =
      (admittedNames declarations nodes).toOption :=
    toOption_admittedNames_congr same fun _ => Iff.rfl
  rw [admitted] at equal
  generalize admittedNames others nodes = result at equal ⊢
  cases result with
  | error e => exact nomatch equal
  | ok names' => exact congrArg Except.ok (Option.some.inj equal)

end Admission

section Filter

variable {k l : Cluster} {«namespace» name : String}

theorem exists_succeeds_backingAll {names : List String}
    (each : ∀ name ∈ names, ∃ found, Succeeds (backing «namespace» name) k found k) :
    ∃ declarations, Succeeds (backingAll «namespace» names) k declarations k := by
  induction names with
  | nil => exact ⟨[], Pass.succeeds_pure.mpr ⟨rfl, rfl⟩⟩
  | cons name rest inductionHypothesis =>
      obtain ⟨⟨found, looked⟩, each⟩ := List.forall_mem_cons.mp each
      obtain ⟨others, lookedOn⟩ := inductionHypothesis each
      exact ⟨found.toList ++ others, Pass.succeeds_bind.mpr ⟨found, k, looked,
        Pass.succeeds_bind.mpr ⟨others, k, lookedOn, Pass.succeeds_pure.mpr ⟨rfl, rfl⟩⟩⟩⟩

theorem succeeds_backingAll_congr {names others : List String} {declarations : List Declaration}
    (succeeds : Succeeds (backingAll «namespace» names) k declarations l)
    (same : ∀ name, name ∈ others ↔ name ∈ names) :
    ∃ found, Succeeds (backingAll «namespace» others) k found k ∧
      ∀ d, d ∈ found ↔ d ∈ declarations := by
  obtain ⟨-, each, behind⟩ := mem_of_succeeds_backingAll succeeds
  obtain ⟨found, lookedOn⟩ : ∃ found, Succeeds (backingAll «namespace» others) k found k :=
    exists_succeeds_backingAll fun name there => each name ((same name).mp there)
  refine ⟨found, lookedOn, fun d => ?_⟩
  rw [(mem_of_succeeds_backingAll lookedOn).2.2, behind]
  simp only [same]

theorem succeeds_admission_congr {declarations others : List Declaration} {passes : String → Bool}
    (succeeds : Succeeds (admission declarations) k passes l)
    (same : ∀ d, d ∈ others ↔ d ∈ declarations) : Succeeds (admission others) k passes k := by
  unfold admission at succeeds ⊢
  have empty : others = [] ↔ declarations = [] := by
    simp only [List.eq_nil_iff_forall_not_mem, same]
  simp only [List.isEmpty_iff, empty]
  simp only [List.isEmpty_iff] at succeeds
  split at succeeds
  next none =>
    obtain ⟨rfl, rfl⟩ := Pass.succeeds_pure.mp succeeds
    rw [if_pos none]
    exact Pass.succeeds_pure.mpr ⟨rfl, rfl⟩
  next some =>
    rw [if_neg some]
    obtain ⟨nodes, _, listed, admitting⟩ := Pass.succeeds_bind.mp succeeds
    obtain ⟨names, _, lifted, ended⟩ := Pass.succeeds_bind.mp admitting
    obtain ⟨admitted, rfl⟩ := Pass.succeeds_lift.mp lifted
    obtain ⟨rfl, rfl⟩ := Pass.succeeds_pure.mp ended
    obtain rfl := (Pass.succeeds_list.mp listed).2.2
    exact Pass.succeeds_bind.mpr ⟨nodes, _, listed, Pass.succeeds_bind.mpr ⟨names, _,
      Pass.succeeds_lift.mpr ⟨admittedNames_congr admitted same, rfl⟩,
      Pass.succeeds_pure.mpr ⟨rfl, rfl⟩⟩⟩

/-- With further declarations no node passes that did not pass before. -/
theorem passes_of_succeeds_admission {declarations others : List Declaration}
    {passes fewer : String → Bool} {m : Cluster}
    (succeeds : Succeeds (admission declarations) k passes l)
    (further : Succeeds (admission others) k fewer m) (more : declarations ⊆ others)
    (passing : fewer name = true) : passes name = true := by
  obtain ⟨-, unbacked, tests⟩ := succeeds_admission succeeds
  by_cases none : declarations = []
  · rw [unbacked none]
  · have some : others ≠ [] := by
      obtain ⟨d, there⟩ := List.exists_mem_of_ne_nil _ none
      exact List.ne_nil_of_mem (more there)
    have all := ((succeeds_admission further).2.2 some name).mp passing
    exact (tests none name).mpr fun d there => all d (more there)

theorem podOf_eq_ok_iff {q : Question} {pod : Pod} : podOf q = .ok pod ↔ q.pod = some pod := by
  unfold podOf
  cases q.pod <;> simp

theorem succeeds_filter_iff {q : Question} {v : Verdict} : Succeeds (filter q) k v l ↔
    l = k ∧ ∃ pod candidates declarations passes, q.pod = some pod ∧
      Candidates.ofQuestion q = .ok candidates ∧
      Succeeds (backingAll pod.namespace pod.claimNames) k declarations k ∧
      Succeeds (admission declarations) k passes k ∧ v = Verdict.divide passes candidates := by
  constructor
  · intro succeeds
    obtain ⟨pod, _, lifted, offering⟩ := Pass.succeeds_bind.mp succeeds
    obtain ⟨given, rfl⟩ := Pass.succeeds_lift.mp lifted
    obtain ⟨candidates, _, lifted, backingIt⟩ := Pass.succeeds_bind.mp offering
    obtain ⟨offered, rfl⟩ := Pass.succeeds_lift.mp lifted
    obtain ⟨declarations, _, backed, admitting⟩ := Pass.succeeds_bind.mp backingIt
    obtain rfl := (mem_of_succeeds_backingAll backed).1
    obtain ⟨passes, _, admitted, ended⟩ := Pass.succeeds_bind.mp admitting
    obtain rfl := (succeeds_admission admitted).1
    obtain ⟨rfl, rfl⟩ := Pass.succeeds_pure.mp ended
    exact ⟨rfl, pod, candidates, declarations, passes, podOf_eq_ok_iff.mp given, offered, backed,
      admitted, rfl⟩
  · rintro ⟨rfl, pod, candidates, declarations, passes, given, offered, backed, admitted, rfl⟩
    exact Pass.succeeds_bind.mpr ⟨pod, _, Pass.succeeds_lift.mpr ⟨podOf_eq_ok_iff.mpr given, rfl⟩,
      Pass.succeeds_bind.mpr ⟨candidates, _, Pass.succeeds_lift.mpr ⟨offered, rfl⟩,
      Pass.succeeds_bind.mpr ⟨declarations, _, backed, Pass.succeeds_bind.mpr ⟨passes, _, admitted,
        Pass.succeeds_pure.mpr ⟨rfl, rfl⟩⟩⟩⟩⟩

theorem succeeds_filter_of_same {q : Question} {pod other : Pod} {v : Verdict}
    (asked : q.pod = some pod) (succeeds : Succeeds (filter q) k v l)
    (together : other.namespace = pod.namespace)
    (same : ∀ volume, volume ∈ other.volumes ↔ volume ∈ pod.volumes) :
    Succeeds (filter { q with pod := some other }) k v l := by
  obtain ⟨rfl, _, candidates, declarations, passes, given, offered, backed, admitted, rfl⟩ :=
    succeeds_filter_iff.mp succeeds
  obtain rfl := Option.some.inj (asked.symm.trans given)
  have claims (name : String) : name ∈ other.claimNames ↔ name ∈ pod.claimNames := by
    simp only [Pod.mem_claimNames, same]
  obtain ⟨found, lookedOn, equal⟩ := succeeds_backingAll_congr backed claims
  exact succeeds_filter_iff.mpr ⟨rfl, other, candidates, found, passes, rfl, offered,
    together ▸ lookedOn, succeeds_admission_congr admitted equal, rfl⟩

theorem exists_divide_of_more {q : Question} {pod larger : Pod} {v w : Verdict} {m : Cluster}
    (asked : q.pod = some pod) (succeeds : Succeeds (filter q) k v l)
    (together : larger.namespace = pod.namespace) (more : pod.volumes ⊆ larger.volumes)
    (further : Succeeds (filter { q with pod := some larger }) k w m) :
    ∃ candidates passes fewer, v = Verdict.divide passes candidates ∧
      w = Verdict.divide fewer candidates ∧ ∀ name, fewer name = true → passes name = true := by
  obtain ⟨-, _, candidates, declarations, passes, given, offered, backed, admitted, rfl⟩ :=
    succeeds_filter_iff.mp succeeds
  obtain rfl := Option.some.inj (asked.symm.trans given)
  obtain ⟨-, _, candidates', others, fewer, given', offered', backed', admitted', rfl⟩ :=
    succeeds_filter_iff.mp further
  obtain rfl := Option.some.inj given'
  obtain rfl : candidates = candidates' := Except.ok.inj (offered.symm.trans offered')
  refine ⟨candidates, passes, fewer, rfl, rfl, fun name passing => ?_⟩
  refine passes_of_succeeds_admission admitted admitted' (fun d there => ?_) passing
  obtain ⟨claim, listed, behind⟩ := ((mem_of_succeeds_backingAll backed).2.2 d).mp there
  obtain ⟨volume, mounted, named⟩ := Pod.mem_claimNames.mp listed
  exact ((mem_of_succeeds_backingAll backed').2.2 d).mpr
    ⟨claim, Pod.mem_claimNames.mpr ⟨volume, more mounted, named⟩, together ▸ behind⟩

end Filter

theorem sublist_filter_of_imp {α : Type} {p q : α → Bool} (items : List α)
    (implied : ∀ item, p item = true → q item = true) :
    (items.filter p).Sublist (items.filter q) := by
  have both : items.filter p = (items.filter q).filter p := by
    rw [List.filter_filter]
    refine List.filter_congr fun item _ => ?_
    cases holds : p item with
    | false => rfl
    | true => rw [implied item holds]; rfl
  rw [both]
  exact List.filter_sublist

/-- The same volumes lead to the same verdict, in whatever order and however often they are given,
and of the candidates that pass with further volumes each passes without them. So it is with the
nodes that all declarations select: the set of the declarations and that of the nodes tell which
they are and whether they can be told. They cannot as soon as there is a node and a declaration with
a selector that cannot be read, and the first such declaration is named. -/
theorem filter_tightens :
    (∀ {k l : Cluster} {q : Question} {pod : Pod} {v : Verdict}, q.pod = some pod →
      (filter q).run.run .direct k = (.ok v, l) →
      (∀ other : Pod, other.namespace = pod.namespace →
        (∀ volume, volume ∈ other.volumes ↔ volume ∈ pod.volumes) →
        (filter { q with pod := some other }).run.run .direct k = (.ok v, l)) ∧
      ∀ (larger : Pod) (w : Verdict) (m : Cluster), larger.namespace = pod.namespace →
        pod.volumes ⊆ larger.volumes →
        (filter { q with pod := some larger }).run.run .direct k = (.ok w, m) →
        w.nodeNames.Sublist v.nodeNames ∧ ∀ given, v.nodes = some given →
          ∃ fewer, w.nodes = some fewer ∧ fewer.items.Sublist given.items) ∧
    ∀ (declarations : List Declaration) (nodes : List Node),
      (∀ e, admittedNames declarations nodes = .error e ↔
        nodes ≠ [] ∧ ∃ before d rest cause, declarations = before ++ d :: rest ∧
          (∀ earlier ∈ before, ∃ conditions, earlier.nodeSelector.conditions = .ok conditions) ∧
          d.nodeSelector.conditions = .error cause ∧ e = .invalidSelector d.name cause) ∧
      ∀ (others : List Declaration) (nodes' : List Node), (∀ d, d ∈ others ↔ d ∈ declarations) →
        (∀ node, node ∈ nodes' ↔ node ∈ nodes) →
        (admittedNames others nodes').toOption = (admittedNames declarations nodes).toOption := by
  refine ⟨fun {k l q pod v} asked filtered =>
    ⟨fun other => succeeds_filter_of_same asked filtered, ?_⟩, fun declarations nodes =>
    ⟨fun e => admittedNames_eq_error_iff, fun others nodes' => toOption_admittedNames_congr⟩⟩
  intro larger w m together more further
  obtain ⟨candidates, passes, fewer, rfl, rfl, implied⟩ :=
    exists_divide_of_more asked filtered together more further
  refine ⟨sublist_filter_of_imp _ implied, fun given echoed => ?_⟩
  cases candidates with
  | names => exact nomatch echoed
  | nodes candidates =>
      obtain rfl := Option.some.inj echoed
      exact ⟨_, rfl, sublist_filter_of_imp _ fun node => implied node.name⟩

def mountingTwice : Pod :=
  { mounting with spec := some { volumes := some (mounting.volumes ++ mounting.volumes) } }

def mountingNothing : Pod := { mounting with spec := none }

/-- The verdict is the same where the claim is mounted twice, and without the claim the other node
passes as well. -/
theorem filter_tightens_mounted : ∃ v w : Verdict,
    (filter asking).run.run .direct mounted = (.ok v, mounted) ∧
    (filter { asking with pod := some mountingTwice }).run.run .direct mounted =
      (.ok v, mounted) ∧
    (filter { asking with pod := some mountingNothing }).run.run .direct mounted =
      (.ok w, mounted) ∧
    v.nodeNames = ["chosen", "chosen"] ∧ w.nodeNames = ["chosen", "other", "chosen"] ∧
    v.nodeNames.Sublist w.nodeNames := by
  obtain ⟨v, filtered, passing, -⟩ := filter_asking
  obtain ⟨w, unmounted, all⟩ : ∃ w, (filter { asking with pod := some mountingNothing }).run.run
      .direct mounted = (.ok w, mounted) ∧ w.nodeNames = ["chosen", "other", "chosen"] :=
    ⟨_, rfl, rfl⟩
  obtain ⟨tightens, -⟩ := filter_tightens
  have twice := (tightens (q := asking) rfl filtered).1 mountingTwice rfl fun volume => by
    simp [mountingTwice, Pod.volumes, mounting]
  have tightened := ((tightens (q := { asking with pod := some mountingNothing }) rfl unmounted).2
    mounting v mounted rfl nofun filtered).1
  exact ⟨v, w, filtered, twice, unmounted, passing, all, tightened⟩

end Extender

end NfsStorage

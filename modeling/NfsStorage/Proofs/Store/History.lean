import NfsStorage.Proofs.Store.Coherent

/-!
# Histories of a store

Versions are never given out twice, not even to a name whose object was removed and created anew in
between. So whoever replaces an object by the version under which it was seen overwrites nothing
that was not seen: a write that came in between would have given the name another version.
-/

namespace NfsStorage

namespace Store

section Versions

variable {K : Type} [Resource K]

/-- An object that a history showed: one that lay in a store on the way, or that a client was
answered with. -/
inductive Shown (s : Store K) (operations : List (Operation K)) (object : K) : Prop where
  | stored (name : String) (earlier later : List (Operation K))
      (split : operations = earlier ++ later)
      (found : (s.after earlier).get? name = some object)
  | answered (operation : Operation K) (earlier later : List (Operation K)) (shown : List K)
      (split : operations = earlier ++ operation :: later)
      (answer : ((s.after earlier).perform operation).1 = .ok shown) (membership : object ∈ shown)

theorem Performed.version_le {s s' : Store K} {operation : Operation K}
    {answer : Except StoreError (List K)} (performed : s.Performed operation answer s') :
    s.version ≤ s'.version := by
  cases performed with
  | failed | looked | alreadyGone | governed => exact Nat.le_refl _
  | wrote => exact Nat.le_succ _

theorem version_le_after (s : Store K) (operations : List (Operation K)) :
    s.version ≤ (s.after operations).version :=
  after_induction
    (fun later operation _ before => Nat.le_trans before (later.performed operation).version_le)
    (Nat.le_refl _)

end Versions

variable {c : Collection} {s s' : Store c.Object} {operation : Operation c.Object}
  {answer : Except StoreError (List c.Object)} {shown : List c.Object}

theorem Performed.versioned (performed : s.Performed operation answer s') (versioned : s.Versioned) :
    s'.Versioned := by
  cases performed with
  | failed | looked | alreadyGone => exact versioned
  | governed => exact versioned.of_objects id (Nat.le_refl _)
  | wrote verb name object => exact versioned.put verb name object

theorem Versioned.after (versioned : s.Versioned) (operations : List (Operation c.Object)) :
    (s.after operations).Versioned :=
  after_induction (fun s operation _ => (s.performed operation).versioned) versioned

theorem Performed.dates (performed : s.Performed operation (.ok shown) s')
    (versioned : s.Versioned) {object : c.Object} (membership : object ∈ shown) : s'.Dates object := by
  cases performed with
  | looked _ stored =>
      obtain ⟨name, found⟩ := stored object membership
      exact versioned.versioned found
  | alreadyGone | governed => cases membership
  | wrote verb name written _ _ answered =>
      obtain rfl := answered object membership
      exact ⟨s.version + 1, Nat.le_refl _, s.resourceVersion_stamped name written⟩

theorem Versioned.dates_of_shown (versioned : s.Versioned) {operations : List (Operation c.Object)}
    {object : c.Object} (shown : s.Shown operations object) : (s.after operations).Dates object := by
  cases shown with
  | stored name earlier later split found =>
      rw [split, after_append]
      exact ((versioned.after earlier).dates found).mono (version_le_after _ later)
  | answered operation earlier later shown split answer membership =>
      rw [split, after_append, after_cons]
      exact ((performed_of_ok answer).dates (versioned.after earlier) membership).mono
        (version_le_after _ later)

/-- A version that was given out, and that is not the one of what has a name now. -/
structure Superseded (s : Store c.Object) (name : String) (version : Nat) : Prop where
  versioned : s.Versioned
  given : version ≤ s.version
  gone : ∀ found, s.get? name = some found →
    (Resource.metadata found).resourceVersion ≠ some (toString version)

theorem superseded_put (versioned : s.Versioned) {version : Nat} (given : version ≤ s.version)
    (verb : Verb) (name : String) (object : c.Object) :
    (s.put verb name object).2.Superseded name version where
  versioned := versioned.put verb name object
  given := Nat.le_succ_of_le given
  gone found present := by
    rcases eq_stamped_of_get?_put present with ⟨-, rfl, -⟩ | ⟨elsewhere, -⟩
    · rw [resourceVersion_stamped]
      intro same
      have := eq_of_toString_eq (Option.some.inj same)
      omega
    · exact absurd rfl elsewhere

theorem Superseded.put {name : String} {version : Nat} (superseded : s.Superseded name version)
    (verb : Verb) (target : String) (object : c.Object) :
    (s.put verb target object).2.Superseded name version := by
  by_cases here : target = name
  · subst here
    exact superseded_put superseded.versioned superseded.given verb target object
  · refine ⟨superseded.versioned.put verb target object, Nat.le_succ_of_le superseded.given,
      fun found present => ?_⟩
    rw [get?_put_of_ne _ _ _ fun same => here same.symm] at present
    exact superseded.gone found present

theorem Performed.superseded {name : String} {version : Nat}
    (performed : s.Performed operation answer s') (superseded : s.Superseded name version) :
    s'.Superseded name version := by
  cases performed with
  | failed | looked | alreadyGone => exact superseded
  | governed =>
      exact ⟨superseded.versioned.of_objects id (Nat.le_refl _), superseded.given, superseded.gone⟩
  | wrote verb target object => exact superseded.put verb target object

theorem Superseded.after {name : String} {version : Nat} (superseded : s.Superseded name version)
    (operations : List (Operation c.Object)) : (s.after operations).Superseded name version :=
  after_induction (fun s operation _ => (s.performed operation).superseded) superseded

/-- An operation that writes a name and does not fail takes from it any version it had. -/
theorem Performed.superseded_of_ok (performed : s.Performed operation (.ok shown) s')
    (versioned : s.Versioned) {verb : Verb} {name : String}
    (writes : operation.writes? = some (verb, name)) {version : Nat} (given : version ≤ s.version) :
    s'.Superseded name version := by
  cases performed with
  | looked _ _ idle | governed _ idle => cases idle.symm.trans writes
  | alreadyGone now target same absent =>
      subst same
      obtain ⟨-, rfl⟩ := Prod.mk.inj (Option.some.inj writes)
      exact ⟨versioned, given, fun found present => nomatch absent.symm.trans present⟩
  | wrote _ target object _ written =>
      obtain ⟨-, rfl⟩ := Prod.mk.inj (Option.some.inj (written.writes?_eq.symm.trans writes))
      exact superseded_put versioned given _ target object

theorem Superseded.replace_fails {name : String} {version : Nat}
    (superseded : s.Superseded name version) {object : c.Object}
    (carried : (Resource.metadata object).resourceVersion = some (toString version)) :
    ¬ s.Performed (.replace name object) (.ok shown) s' := by
  intro performed
  cases performed with
  | looked _ _ idle | governed _ idle => cases idle
  | alreadyGone _ _ same => cases same
  | wrote verb target written _ writes =>
      generalize found : s.get? target = before at writes
      cases writes with
      | replace _ _ old current => exact superseded.gone old found (current _ carried)

/-- What a successful write leaves in the store or answers has the next version. -/
theorem Performed.resourceVersion (performed : s.Performed operation (.ok shown) s') {verb : Verb}
    {name : String} (writes : operation.writes? = some (verb, name)) {given : c.Object}
    (new : given ∈ shown ∨ s'.get? name = some given) :
    (Resource.metadata given).resourceVersion = some (toString (s.version + 1)) := by
  cases performed with
  | looked _ _ idle | governed _ idle => cases idle.symm.trans writes
  | alreadyGone now target same absent =>
      subst same
      obtain ⟨-, rfl⟩ := Prod.mk.inj (Option.some.inj writes)
      rcases new with answered | found
      · cases answered
      · cases absent.symm.trans found
  | wrote _ target object _ written answered =>
      obtain ⟨-, rfl⟩ := Prod.mk.inj (Option.some.inj (written.writes?_eq.symm.trans writes))
      have stamped : given = s.stamped target object := by
        rcases new with membership | found
        · exact answered given membership
        · rcases eq_stamped_of_get?_put found with ⟨-, same, -⟩ | ⟨elsewhere, -⟩
          · exact same
          · exact absurd rfl elsewhere
      rw [stamped, resourceVersion_stamped]

/-- If a client sees an object under a version and a later replacement that carries the version
succeeds, no operation in between wrote the name that was replaced. For a successful write gives the
name a version that no object shown before had, neither in the store nor in an answer. -/
theorem no_lost_update (objects : List c.Object) (earlier : List (Operation c.Object)) :
    let s := (ofList objects).after earlier
    (∀ reading shown seen version between name new replaced,
      (s.perform reading).1 = .ok shown → seen ∈ shown →
      (Resource.metadata seen).resourceVersion = some version →
      (Resource.metadata new).resourceVersion = some version →
      ((s.after (reading :: between)).perform (.replace name new)).1 = .ok replaced →
      ∀ before operation rest verb, between = before ++ operation :: rest →
        operation.writes? = some (verb, name) →
        ∃ e, ((s.after (reading :: before)).perform operation).1 = .error e) ∧
    ∀ operation verb name shown given, operation.writes? = some (verb, name) →
      (s.perform operation).1 = .ok shown →
      given ∈ shown ∨ (s.perform operation).2.get? name = some given →
      ∀ object, (ofList objects).Shown earlier object →
        (Resource.metadata object).resourceVersion ≠
          (Resource.metadata given).resourceVersion := by
  intro s
  have versioned : s.Versioned := (versioned_ofList objects).after earlier
  constructor
  · intro reading shown seen version between name new replaced answer membership carried same
      succeeded before operation rest verb split writes
    obtain ⟨number, given, dated⟩ := (performed_of_ok answer).dates versioned membership
    obtain rfl := Option.some.inj (carried.symm.trans dated)
    have there : (s.after (reading :: before)).Versioned := versioned.after _
    cases written : ((s.after (reading :: before)).perform operation).1 with
    | error e => exact ⟨e, rfl⟩
    | ok _ =>
        have superseded := ((performed_of_ok written).superseded_of_ok there writes
          (Nat.le_trans given (version_le_after _ before))).after rest
        rw [split, ← List.cons_append, after_append, after_cons] at succeeded
        exact absurd (performed_of_ok succeeded) (superseded.replace_fails same)
  · intro operation verb name shown given writes answer new object before
    rw [(performed_of_ok answer).resourceVersion writes new]
    exact ((versioned_ofList objects).dates_of_shown before).resourceVersion_ne_next

/-- Two clients replace an object that both have seen, one of them with an older version. -/
theorem no_lost_update_stale :
    let carrying (version : String) : Node :=
      { metadata := { name := some "cm", resourceVersion := some version } }
    let s := (ofList [carrying "0"]).after []
    (s.perform (.get "cm")).1 = .ok [carrying "1"] ∧
      ((s.after [.get "cm", .replace "cm" (carrying "0")]).perform
        (.replace "cm" (carrying "1"))).1 = .ok [carrying "2"] ∧
      ∃ e, ((s.after [.get "cm"]).perform (.replace "cm" (carrying "0"))).1 = .error e := by
  intro carrying s
  have succeeds : ∀ {answer : Except StoreError (List Node)} {shown : List Node},
      answer.toOption = some shown → answer = .ok shown := by
    intro answer shown given
    cases answer with
    | error cause => exact nomatch given
    | ok result => exact congrArg Except.ok (Option.some.inj given)
  have seen : (s.perform (.get "cm")).1 = .ok [carrying "1"] := succeeds (by decide +kernel)
  have succeeded : ((s.after [.get "cm", .replace "cm" (carrying "0")]).perform
      (.replace "cm" (carrying "1"))).1 = .ok [carrying "2"] := succeeds (by decide +kernel)
  exact ⟨seen, succeeded, (no_lost_update (c := .nodes) [carrying "0"] []).1 (.get "cm") _ _
    "1" _ "cm" (carrying "1") _ seen (List.mem_singleton_self _) rfl rfl succeeded [] _ [] _ rfl rfl⟩

end Store

end NfsStorage

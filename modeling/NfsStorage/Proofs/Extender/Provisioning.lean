import NfsStorage.Extender.Filter
import NfsStorage.Proofs.Program.Success
import NfsStorage.Proofs.Store.Versioned

/-!
# Who provisions a claim

The extender asks one source after the other for the provisioner of a claim, and stops at the first
that has one. What it finds is what the claim, the storage classes and the volumes tell together. A
claim of the NFS driver is backed by the declaration that is named like its storage class.
-/

namespace NfsStorage

open Extender (givenName?)

namespace Cluster

/-- The claim of this name in a namespace, where a missing namespace counts as empty. -/
def claimIn? (k : Cluster) («namespace» name : String) : Option Claim :=
  (k.object? .claims name).filter fun claim => claim.metadata.namespace.getD "" = «namespace»

/-- The provisioner of a claim is the first that is given by its annotation, the older annotation,
its storage class and its bound volume. An empty text gives nothing. -/
def provisionerOf? (k : Cluster) (claim : Claim) : Option String :=
  [claim.metadata.annotation? Names.provisionerAnnotation,
    claim.metadata.annotation? Names.betaProvisionerAnnotation,
    ((givenName? claim.storageClassName?).bind (k.object? .storageClasses)).map (·.provisioner),
    ((givenName? claim.volumeName?).bind (k.object? .volumes)).bind (·.driver?)].findSome?
      givenName?

/-- The pod mounts a claim that the NFS driver provisions. -/
structure NfsClaim (k : Cluster) (pod : Pod) (claim : Claim) : Prop where
  mounted : ∃ name ∈ pod.claimNames, k.claimIn? pod.namespace name = some claim
  provisioned : k.provisionerOf? claim = some Names.nfsDriver

/-- The declaration is named like the storage class of the claim. -/
def Backs (k : Cluster) (d : Declaration) (claim : Claim) : Prop :=
  ∃ name, claim.storageClassName? = some name ∧ k.object? .declarations name = some d

theorem Backs.eq {k : Cluster} {d other : Declaration} {claim : Claim} (backs : k.Backs d claim)
    (others : k.Backs other claim) : other = d := by
  obtain ⟨name, named, found⟩ := backs
  obtain ⟨_, named', found'⟩ := others
  obtain rfl := Option.some.inj (named.symm.trans named')
  exact Option.some.inj (found'.symm.trans found)

end Cluster

namespace Extender

open Pass (Succeeds)

variable {k l : Cluster} {claim : Claim} {«namespace» name : String}

theorem givenName?_eq_some_iff {given : Option String} :
    givenName? given = some name ↔ given = some name ∧ name ≠ "" := by
  simp [givenName?, Option.filter_eq_some_iff]

theorem succeeds_lookup {c : Collection} {given : Option String}
    {failure : String → StoreError → Error} {f : Option c.Object → Option String} (nothing : f none = none) {found : Option String}
    (succeeds : Succeeds (match given with
      | none => pure none
      | some name => do
        let object ← Pass.request (.get c name) (failure name)
        return f object) k found l) :
    l = k ∧ found = f (given.bind (k.object? c)) := by
  cases given with
  | none =>
      obtain ⟨rfl, rfl⟩ := Pass.succeeds_pure.mp succeeds
      exact ⟨rfl, nothing.symm⟩
  | some name =>
      obtain ⟨_, _, got, succeeds⟩ := Pass.succeeds_bind.mp succeeds
      obtain ⟨-, rfl, rfl⟩ := Pass.succeeds_get.mp got
      obtain ⟨rfl, rfl⟩ := Pass.succeeds_pure.mp succeeds
      exact ⟨rfl, rfl⟩

theorem succeeds_classProvisioner {found : Option String}
    (succeeds : Succeeds (classProvisioner claim) k found l) :
    l = k ∧ found = givenName?
      (((givenName? claim.storageClassName?).bind (k.object? .storageClasses)).map
        (·.provisioner)) := by
  rw [classProvisioner] at succeeds
  exact succeeds_lookup (c := .storageClasses)
    (f := fun found => givenName? (found.map (·.provisioner))) rfl succeeds

theorem succeeds_volumeDriver {found : Option String}
    (succeeds : Succeeds (volumeDriver claim) k found l) :
    l = k ∧
      found = ((givenName? claim.volumeName?).bind (k.object? .volumes)).bind (·.driver?) := by
  rw [volumeDriver] at succeeds
  exact succeeds_lookup (c := .volumes) (f := fun found => found.bind (·.driver?)) rfl succeeds

theorem provisionerOf?_eq : k.provisionerOf? claim =
    (annotatedProvisioner? claim).or
      ((givenName? (((givenName? claim.storageClassName?).bind (k.object? .storageClasses)).map
        (·.provisioner))).or
      (givenName?
        (((givenName? claim.volumeName?).bind (k.object? .volumes)).bind (·.driver?)))) := by
  have either : ∀ (first : Option String) (others : List (Option String)),
      (first :: others).findSome? givenName? =
        (givenName? first).or (others.findSome? givenName?) := by
    intro first others
    rw [List.findSome?_cons]
    cases givenName? first <;> rfl
  have annotated : annotatedProvisioner? claim =
      (givenName? (claim.metadata.annotation? Names.provisionerAnnotation)).or
        (givenName? (claim.metadata.annotation? Names.betaProvisionerAnnotation)) := by
    unfold annotatedProvisioner?
    rw [List.findSome?_cons, List.findSome?_cons, List.findSome?_nil, givenName?, givenName?]
    cases (claim.metadata.annotation? Names.provisionerAnnotation).filter (· ≠ "") <;>
      cases (claim.metadata.annotation? Names.betaProvisionerAnnotation).filter (· ≠ "") <;> rfl
  rw [Cluster.provisionerOf?, annotated, either, either, either, either, List.findSome?_nil,
    Option.or_none, Option.or_assoc]

theorem succeeds_provisioner {driver : Option String}
    (succeeds : Succeeds (provisioner claim) k driver l) :
    l = k ∧ givenName? driver = k.provisionerOf? claim := by
  rw [provisionerOf?_eq]
  rw [provisioner] at succeeds
  cases annotated : annotatedProvisioner? claim with
  | some name =>
      rw [annotated] at succeeds
      obtain ⟨rfl, rfl⟩ := Pass.succeeds_pure.mp succeeds
      obtain ⟨key, -, given⟩ := List.exists_of_findSome?_eq_some annotated
      exact ⟨rfl, givenName?_eq_some_iff.mpr ⟨rfl, (givenName?_eq_some_iff.mp given).2⟩⟩
  | none =>
      rw [annotated] at succeeds
      obtain ⟨found, _, asked, succeeds⟩ := Pass.succeeds_bind.mp succeeds
      obtain ⟨rfl, same⟩ := succeeds_classProvisioner asked
      rw [← same]
      cases found with
      | some name =>
          obtain ⟨rfl, rfl⟩ := Pass.succeeds_pure.mp succeeds
          exact ⟨rfl, givenName?_eq_some_iff.mpr ⟨rfl, (givenName?_eq_some_iff.mp same.symm).2⟩⟩
      | none =>
          obtain ⟨rfl, rfl⟩ := succeeds_volumeDriver succeeds
          exact ⟨rfl, rfl⟩

theorem succeeds_getClaim (succeeds : Succeeds (getClaim «namespace» name) k claim l) :
    l = k ∧ k.claimIn? «namespace» name = some claim := by
  obtain ⟨found, _, got, succeeds⟩ := Pass.succeeds_bind.mp succeeds
  obtain ⟨-, same, rfl⟩ := Pass.succeeds_getIn.mp got
  cases found with
  | none => exact absurd succeeds Pass.not_succeeds_throw
  | some found =>
      obtain ⟨rfl, rfl⟩ := Pass.succeeds_pure.mp succeeds
      exact ⟨rfl, same.symm⟩

/-- Classes are kept under their names, so that the declaration is found by the name of the class
that the claim gives. -/
theorem succeeds_declarationBehind {d : Declaration}
    (succeeds : Succeeds (declarationBehind «namespace» name claim) k d l) :
    l = k ∧ ((k.store .storageClasses).Versioned → k.Backs d claim) := by
  rw [declarationBehind] at succeeds
  cases given : givenName? claim.storageClassName? with
  | none =>
      rw [given] at succeeds
      exact absurd succeeds Pass.not_succeeds_throw
  | some className =>
      rw [given] at succeeds
      obtain ⟨found, _, got, succeeds⟩ := Pass.succeeds_bind.mp succeeds
      obtain ⟨-, same, rfl⟩ := Pass.succeeds_get.mp got
      cases found with
      | none => exact absurd succeeds Pass.not_succeeds_throw
      | some storageClass =>
          obtain ⟨found, _, got, succeeds⟩ := Pass.succeeds_bind.mp succeeds
          obtain ⟨-, behind, rfl⟩ := Pass.succeeds_get.mp got
          cases found with
          | none => exact absurd succeeds Pass.not_succeeds_throw
          | some d =>
              obtain ⟨rfl, rfl⟩ := Pass.succeeds_pure.mp succeeds
              refine ⟨rfl, fun versioned => ?_⟩
              have named : storageClass.name = className := versioned.named same.symm
              rw [named] at behind
              exact ⟨className, (givenName?_eq_some_iff.mp given).1, behind.symm⟩

/-- What is behind the claim of a name: a declaration if the NFS driver provisions it, and nothing
if another driver does. -/
inductive Behind (k : Cluster) («namespace» name : String) : Option Declaration → Prop where
  | nfs {claim : Claim} {d : Declaration} (given : k.claimIn? «namespace» name = some claim)
      (provisioned : k.provisionerOf? claim = some Names.nfsDriver) (backs : k.Backs d claim) :
      Behind k «namespace» name (some d)
  | other {claim : Claim} (given : k.claimIn? «namespace» name = some claim)
      (provisioned : k.provisionerOf? claim ≠ some Names.nfsDriver) : Behind k «namespace» name none

theorem Behind.eq {found other : Option Declaration} (behind : Behind k «namespace» name found)
    (others : Behind k «namespace» name other) : other = found := by
  cases behind with
  | nfs given provisioned backs =>
      cases others with
      | nfs given' _ backs' =>
          obtain rfl := Option.some.inj (given.symm.trans given')
          exact congrArg some (backs.eq backs')
      | other given' provisioned' =>
          obtain rfl := Option.some.inj (given.symm.trans given')
          exact absurd provisioned provisioned'
  | other given provisioned =>
      cases others with
      | nfs given' provisioned' _ =>
          obtain rfl := Option.some.inj (given.symm.trans given')
          exact absurd provisioned' provisioned
      | other => rfl

section Backing

theorem succeeds_backing {found : Option Declaration}
    (succeeds : Succeeds (backing «namespace» name) k found l) :
    l = k ∧ ((k.store .storageClasses).Versioned → Behind k «namespace» name found) := by
  obtain ⟨claim, _, got, asking⟩ := Pass.succeeds_bind.mp succeeds
  obtain ⟨rfl, given⟩ := succeeds_getClaim got
  obtain ⟨driver, _, asked, deciding⟩ := Pass.succeeds_bind.mp asking
  obtain ⟨rfl, same⟩ := succeeds_provisioner asked
  have provisioned : givenName? driver = some Names.nfsDriver ↔ driver = some Names.nfsDriver :=
    givenName?_eq_some_iff.trans (and_iff_left (by decide))
  rw [same] at provisioned
  by_cases isNfs : driver = some Names.nfsDriver
  · rw [if_pos isNfs] at deciding
    obtain ⟨d, _, looked, ended⟩ := Pass.succeeds_bind.mp deciding
    obtain ⟨rfl, backs⟩ := succeeds_declarationBehind looked
    obtain ⟨rfl, rfl⟩ := Pass.succeeds_pure.mp ended
    exact ⟨rfl, fun versioned => .nfs given (provisioned.mpr isNfs) (backs versioned)⟩
  · rw [if_neg isNfs] at deciding
    obtain ⟨rfl, rfl⟩ := Pass.succeeds_pure.mp deciding
    exact ⟨rfl, fun _ => .other given (mt provisioned.mp isNfs)⟩

/-- The declarations are found claim by claim, and each claim is looked for in the same cluster. -/
theorem mem_of_succeeds_backingAll {names : List String} {declarations : List Declaration}
    (succeeds : Succeeds (backingAll «namespace» names) k declarations l) :
    l = k ∧ (∀ name ∈ names, ∃ found, Succeeds (backing «namespace» name) k found k) ∧
      ∀ d, d ∈ declarations ↔ ∃ name ∈ names, Succeeds (backing «namespace» name) k (some d) k := by
  induction names generalizing declarations l with
  | nil =>
      obtain ⟨rfl, rfl⟩ := Pass.succeeds_pure.mp succeeds
      exact ⟨rfl, by simp, by simp⟩
  | cons name rest inductionHypothesis =>
      obtain ⟨first, _, looked, looking⟩ := Pass.succeeds_bind.mp succeeds
      obtain ⟨rfl, -⟩ := succeeds_backing looked
      obtain ⟨others, _, lookedOn, ended⟩ := Pass.succeeds_bind.mp looking
      obtain ⟨rfl, each, found⟩ := inductionHypothesis lookedOn
      obtain ⟨rfl, rfl⟩ := Pass.succeeds_pure.mp ended
      refine ⟨rfl, List.forall_mem_cons.mpr ⟨⟨first, looked⟩, each⟩, fun d => ?_⟩
      have here : d ∈ first.toList ↔ Succeeds (backing «namespace» name) l (some d) l := by
        rw [Option.mem_toList]
        constructor
        · rintro rfl
          exact looked
        · exact fun again => Except.ok.inj (Prod.mk.inj (looked.symm.trans again)).1
      simp only [List.mem_append, here, found, List.mem_cons, exists_eq_or_imp]

theorem succeeds_backingAll (versioned : (k.store .storageClasses).Versioned)
    {names : List String} {declarations : List Declaration}
    (succeeds : Succeeds (backingAll «namespace» names) k declarations l) :
    l = k ∧ (∀ name ∈ names, ∃ found, Behind k «namespace» name found) ∧
      ∀ d, d ∈ declarations ↔ ∃ name ∈ names, Behind k «namespace» name (some d) := by
  obtain ⟨same, each, found⟩ := mem_of_succeeds_backingAll succeeds
  have behind : ∀ {name found}, Succeeds (backing «namespace» name) k found k →
      Behind k «namespace» name found := fun looked => (succeeds_backing looked).2 versioned
  refine ⟨same, fun name there => (each name there).imp fun _ => behind, fun d => (found d).trans ?_⟩
  refine exists_congr fun name => and_congr_right fun there => ⟨behind, fun backed => ?_⟩
  obtain ⟨first, looked⟩ := each name there
  exact (behind looked).eq backed ▸ looked

end Backing

/-- The declarations behind the claims that a pod mounts are those behind its claims of the NFS
driver. -/
structure Backing (k : Cluster) (pod : Pod) (declarations : List Declaration) : Prop where
  claims : ∀ name ∈ pod.claimNames, ∃ claim, k.claimIn? pod.namespace name = some claim
  backed : ∀ claim, k.NfsClaim pod claim → ∃ d ∈ declarations, k.Backs d claim
  backing : ∀ d ∈ declarations, ∃ claim, k.NfsClaim pod claim ∧ k.Backs d claim

theorem backing_of_succeeds (versioned : (k.store .storageClasses).Versioned) {pod : Pod}
    {declarations : List Declaration}
    (succeeds : Succeeds (backingAll pod.namespace pod.claimNames) k declarations l) :
    l = k ∧ Backing k pod declarations := by
  obtain ⟨same, each, found⟩ := succeeds_backingAll versioned succeeds
  refine ⟨same, ?_, ?_, ?_⟩
  · intro name listed
    obtain ⟨_, behind⟩ := each name listed
    cases behind with
    | nfs given | other given => exact ⟨_, given⟩
  · rintro claim ⟨⟨name, listed, given⟩, provisioned⟩
    obtain ⟨behindIt, behind⟩ := each name listed
    cases behind with
    | @nfs _ d given' provisioned' backs =>
        obtain rfl := Option.some.inj (given.symm.trans given')
        exact ⟨d, (found d).mpr ⟨name, listed, .nfs given provisioned backs⟩, backs⟩
    | other given' provisioned' =>
        obtain rfl := Option.some.inj (given.symm.trans given')
        exact absurd provisioned provisioned'
  · intro d behind
    obtain ⟨name, listed, behind⟩ := (found d).mp behind
    cases behind with
    | @nfs claim _ given provisioned backs =>
        exact ⟨claim, ⟨⟨name, listed, given⟩, provisioned⟩, backs⟩

namespace Backing

variable {pod : Pod} {declarations : List Declaration}

theorem eq_nil_iff (backing : Backing k pod declarations) :
    declarations = [] ↔ ∀ claim, ¬ k.NfsClaim pod claim := by
  constructor
  · rintro rfl claim nfs
    obtain ⟨d, there, -⟩ := backing.backed claim nfs
    exact nomatch there
  · intro none
    refine List.eq_nil_iff_forall_not_mem.mpr fun d there => ?_
    obtain ⟨claim, nfs, -⟩ := backing.backing d there
    exact none claim nfs

theorem forall_iff (backing : Backing k pod declarations) {p : Declaration → Prop} :
    (∀ d ∈ declarations, p d) ↔ ∀ claim, k.NfsClaim pod claim → ∃ d, k.Backs d claim ∧ p d := by
  constructor
  · intro all claim nfs
    obtain ⟨d, there, backs⟩ := backing.backed claim nfs
    exact ⟨d, backs, all d there⟩
  · intro all d there
    obtain ⟨claim, nfs, backs⟩ := backing.backing d there
    obtain ⟨d', backs', holds⟩ := all claim nfs
    exact backs'.eq backs ▸ holds

end Backing

end Extender

end NfsStorage

import NfsStorage.Proofs.Declaration.Lockstep
import NfsStorage.Proofs.Program.Interleaved

/-!
# Declarations do not interfere

What belongs to one declaration does not belong to another, so that a pass over one spares the
other. Passes over two declarations come to the same end in whatever order their requests arrive as
when one follows the other.
-/

namespace NfsStorage

open DeclarationPass (DerivedKind)

/-- What belongs to neither of two declarations. -/
def Neither (a b : String) (c : Collection) (name : String) : Prop :=
  ¬ Belongs a c name ∧ ¬ Belongs b c name

theorem SameOn.lasting (places : Collection → String → Prop) :
    Program.Lasting (SameOn places) where
  refl := .refl places
  trans := .trans
  ticked k _ valid := .withClock k valid

section Pair

variable {op : Operator} {a b n : String} {s k l m : Cluster}

/-- A pass changes nothing but what belongs to its declaration, and nothing else has changed either
once it is over, if the others keep away from there. -/
theorem confined_reconcile {rely : Cluster → Cluster → Prop}
    {places : Collection → String → Prop}
    (elsewhere : ∀ {c name}, places c name → ¬ Belongs n c name)
    (others : ∀ {k l}, rely k l → SameOn places k l) (sound : s.Sound) :
    (DeclarationPass.reconcile op n).run.Upholds rely (Confined n)
      (fun _ l => SameOn places s l) s := by
  let invariant (l : Cluster) : Prop := l.Sound ∧ SameOn places s l
  have upheld : (DeclarationPass.reconcile op n).run.Upholds rely (Confined n)
      (fun result l => (∀ next, result = .ok next → True) ∧ invariant l) s := by
    refine (keepsWithin_reconcile op n).upholds invariant ?_ ?_ ?_ ⟨sound, .refl _ s⟩
    · exact fun holds => holds.1
    · exact fun holds meanwhile =>
        ⟨(others meanwhile).sound holds.1, holds.2.trans (others meanwhile)⟩
    · intro k l r answer holds within served
      have confined := confined_of_within within served
      exact ⟨⟨confined.sound holds.1, holds.2.trans (confined.mono elsewhere)⟩, confined⟩
  exact upheld.mono fun _ _ promised => promised.2.2

theorem confined_run (op : Operator) (n : String) (sound : s.Sound) :
    Confined n s ((DeclarationPass.reconcile op n).run.run .direct s).2 := by
  have upheld : (DeclarationPass.reconcile op n).run.Upholds Eq (Confined n)
      (fun _ l => Confined n s l) s :=
    confined_reconcile id (fun same => same ▸ .refl _ _) sound
  exact upheld.run

/-- Among requests of a pass over `b`, a pass over `a` has come to the end to which it comes alone
on another cluster, and what belongs to neither declaration is as it was at the start. -/
structure Unimpeded (op : Operator) (a b : String) (start alone : Cluster)
    (result : Except DeclarationPass.Error Next) (k : Cluster) : Prop where
  elsewhere : SameOn (Neither a b) start k
  result : result = ((DeclarationPass.reconcile op a).run.run .direct alone).1
  alike : Alike a k ((DeclarationPass.reconcile op a).run.run .direct alone).2

theorem Unimpeded.confined {result : Except DeclarationPass.Error Next} (different : a ≠ b)
    (unimpeded : Unimpeded op a b s l result k) (confined : Confined b k m) :
    Unimpeded op a b s l result m where
  elsewhere := unimpeded.elsewhere.trans (confined.mono And.right)
  result := unimpeded.result
  alike := unimpeded.alike.spared (confined.spared different)

theorem unimpeded_reconcile (op : Operator) (different : a ≠ b) (alike : Alike a s k) :
    (DeclarationPass.reconcile op a).run.Upholds (Confined b) (Confined a)
      (Unimpeded op a b s k) s := by
  have kept : (DeclarationPass.reconcile op a).run.Upholds (Confined b) (Confined a)
      (fun _ l => SameOn (Neither a b) s l) s :=
    confined_reconcile And.left (fun confined => confined.mono And.right) alike.sound
  have follows := steady_reconcile op a alike
  refine (kept.and (follows.rely_mono fun confined => confined.spared different)).mono ?_
  exact fun _ _ ⟨elsewhere, result, alike⟩ => ⟨elsewhere, result, alike⟩

end Pair

/-- Passes over two declarations come to the same results in whatever order their requests arrive,
and leave the same objects up to versions and times, as the one pass after the other, whatever the
server refuses. No two objects of one kind that are derived from them share a name. -/
theorem names_do_not_interfere (op : Operator) {s m : Cluster} (reachable : s.Reachable)
    {a b : String} (different : a ≠ b) {resultA resultB : Except DeclarationPass.Error Next}
    (interleaved : Program.Interleaved (DeclarationPass.reconcile op a).run
      (DeclarationPass.reconcile op b).run s resultA resultB m) :
    let inOrder := Program.sequence (DeclarationPass.reconcile op a).run
      (DeclarationPass.reconcile op b).run s
    resultA = inOrder.1 ∧ resultB = inOrder.2.1 ∧
      (∀ c name, (m.object? c name).map Resource.timeless =
        (inOrder.2.2.object? c name).map Resource.timeless) ∧
      ∀ kind : DerivedKind, kind.nameOf a ≠ kind.nameOf b := by
  intro inOrder
  have sound := reachable.sound
  let l := ((DeclarationPass.reconcile op a).run.run .direct s).2
  have fromA : Confined a s l := confined_run op a sound
  have fromB : Confined b l inOrder.2.2 := confined_run op b (fromA.sound sound)
  have alikeB : Alike b s l := (fromA.spared different.symm).alike sound
  have alikeA : Alike a s s := Spared.alike (.refl _ s) sound
  obtain ⟨first, second⟩ := (unimpeded_reconcile op different alikeA).interleaved
    (unimpeded_reconcile op different.symm alikeB) (SameOn.lasting _) (SameOn.lasting _)
    (Unimpeded.confined different) (Unimpeded.confined different.symm) interleaved
  refine ⟨first.result, second.result, fun c name => ?_, fun kind same => ?_⟩
  · by_cases ofB : Belongs b c name
    · exact second.alike.own ofB
    · by_cases ofA : Belongs a c name
      · rw [fromB.object? ofB]
        exact first.alike.own ofA
      · rw [first.elsewhere.object? ⟨ofA, ofB⟩, fromB.object? ofB, fromA.object? ofA]
  · exact different (kind.nameOf_injective same)

/-- Two declarations without derived objects, in a cluster that creates no secrets. -/
def twoDeclared : Cluster :=
  let declare (name : String) : Declaration :=
    { metadata := { name := some name }
      spec :=
        { connection := { host := "host", share := "/share", nfsVersion := .v41 }
          reclaimPolicy := .delete
          volumeBindingMode := .immediate } }
  let declared := Cluster.setStore {} .declarations (Store.ofList [declare "a", declare "b"])
  declared.withRefusals .secrets fun verb => if verb = .create then some 500 else none

theorem reachable_twoDeclared : twoDeclared.Reachable := by
  refine .refusing .secrets _ (.filled .declarations _ ?_ .empty)
  intro object membership
  rcases List.mem_cons.mp membership with rfl | later
  · exact nofun
  · obtain rfl := List.mem_singleton.mp later
    exact nofun

/-- The storage classes are made in another order when the passes take turns, and the secrets are
refused all the same. -/
theorem names_do_not_interfere_turns :
    let passA := (DeclarationPass.reconcile {} "a").run
    let passB := (DeclarationPass.reconcile {} "b").run
    let turns := Program.takeTurns [false, true, false, false, true, false, false, true] passA
      passB twoDeclared
    let inOrder := Program.sequence passA passB twoDeclared
    let version (k : Cluster) := (k.object? .storageClasses "b").bind fun c : StorageClass =>
      c.metadata.resourceVersion
    turns.1 = inOrder.1 ∧ turns.2.1 = inOrder.2.1 ∧
      (∀ next, inOrder.2.1 ≠ .ok next) ∧
      (turns.2.2.object? .storageClasses "b").map Resource.timeless =
        (inOrder.2.2.object? .storageClasses "b").map Resource.timeless ∧
      version turns.2.2 = some "1" ∧ version inOrder.2.2 = some "2" := by
  intro passA passB turns inOrder version
  have interleaved := Program.interleaved_takeTurns
    [false, true, false, false, true, false, false, true] passA passB twoDeclared
  obtain ⟨sameA, sameB, contents, -⟩ :=
    names_do_not_interfere {} reachable_twoDeclared (a := "a") (b := "b") (by decide) interleaved
  refine ⟨sameA, sameB, ?_, contents .storageClasses "b", by decide +kernel, by decide +kernel⟩
  have failed : inOrder.2.1.toOption.isNone = true := by decide +kernel
  intro next succeeded
  rw [succeeded] at failed
  exact nomatch failed

end NfsStorage

import NfsStorage.Proofs.Program.Calls
import NfsStorage.Proofs.Program.Footprint
import NfsStorage.Proofs.Store.Onward

/-!
# Runs on record

A program runs among others that ask for whatever they like, and each of its calls is on record with
the cluster that it came to. So what is said of a call may speak of the calls before it and after
it, and of what the others did in between.
-/

namespace NfsStorage

namespace Program

variable {α β : Type}

namespace Call

theorem served (c : Call) : c.before.Served c.request c.answer c.after := c.before.served c.request

theorem fault?_eq_none_iff {c : Call} : c.fault? = none ↔ ∃ a, c.answer = .ok a := by
  unfold fault?
  cases c.answer with
  | ok a => exact ⟨fun _ => ⟨a, rfl⟩, fun _ => rfl⟩
  | error e => exact ⟨nofun, nofun⟩

theorem fault?_eq_some_iff {c : Call} {e : StoreError} :
    c.fault? = some e ↔ c.answer = .error e := by
  unfold fault?
  cases c.answer with
  | ok a => exact ⟨nofun, nofun⟩
  | error cause => rw [Option.some.injEq, Except.error.injEq]

theorem found_of_answer {l : Cluster} {c : Collection} {name : String} {found : Option c.Object}
    (answered : (⟨.get c name, l⟩ : Call).answer = .ok found) : found = l.object? c name :=
  (Cluster.serve_get_eq_ok_iff.mp (Prod.ext answered rfl)).2.1

theorem listed_of_answer {l : Cluster} {c : Collection} {objects : List c.Object}
    (answered : (⟨.list c, l⟩ : Call).answer = .ok objects) :
    objects = (l.store c).objects.values :=
  (Cluster.serve_list_eq_ok_iff.mp (Prod.ext answered rfl)).2.1

theorem after_of_fault {c : Call} (failed : c.fault? ≠ none) : c.after = c.before := by
  have served := c.served
  cases answered : c.answer with
  | ok a => exact absurd (fault?_eq_none_iff.mpr ⟨a, answered⟩) failed
  | error e =>
      rw [answered] at served
      exact served.eq_of_error

/-- A call to make an object is refused, or something is there, or the object is made. -/
theorem create_cases (l : Cluster) {c : Collection} (object : c.Object) :
    let write : Call := ⟨.create c object, l⟩
    write.fault? ≠ none ∧
        (l.refused c .create ≠ none ∨ l.object? c (Resource.name object) ≠ none) ∨
      write.fault? = none ∧ l.object? c (Resource.name object) = none ∧
        write.after = l.write c .create (Resource.name object)
          (Store.setDeletion (Resource.settled object) none) := by
  intro write
  have served : l.Served (.create c object) write.answer write.after := write.served
  rw [fault?_eq_none_iff, Ne, fault?_eq_none_iff]
  generalize write.answer = answer at served ⊢
  generalize write.after = m at served ⊢
  cases served with
  | failed error why => exact Or.inl ⟨nofun, why⟩
  | created _ _ answer absent => exact Or.inr ⟨⟨answer, rfl⟩, absent, rfl⟩

/-- A call to renew an object is refused, or made from another version, or the object is renewed. -/
theorem replace_cases (l : Cluster) {c : Collection} (name : String) (object : c.Object) :
    let write : Call := ⟨.replace c name object, l⟩
    write.fault? ≠ none ∧
        (l.refused c .replace ≠ none ∨ ∀ old, l.object? c name = some old →
          (Resource.metadata object).resourceVersion ≠ (Resource.metadata old).resourceVersion) ∨
      write.fault? = none ∧ ∃ old, l.object? c name = some old ∧
        write.after = l.write c .replace name (Store.setDeletion (Resource.settled object)
          (Resource.metadata old).deletionTimestamp) := by
  intro write
  have served : l.Served (.replace c name object) write.answer write.after := write.served
  rw [fault?_eq_none_iff, Ne, fault?_eq_none_iff]
  generalize write.answer = answer at served ⊢
  generalize write.after = m at served ⊢
  cases served with
  | failed error why => exact Or.inl ⟨nofun, why⟩
  | replaced _ _ _ old answer found => exact Or.inr ⟨⟨answer, rfl⟩, old, found, rfl⟩

/-- What is renewed from the version that was seen is what was seen: the version tells it from all
that came later. -/
theorem current_of_replaced {k l : Cluster} {c : Collection} {name : String}
    {seen object : c.Object} (reachable : k.Reachable) (leads : k.LeadsTo l)
    (found : k.object? c name = some seen)
    (version : (Resource.metadata object).resourceVersion =
      (Resource.metadata seen).resourceVersion)
    (succeeds : (⟨.replace c name object, l⟩ : Call).fault? = none) :
    l.object? c name = some seen := by
  refine Classical.byContradiction fun changed => ?_
  obtain ⟨number, -, given⟩ := (reachable.versioned c).versioned found
  have carried : (Resource.metadata object).resourceVersion ≠ none := by
    rw [version, given]
    exact Option.some_ne_none _
  obtain ⟨e, failed⟩ := l.serve_replace_of_stale carried fun old present =>
    version ▸ leads.version_ne reachable found changed present
  obtain ⟨a, answered⟩ := fault?_eq_none_iff.mp succeeds
  cases answered.symm.trans (congrArg Prod.fst failed)

end Call

/-- A program runs to its end from a cluster, others are at work before each of its calls, and these
are the calls. -/
inductive Recorded : Program α → Cluster → List Call → α → Cluster → Prop where
  | done (a : α) (k : Cluster) : Recorded (.done a) k [] a k
  | request {r : Request} {next : Except StoreError r.Answer → Program α} {k l m : Cluster}
      {calls : List Call} {a : α} (leads : k.LeadsTo l) :
      Recorded (next (l.serve r).1) (l.serve r).2 calls a m →
      Recorded (.request r next) k (⟨r, l⟩ :: calls) a m
  | sleep {milliseconds : Nat} {next : Program α} {k m : Cluster} {calls : List Call} {a : α} :
      Recorded next k calls a m → Recorded (.sleep milliseconds next) k calls a m

theorem recorded_bind {p : Program α} {f : α → Program β} {k m : Cluster} {calls : List Call}
    {b : β} (runs : (p >>= f).Recorded k calls b m) :
    ∃ a l first rest, calls = first ++ rest ∧ p.Recorded k first a l ∧
      (f a).Recorded l rest b m := by
  change (p.bind f).Recorded k calls b m at runs
  -- By the steps of the first program: the calls that are left when it is done are the second's.
  induction p generalizing k calls with
  | done a => exact ⟨a, k, [], calls, rfl, .done a k, runs⟩
  | request r next inductionHypothesis =>
      cases runs with
      | request leads runs =>
          obtain ⟨a, l, first, rest, rfl, before, after⟩ := inductionHypothesis _ runs
          exact ⟨a, l, _ :: first, rest, rfl, .request leads before, after⟩
  | sleep milliseconds next inductionHypothesis =>
      cases runs with
      | sleep runs =>
          obtain ⟨a, l, first, rest, rfl, before, after⟩ := inductionHypothesis runs
          exact ⟨a, l, first, rest, rfl, .sleep before, after⟩

theorem recorded_pure {a b : α} {k m : Cluster} {calls : List Call}
    (runs : (pure a : Program α).Recorded k calls b m) : calls = [] ∧ b = a ∧ m = k := by
  cases runs
  exact ⟨rfl, rfl, rfl⟩

theorem recorded_call_bind {r : Request} {f : Except StoreError r.Answer → Program β}
    {k m : Cluster} {calls : List Call} {b : β}
    (runs : (Program.call r >>= f).Recorded k calls b m) :
    ∃ l rest, k.LeadsTo l ∧ calls = ⟨r, l⟩ :: rest ∧
      (f (l.serve r).1).Recorded (l.serve r).2 rest b m := by
  cases runs with
  | request leads runs => exact ⟨_, _, leads, rfl, runs⟩

theorem Recorded.leadsTo {p : Program α} {k m : Cluster} {calls : List Call} {a : α}
    (runs : p.Recorded k calls a m) : k.LeadsTo m := by
  induction runs with
  | done a k => exact .refl
  | request leads _ inductionHypothesis => exact (leads.served _).trans inductionHypothesis
  | sleep _ inductionHypothesis => exact inductionHypothesis

theorem Recorded.reachable {p : Program α} {k m : Cluster} {calls : List Call} {a : α}
    (runs : p.Recorded k calls a m) (reachable : k.Reachable) :
    m.Reachable ∧ ∀ c ∈ calls, c.before.Reachable := by
  induction runs with
  | done a k => exact ⟨reachable, fun _ none => nomatch none⟩
  | @request r next k l m calls a leads runs inductionHypothesis =>
      have there := leads.reachable reachable
      obtain ⟨ended, each⟩ := inductionHypothesis (there.served r)
      exact ⟨ended, List.forall_mem_cons.mpr ⟨there, each⟩⟩
  | sleep _ inductionHypothesis => exact inductionHypothesis reachable

theorem Sends.recorded {allowed : Request → Prop} {ended : α → Prop} {p : Program α}
    (sends : p.Sends allowed ended) {k m : Cluster} {calls : List Call} {a : α}
    (runs : p.Recorded k calls a m) (reachable : k.Reachable) :
    ended a ∧ ∀ c ∈ calls, allowed c.request := by
  induction runs with
  | done a k => exact ⟨sends, fun _ none => nomatch none⟩
  | @request r next k l m calls a leads runs inductionHypothesis =>
      have there := leads.reachable reachable
      have credible := (l.served r).credible there.sound
      obtain ⟨finished, each⟩ := inductionHypothesis (sends.2 _ credible) (there.served r)
      exact ⟨finished, List.forall_mem_cons.mpr ⟨sends.1, each⟩⟩
  | sleep _ inductionHypothesis => exact inductionHypothesis sends reachable

theorem recorded_calls (p : Program α) (k : Cluster) :
    p.Recorded k (p.calls k) (p.run .direct k).1 (p.run .direct k).2 := by
  induction p generalizing k with
  | done a => exact .done a k
  | request r next inductionHypothesis => exact .request .refl (inductionHypothesis _ _)
  | sleep milliseconds next inductionHypothesis => exact .sleep (inductionHypothesis k)

def served (requests : List Request) (k : Cluster) : Cluster :=
  requests.foldl (fun l r => (l.serve r).2) k

theorem leadsTo_served (requests : List Request) {k l : Cluster} (leads : k.LeadsTo l) :
    k.LeadsTo (served requests l) := by
  induction requests generalizing l with
  | nil => exact leads
  | cons r rest inductionHypothesis => exact inductionHypothesis (leads.served r)

/-- Run a program with requests of others before each of its calls. -/
def interrupted : Program α → List (List Request) → Cluster → List Call × α × Cluster
  | .done a, _, k => ([], a, k)
  | .request r next, others, k =>
    let l := served (others.headD []) k
    let (calls, ended) := (next (l.serve r).1).interrupted others.tail (l.serve r).2
    (⟨r, l⟩ :: calls, ended)
  | .sleep _ next, others, k => next.interrupted others k

theorem recorded_interrupted (p : Program α) (others : List (List Request)) (k : Cluster) :
    let (calls, a, m) := p.interrupted others k
    p.Recorded k calls a m := by
  induction p generalizing others k with
  | done a => exact .done a k
  | request r next inductionHypothesis =>
      exact .request (leadsTo_served _ .refl) (inductionHypothesis _ _ _)
  | sleep milliseconds next inductionHypothesis => exact .sleep (inductionHypothesis _ _)

end Program

namespace Pass

variable {α β ε : Type} {k m : Cluster} {calls : List Program.Call} {result : Except ε β}

def Recorded (x : Pass ε α) (k : Cluster) (calls : List Program.Call) (result : Except ε α)
    (m : Cluster) : Prop :=
  Program.Recorded (ExceptT.run x) k calls result m

theorem Succeeds.recorded {x : Pass ε α} {a : α} (succeeds : Succeeds x k a m) :
    Recorded x k ((ExceptT.run x).calls k) (.ok a) m := by
  have runs := Program.recorded_calls (ExceptT.run x) k
  rwa [show (ExceptT.run x).run .direct k = (.ok a, m) from succeeds] at runs

theorem recorded_pure {b : β} (runs : Recorded (pure b : Pass ε β) k calls result m) :
    calls = [] ∧ result = .ok b ∧ m = k := by
  cases runs
  exact ⟨rfl, rfl, rfl⟩

/-- A pass either ends with the error of its first part or goes on from there. -/
theorem recorded_bind {x : Pass ε α} {f : α → Pass ε β}
    (runs : Recorded (x >>= f) k calls result m) :
    (∃ e, result = .error e ∧ Recorded x k calls (.error e) m) ∨
      ∃ a l first rest, calls = first ++ rest ∧ Recorded x k first (.ok a) l ∧
        Recorded (f a) l rest result m := by
  obtain ⟨ended, l, first, rest, rfl, before, after⟩ := Program.recorded_bind runs
  cases ended with
  | ok a => exact Or.inr ⟨a, l, first, rest, rfl, before, after⟩
  | error e =>
      have after : Program.Recorded (.done (.error e)) l rest result m := after
      cases after
      rw [List.append_nil]
      exact Or.inl ⟨e, rfl, before⟩

/-- A request fails, and the pass with it, or the pass goes on with the answer. -/
theorem recorded_request_bind {r : Request} {failure : StoreError → ε} {f : r.Answer → Pass ε β}
    (runs : Recorded (Pass.request r failure >>= f) k calls result m) :
    ∃ l rest, k.LeadsTo l ∧ calls = ⟨r, l⟩ :: rest ∧
      let call : Program.Call := ⟨r, l⟩
      (call.fault? ≠ none ∧ rest = [] ∧ ∃ e, result = .error e) ∨
        ∃ a, call.answer = .ok a ∧ Recorded (f a) call.after rest result m := by
  cases runs with
  | @request _ _ _ l _ rest _ leads runs =>
      refine ⟨l, rest, leads, rfl, ?_⟩
      cases answered : (l.serve r).1 with
      | ok a =>
          rw [answered] at runs
          exact Or.inr ⟨a, answered, runs⟩
      | error e =>
          rw [answered] at runs
          cases runs
          refine Or.inl ⟨fun unfailing => ?_, rfl, failure e, rfl⟩
          obtain ⟨a, same⟩ := Program.Call.fault?_eq_none_iff.mp unfailing
          exact nomatch answered.symm.trans same

theorem recorded_request_then {r : Request} {failure : StoreError → ε} {b : β}
    (runs : Recorded (do let _ ← Pass.request r failure; return b) k calls result m) :
    ∃ l, k.LeadsTo l ∧ calls = [⟨r, l⟩] ∧
      ((⟨r, l⟩ : Program.Call).fault? ≠ none → ∃ e, result = .error e) := by
  obtain ⟨l, rest, leads, rfl, ⟨-, rfl, e, rfl⟩ | ⟨a, answered, runs⟩⟩ :=
    recorded_request_bind runs
  · exact ⟨l, leads, rfl, fun _ => ⟨e, rfl⟩⟩
  · obtain ⟨rfl, rfl, rfl⟩ := recorded_pure runs
    have succeeded := Program.Call.fault?_eq_none_iff.mpr ⟨a, answered⟩
    exact ⟨l, leads, rfl, absurd succeeded⟩

end Pass

end NfsStorage

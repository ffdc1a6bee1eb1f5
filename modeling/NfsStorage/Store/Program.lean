import NfsStorage.Store.Cluster

/-!
Programs that work on a cluster by one request at a time. A program is data, so that it can be run
alone, or stepped with other writes in between.
-/

namespace NfsStorage

/-- A request to a store. `getIn` asks for an object of one namespace, where a missing namespace
counts as empty. -/
inductive Request where
  | get (c : Collection) (name : String)
  | getIn (c : Collection) («namespace» name : String)
  | list (c : Collection)
  | create (c : Collection) (object : c.Object)
  | replace (c : Collection) (name : String) (object : c.Object)
  | delete (c : Collection) (name : String)
  | patch (c : Collection) (name : String) (change : Json)
  | patchStatus (c : Collection) (name : String) (change : Json)

namespace Request

@[reducible]
def Answer : Request → Type
  | get c _ | getIn c _ _ => Option c.Object
  | list c => List c.Object
  | create c _ | replace c _ _ | patch c _ _ | patchStatus c _ _ => c.Object
  | delete _ _ => Unit

def collection : Request → Collection
  | get c _ | getIn c _ _ | list c | create c _ | replace c _ _ | delete c _ | patch c _ _
  | patchStatus c _ _ => c

/-- The name of the object that a request is about, unless it is about them all or about one that is
not there yet. -/
def name? : Request → Option String
  | get _ name | getIn _ _ name | replace _ name _ | delete _ name | patch _ name _
  | patchStatus _ name _ => some name
  | list _ | create _ _ => none

end Request

/-- How requests reach the stores. Over the API a refusal of `get` with status 404 means that the
object is absent, and one of `delete` that it is gone; objects of the controller are in its
namespace. -/
inductive Route where
  | direct
  | api («namespace» : String)
deriving DecidableEq, Repr

namespace Cluster

def commit (k : Cluster) (c : Collection) {α : Type}
    (result : Except StoreError (α × Store c.Object)) : Except StoreError α × Cluster :=
  match result with
  | .ok (answer, s) => (.ok answer, k.setStore c s)
  | .error e => (.error e, k)

def serve (k : Cluster) : (r : Request) → Except StoreError r.Answer × Cluster
  | .get c name => ((k.store c).get name, k)
  | .getIn c «namespace» name =>
    (((k.store c).get name).map fun found =>
      found.filter fun object => (Resource.metadata object).namespace.getD "" = «namespace», k)
  | .list c => ((k.store c).list, k)
  | .create c object => k.commit c ((k.store c).create object)
  | .replace c name object => k.commit c ((k.store c).replace name object)
  | .delete c name => k.commit c (((k.store c).delete k.clock name).map fun s => ((), s))
  | .patch c name change => k.commit c ((k.store c).patch name change)
  | .patchStatus c name change => k.commit c ((k.store c).patchStatus name change)

/-- Serve a request as it arrives over the API. -/
def serveSeen (k : Cluster) : (r : Request) → Except StoreError r.Answer × Cluster
  | .get c name => k.serve (.get c (Address.seen name))
  | .getIn c «namespace» name => k.serve (.getIn c «namespace» (Address.seen name))
  | .list c => k.serve (.list c)
  | .create c object => k.serve (.create c object)
  | .replace c name object => k.serve (.replace c (Address.seen name) object)
  | .delete c name => k.serve (.delete c (Address.seen name))
  | .patch c name change => k.serve (.patch c (Address.seen name) change)
  | .patchStatus c name change => k.serve (.patchStatus c (Address.seen name) change)

end Cluster

namespace Route

def namespaceOf («namespace» : String) : Request → String
  | .getIn _ given _ => given
  | r =>
    match r.collection with
    | .secrets | .configMaps | .modulePods | .leases => «namespace»
    | _ => ""

def fault? (r : Request) : Route → Option AddressError
  | direct => none
  | api «namespace» => Address.fault? (namespaceOf «namespace» r) (r.name?.getD "-")

def receive (route : Route) : (r : Request) → Except StoreError r.Answer →
    Except StoreError r.Answer
  | .get _ _, answer | .getIn _ _ _, answer =>
    match route, answer with
    | .api _, .error e => if e.isNotFound then .ok none else .error e
    | _, answer => answer
  | .delete _ _, answer =>
    match route, answer with
    | .api _, .error e => if e.isNotFound then .ok () else .error e
    | _, answer => answer
  | _, answer => answer

def send (route : Route) (r : Request) (k : Cluster) : Except StoreError r.Answer × Cluster :=
  match route, route.fault? r with
  | _, some cause => (.error (.unsent cause), k)
  | .direct, none => k.serve r
  | .api _, none =>
    let (answer, k) := k.serveSeen r
    (route.receive r answer, k)

end Route

inductive Program (α : Type) where
  | done (result : α)
  | request (r : Request) (next : Except StoreError r.Answer → Program α)
  | sleep (milliseconds : Nat) (next : Program α)

namespace Program

variable {α β : Type}

protected def bind : Program α → (α → Program β) → Program β
  | done a, f => f a
  | request r next, f => request r fun answer => (next answer).bind f
  | sleep milliseconds next, f => sleep milliseconds (next.bind f)

instance : Monad Program where
  pure := done
  bind := Program.bind

def call (r : Request) : Program (Except StoreError r.Answer) := request r done

def run (route : Route) : Program α → Cluster → α × Cluster
  | done a, k => (a, k)
  | request r next, k =>
    let (answer, k) := route.send r k
    (next answer).run route k
  | sleep _ next, k => next.run route k

@[simp]
theorem run_pure (route : Route) (a : α) (k : Cluster) :
    (pure a : Program α).run route k = (a, k) :=
  rfl

theorem run_bind (route : Route) (p : Program α) (f : α → Program β) (k : Cluster) :
    (p >>= f).run route k = (f (p.run route k).1).run route (p.run route k).2 := by
  change (p.bind f).run route k = _
  induction p generalizing k with
  | done a => rfl
  | request r next inductionHypothesis => exact inductionHypothesis _ _
  | sleep milliseconds next inductionHypothesis => exact inductionHypothesis k

theorem run_call_bind (r : Request) (f : Except StoreError r.Answer → Program α) (k : Cluster) :
    (call r >>= f).run .direct k = (f (k.serve r).1).run .direct (k.serve r).2 := rfl

end Program

abbrev Pass (ε : Type) := ExceptT ε Program

def Pass.request {ε : Type} (r : Request) (failure : StoreError → ε) : Pass ε r.Answer :=
  ExceptT.mk do
    let answer ← Program.call r
    return answer.mapError failure

namespace Except

variable {α ε ε' : Type} (f : ε → ε')

theorem mapError_ok (a : α) : (Except.ok a : Except ε α).mapError f = .ok a := rfl

theorem mapError_error (e : ε) : (Except.error e : Except ε α).mapError f = .error (f e) := rfl

end Except

end NfsStorage

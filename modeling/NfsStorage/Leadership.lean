import NfsStorage.Resource.Lease
import NfsStorage.Store.Program

/-!
How the replicas of the controller agree on a leader. Whoever holds the lease leads; a lease is
taken over when nobody holds it or its holder has let it expire. Times of day are those of the
replica's clock, and spans are in milliseconds.
-/

namespace NfsStorage

namespace Leadership

inductive Decision where
  | acquire
  | renew
  /-- Somebody else holds a lease that has not expired. -/
  | heldBy (holder : String)
deriving DecidableEq, Repr

/-- A lease that does not say when it was renewed, or for how long it holds, has expired. -/
def isExpired (spec : LeaseSpec) (now : Time) : Bool :=
  match spec.renewTime, spec.leaseDurationSeconds with
  | some renewed, some seconds =>
    (renewed.time.moment.later seconds.toInt).isBefore now.moment
  | _, _ => true

def decision (spec : Option LeaseSpec) (identity : String) (now : Time) : Decision :=
  match spec with
  | none => .acquire
  | some spec =>
    let holder := spec.holderIdentity.getD ""
    if holder = identity then .renew
    else if holder = "" then .acquire
    else if isExpired spec now then .acquire
    else .heldBy holder

inductive Error where
  | getLease (lease : String) (cause : StoreError)
  | writeLease (lease : String) (cause : StoreError)
  | lost (lease : String)
deriving DecidableEq, Repr

namespace Error

def category : Error → String
  | getLease .. => "GetLease"
  | writeLease .. => "WriteLease"
  | lost _ => "LeadershipLost"

instance : Fault Error where
  texts
    | getLease lease cause => ("failed to read lease " ++ lease) :: Fault.texts cause
    | writeLease lease cause => ("failed to write lease " ++ lease) :: Fault.texts cause
    | lost lease => ["leadership of lease " ++ lease ++ " lost"]

end Error

def leaseSeconds : Int32 := 15

/-- How long a leader that fails to renew its lease stays one. -/
def renewDeadline : Nat := 10000

def retryPeriod : Nat := 2000

def controllerLease : String := "d8-controller"

end Leadership

structure Elector where
  lease : String := Leadership.controllerLease
  identity : String

namespace Elector

open Leadership

/-- The specification that a replica writes when it takes a lease over. Taking over a lease that was
there counts as a transition. -/
def acquired (e : Elector) (now : Time) (found : Option Lease) : LeaseSpec :=
  let previous := (found.bind (·.spec)).getD {}
  let transitions := previous.leaseTransitions.getD 0
  { previous with
    holderIdentity := some e.identity
    leaseDurationSeconds := some leaseSeconds
    acquireTime := some ⟨now⟩
    renewTime := some ⟨now⟩
    leaseTransitions := some (if found.isSome then transitions + 1 else transitions) }

def renewed (e : Elector) (now : Time) (previous : LeaseSpec) : LeaseSpec :=
  { previous with
    holderIdentity := some e.identity
    leaseDurationSeconds := some leaseSeconds
    renewTime := some ⟨now⟩
    leaseTransitions := some (previous.leaseTransitions.getD 0) }

/-- The specification to write, unless somebody else holds the lease. -/
def specToWrite? (e : Elector) (now : Time) (found : Option Lease) : Option LeaseSpec :=
  match decision (found.bind (·.spec)) e.identity now with
  | .heldBy _ => none
  | .acquire => some (e.acquired now found)
  | .renew => some (e.renewed now ((found.bind (·.spec)).getD {}))

/-- A lease that was found is replaced, with the version that it was found in. -/
def write (e : Elector) (found : Option Lease) (spec : LeaseSpec) :
    Program (Except StoreError Lease) :=
  match found with
  | some lease => Program.call (.replace .leases e.lease { lease with spec := some spec })
  | none =>
    Program.call (.create .leases { metadata := { name := some e.lease }, spec := some spec })

/-- A conflict means that somebody else was faster. -/
def holdsAfter (e : Elector) : Except StoreError Lease → Except Error Bool
  | .ok _ => .ok true
  | .error cause => if cause.isConflict then .ok false else .error (.writeLease e.lease cause)

/-- One attempt to acquire or renew the lease; it answers whether the replica holds it. -/
def round (e : Elector) (now : Time) : Pass Error Bool := do
  let found ← Pass.request (.get .leases e.lease) (.getLease e.lease)
  match e.specToWrite? now found with
  | none => return false
  | some spec => ExceptT.mk do
    let answer ← e.write found spec
    return e.holdsAfter answer

/-- Rounds until the replica holds the lease, or the shutdown comes, which is `left` milliseconds
away; it answers whether the replica holds the lease. -/
def acquire (e : Elector) (clock : Nat → Time) (elapsed left : Nat) : Program Bool :=
  if 0 < left then do
    match ← (e.round (clock elapsed)).run with
    | .ok true => return true
    | _ =>
      .sleep (min retryPeriod left)
        (e.acquire clock (elapsed + retryPeriod) (left - retryPeriod))
  else pure false
termination_by left
decreasing_by
  simp only [retryPeriod]
  omega

/-- What a round means to a leader: when it last renewed the lease, or why it leads no more.
Failures are borne for as long as the deadline allows. -/
def afterRound (e : Elector) (lastRenewal now : Nat) : Except Error Bool → Except Error Nat
  | .ok true => .ok now
  | .ok false => .error (.lost e.lease)
  | .error cause => if renewDeadline < now - lastRenewal then .error cause else .ok lastRenewal

/-- Renew the lease for as long as that goes well. The answer is why leadership ended, if it did
before the `left` milliseconds were over. -/
def holdFrom (e : Elector) (clock : Nat → Time) (lastRenewal elapsed left : Nat) :
    Program (Option Error) :=
  if retryPeriod < left then
    .sleep retryPeriod do
      let now := elapsed + retryPeriod
      let result ← (e.round (clock now)).run
      match e.afterRound lastRenewal now result with
      | .ok renewal => e.holdFrom clock renewal now (left - retryPeriod)
      | .error cause => return some cause
  else .sleep left (pure none)
termination_by left
decreasing_by
  simp only [retryPeriod] at *
  omega

def hold (e : Elector) (clock : Nat → Time) (span : Nat) : Program (Option Error) :=
  e.holdFrom clock 0 0 span

end Elector

end NfsStorage

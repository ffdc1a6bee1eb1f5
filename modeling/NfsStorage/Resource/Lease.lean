import NfsStorage.Resource.Metadata

/-!
The lease by which the replicas of a controller agree on a leader.
-/

namespace NfsStorage

open Json

/-- A time that is written with microseconds. -/
structure PreciseTime where
  time : Time
deriving DecidableEq

instance : JsonCodec PreciseTime where
  decode
    | .string text => (Time.parse? text).map .mk
    | _ => none
  encode t := .string t.time.microsecondsText

structure LeaseSpec where
  holderIdentity : Option String := none
  renewTime : Option PreciseTime := none
  acquireTime : Option PreciseTime := none
  leaseDurationSeconds : Option Int32 := none
  leaseTransitions : Option Int32 := none
  strategy : Option String := none
  preferredHolder : Option String := none
deriving DecidableEq

instance : JsonCodec LeaseSpec where
  decode j := do
    let m ← Members.ofJson? j
    return {
      holderIdentity := ← m.optional "holderIdentity"
      renewTime := ← m.optional "renewTime"
      acquireTime := ← m.optional "acquireTime"
      leaseDurationSeconds := ← m.optional "leaseDurationSeconds"
      leaseTransitions := ← m.optional "leaseTransitions"
      strategy := ← m.optional "strategy"
      preferredHolder := ← m.optional "preferredHolder" }
  encode s := .object (
    fieldOf? "holderIdentity" s.holderIdentity ++
    fieldOf? "renewTime" s.renewTime ++
    fieldOf? "acquireTime" s.acquireTime ++
    fieldOf? "leaseDurationSeconds" s.leaseDurationSeconds ++
    fieldOf? "leaseTransitions" s.leaseTransitions ++
    fieldOf? "strategy" s.strategy ++
    fieldOf? "preferredHolder" s.preferredHolder)

structure Lease where
  metadata : Metadata := {}
  spec : Option LeaseSpec := none
deriving DecidableEq

instance : Resource Lease where
  decode j := do
    let m ← Members.ofJson? j
    m.constant "apiVersion" "coordination.k8s.io/v1"
    m.constant "kind" "Lease"
    return {
      metadata := ← m.orDefault "metadata" {}
      spec := ← m.optional "spec" }
  encode l := .object (
    fieldOf "apiVersion" "coordination.k8s.io/v1" ++
    fieldOf "kind" "Lease" ++
    fieldOf "metadata" l.metadata ++
    fieldOf? "spec" l.spec)
  metadata := Lease.metadata
  withMetadata l m := { l with metadata := m }

end NfsStorage

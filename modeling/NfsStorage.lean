import NfsStorage.Controller.Agenda
import NfsStorage.Http.Service
import NfsStorage.Json.Pointer
import NfsStorage.Leadership
import NfsStorage.Main
import NfsStorage.Nodes.Ticker
import NfsStorage.Startup
import NfsStorage.Proofs.Declaration.Retries
import NfsStorage.Proofs.Foreign.Sequence
import NfsStorage.Proofs.Orphans.System
import NfsStorage.Proofs.Admission.Passes
import NfsStorage.Proofs.Store.History
import NfsStorage.Proofs.Leadership.Contest
import NfsStorage.Proofs.Leadership.Rounds
import NfsStorage.Proofs.Program.Success
import NfsStorage.Proofs.Nodes.Labelling
import NfsStorage.Proofs.Nodes.Planning
import NfsStorage.Proofs.Nodes.Selection
import NfsStorage.Proofs.Nodes.Closure
import NfsStorage.Proofs.Nodes.NextTick
import NfsStorage.Proofs.Nodes.Exactness
import NfsStorage.Proofs.Nodes.Removal
import NfsStorage.Proofs.Extender.Provisioning
import NfsStorage.Proofs.Extender.Filtering
import NfsStorage.Proofs.Extender.Agreement
import NfsStorage.Proofs.Program.Footprint
import NfsStorage.Proofs.Declaration.Footprint
import NfsStorage.Proofs.Codec.Labels
import NfsStorage.Proofs.Declaration.Peace
import NfsStorage.Proofs.Declaration.Quiescence
import NfsStorage.Proofs.Declaration.Alike
import NfsStorage.Proofs.Declaration.Lockstep
import NfsStorage.Proofs.Declaration.Interference
import NfsStorage.Proofs.Declaration.Release
import NfsStorage.Proofs.Leadership.Bookkeeping
import NfsStorage.Proofs.ModuleConfig.Mismatches
import NfsStorage.Proofs.Teardown.Outcome
import NfsStorage.Proofs.Derived.Changes
import NfsStorage.Proofs.Declaration.Finalizers
import NfsStorage.Proofs.Nodes.Evidence
import NfsStorage.Proofs.Declaration.Brought
import NfsStorage.Proofs.Declaration.Additions
import NfsStorage.Proofs.Declaration.Edits
import NfsStorage.Proofs.Leadership.Holding
import NfsStorage.Proofs.Json.MergePatch
import NfsStorage.Proofs.Extender.Tightening
import NfsStorage.Proofs.Nodes.Contention
import NfsStorage.Proofs.Nodes.Interruption
import NfsStorage.Proofs.Store.Patches
import NfsStorage.Proofs.Store.Folding
import NfsStorage.Proofs.ModuleConfig.Preservation
import NfsStorage.Proofs.Declaration.Backoff

import HostedLedger.Application.Lawful
import HostedLedger.Foreign.Bridge
import HostedLedger.Json.Record
import HostedLedger.SortedMap.Lemmas
import HostedLedger.Proofs.Account.Transfer
import HostedLedger.Proofs.Account.Requirement
import HostedLedger.Proofs.Machine
import HostedLedger.Proofs.Wire.Written
import HostedLedger.Proofs.Ledger.Call
import HostedLedger.Proofs.Ledger.Chain
import HostedLedger.Proofs.Ledger.History
import HostedLedger.Proofs.Ledger.Payment
import HostedLedger.Proofs.Ledger.SharedOverlay
import HostedLedger.Proofs.Ledger.Acceptance
import HostedLedger.Proofs.Application.Request
import HostedLedger.Proofs.Application.Trace
import HostedLedger.Proofs.Ledger.Conservation
import HostedLedger.Proofs.Ledger.Replay
import HostedLedger.Proofs.Application.Lifecycle
import HostedLedger.Proofs.Application.OpenHeight
import HostedLedger.Proofs.Application.Progress
import HostedLedger.Proofs.Wire.Canonical
import HostedLedger.Proofs.Digest.Collision
import HostedLedger.Proofs.Ledger.Commitment
import HostedLedger.Proofs.Merkle.Binding
import HostedLedger.Proofs.Ledger.StateRoot
import HostedLedger.Proofs.Foreign.HandleTable
import HostedLedger.Proofs.Foreign.LiveHandles
import HostedLedger.Proofs.Interleaving
import HostedLedger.Proofs.Account.Commutation
import HostedLedger.Proofs.Ledger.Concurrency
import HostedLedger.Proofs.Validator.Membership
import HostedLedger.Proofs.Foreign.Argument
import HostedLedger.Proofs.Foreign.Reaction
import HostedLedger.Proofs.Foreign.Call
import HostedLedger.Proofs.Foreign.Effect
import HostedLedger.Proofs.Foreign.Lifecycle
import HostedLedger.Proofs.Foreign.Failure
import HostedLedger.Proofs.Foreign.Isolation
import HostedLedger.Proofs.Validator.Call
import HostedLedger.Proofs.Validator.Selection
import HostedLedger.Proofs.Validator.Accounting
import HostedLedger.Proofs.Application.Written
import HostedLedger.Proofs.Foreign.Message
import HostedLedger.Proofs.Foreign.Agreement
import HostedLedger.SortedMap.Insertions
import HostedLedger.Proofs.Merkle.Shape
import HostedLedger.Proofs.Wire.Delimited
import HostedLedger.Proofs.Validator.Stakes
import HostedLedger.Proofs.Application.Seeding
import HostedLedger.Proofs.Application.Reporting
import HostedLedger.Proofs.Foreign.Answer
import HostedLedger.Proofs.Foreign.Refusal
import HostedLedger.Proofs.Foreign.InBand
import HostedLedger.Proofs.Config.Validity
import HostedLedger.Proofs.Foreign.Setup

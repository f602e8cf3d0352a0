import AtomicEscrow.Bytes.Basic
import AtomicEscrow.Bytes.Hex
import AtomicEscrow.Bytes.Positional
import AtomicEscrow.Bytes.Sha256
import AtomicEscrow.Config.Basic
import AtomicEscrow.Config.Layer
import AtomicEscrow.Config.LogLevel
import AtomicEscrow.Config.Setting
import AtomicEscrow.Config.Source
import AtomicEscrow.Engine.Basic
import AtomicEscrow.Engine.Event
import AtomicEscrow.Engine.EventLog
import AtomicEscrow.Evidence.Preamble
import AtomicEscrow.Evidence.Relay
import AtomicEscrow.Failure.Data
import AtomicEscrow.Failure.Escrow
import AtomicEscrow.Failure.Ledger
import AtomicEscrow.Json.Basic
import AtomicEscrow.Json.Printer
import AtomicEscrow.Json.Reader
import AtomicEscrow.Key.Address
import AtomicEscrow.Key.Pubkey
import AtomicEscrow.Ledger.Basic
import AtomicEscrow.Ledger.Batch
import AtomicEscrow.Number.Amount
import AtomicEscrow.Number.Binary64
import AtomicEscrow.Number.Decimal
import AtomicEscrow.Operation.Balance
import AtomicEscrow.Operation.Basic
import AtomicEscrow.Operation.Claim
import AtomicEscrow.Operation.Lock
import AtomicEscrow.Operation.Refund
import AtomicEscrow.Operation.Staging
import AtomicEscrow.Proofs.Admission
import AtomicEscrow.Proofs.Audit
import AtomicEscrow.Proofs.Authorization
import AtomicEscrow.Proofs.Binding
import AtomicEscrow.Proofs.ByteForm
import AtomicEscrow.Proofs.Canonical
import AtomicEscrow.Proofs.ChainFacts
import AtomicEscrow.Proofs.Chronicle
import AtomicEscrow.Proofs.Consent
import AtomicEscrow.Proofs.Custody
import AtomicEscrow.Proofs.Debit
import AtomicEscrow.Proofs.Debt
import AtomicEscrow.Proofs.Depth
import AtomicEscrow.Proofs.Digits
import AtomicEscrow.Proofs.Distribution
import AtomicEscrow.Proofs.Effect
import AtomicEscrow.Proofs.Ending
import AtomicEscrow.Proofs.EventForm
import AtomicEscrow.Proofs.Fault
import AtomicEscrow.Proofs.FirstInstruction
import AtomicEscrow.Proofs.Flow
import AtomicEscrow.Proofs.History
import AtomicEscrow.Proofs.Immutable
import AtomicEscrow.Proofs.Independence
import AtomicEscrow.Proofs.JsonText
import AtomicEscrow.Proofs.KeyText
import AtomicEscrow.Proofs.Keyed
import AtomicEscrow.Proofs.Layering
import AtomicEscrow.Proofs.Locking
import AtomicEscrow.Proofs.NonceRange
import AtomicEscrow.Proofs.NoncedPayment
import AtomicEscrow.Proofs.Ownership
import AtomicEscrow.Proofs.Posting
import AtomicEscrow.Proofs.Pot
import AtomicEscrow.Proofs.Publication
import AtomicEscrow.Proofs.Reading
import AtomicEscrow.Proofs.Registry
import AtomicEscrow.Proofs.Reputation
import AtomicEscrow.Proofs.Screening
import AtomicEscrow.Proofs.Separation
import AtomicEscrow.Proofs.Settleable
import AtomicEscrow.Proofs.Settlement
import AtomicEscrow.Proofs.Solvency
import AtomicEscrow.Proofs.Staging
import AtomicEscrow.Proofs.Supply
import AtomicEscrow.Proofs.Timelock
import AtomicEscrow.Proofs.Undoing
import AtomicEscrow.Proofs.Verdict
import AtomicEscrow.Proofs.Verification
import AtomicEscrow.Proofs.WellFormed
import AtomicEscrow.Proofs.WireForm
import AtomicEscrow.Proofs.Withdrawal
import AtomicEscrow.Record.Escrow
import AtomicEscrow.Record.Registry
import AtomicEscrow.Record.Table
import AtomicEscrow.Record.UserAccount
import AtomicEscrow.Sample.Swap
import AtomicEscrow.Sample.Testbed
import AtomicEscrow.Settlement.ClaimProof
import AtomicEscrow.Settlement.RefundAuthority
import AtomicEscrow.Terms.Basic
import AtomicEscrow.Terms.Codec
import AtomicEscrow.Terms.Commitment
import AtomicEscrow.Terms.Timelock
import AtomicEscrow.Toml.DateTable
import AtomicEscrow.Toml.Datetime
import AtomicEscrow.Toml.Document
import AtomicEscrow.Toml.Number
import AtomicEscrow.Toml.Reader
import AtomicEscrow.Toml.Tables
import AtomicEscrow.Toml.Text
import AtomicEscrow.Toml.Value
import AtomicEscrow.Transaction.Basic
import AtomicEscrow.Transaction.Reader
import AtomicEscrow.Wire.Account
import AtomicEscrow.Wire.Basic
import AtomicEscrow.Wire.Event
import AtomicEscrow.Wire.Evidence
import AtomicEscrow.Wire.Swap

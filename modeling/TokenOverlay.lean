import TokenOverlay.SortedMap.Lemmas
import TokenOverlay.Text.LowerCase
import TokenOverlay.Text.Decimal
import TokenOverlay.Bytes.Sha256
import TokenOverlay.Json.Text
import TokenOverlay.Amount
import TokenOverlay.Ecosystem
import TokenOverlay.Property
import TokenOverlay.Balance
import TokenOverlay.Offer
import TokenOverlay.Crowdsale.Quote
import TokenOverlay.Crowdsale.Basic
import TokenOverlay.Feature
import TokenOverlay.Distribution
import TokenOverlay.Selection
import TokenOverlay.Payload.Wire
import TokenOverlay.Payload.Json
import TokenOverlay.Rejection
import TokenOverlay.State.Basic
import TokenOverlay.State.Journal
import TokenOverlay.Action.Registry
import TokenOverlay.Action.Crowdsale
import TokenOverlay.Action.Orders
import TokenOverlay.Action.Features
import TokenOverlay.Execute.Message
import TokenOverlay.Engine.Apply
import TokenOverlay.Engine.Rollback
import TokenOverlay.Engine.Query
import TokenOverlay.Engine.Json
import TokenOverlay.Settings.Json
import TokenOverlay.Chain.Local
import TokenOverlay.Retry
import TokenOverlay.Follower
import TokenOverlay.Api.Respond
import TokenOverlay.Proofs.Replay
import TokenOverlay.Proofs.Reachable
import TokenOverlay.Proofs.Effects
import TokenOverlay.Proofs.Ownership
import TokenOverlay.Proofs.Sales
import TokenOverlay.Proofs.Saving
import TokenOverlay.Proofs.Checks
import TokenOverlay.Proofs.Selling
import TokenOverlay.Proofs.Verdicts
import TokenOverlay.Proofs.Crowdsales
import TokenOverlay.Proofs.Limits
import TokenOverlay.Proofs.Linked
import TokenOverlay.Proofs.Retention
import TokenOverlay.Proofs.Following
import TokenOverlay.Proofs.Convergence
import TokenOverlay.Proofs.Messages
import TokenOverlay.Proofs.Isolation
import TokenOverlay.Proofs.Window
import TokenOverlay.Proofs.Records
import TokenOverlay.Proofs.Deeds
import TokenOverlay.Proofs.Changes
import TokenOverlay.Proofs.Events
import TokenOverlay.Proofs.Discipline
import TokenOverlay.Proofs.Lifecycle
import TokenOverlay.Proofs.Switching
import TokenOverlay.Proofs.Gating
import TokenOverlay.Proofs.ForkDepth
import TokenOverlay.Proofs.Fields
import TokenOverlay.Proofs.Storage
import TokenOverlay.Proofs.Restart
import TokenOverlay.Proofs.Numbering
import TokenOverlay.Proofs.Issuance
import TokenOverlay.Proofs.Purchases
import TokenOverlay.Proofs.Mining
import TokenOverlay.Proofs.Offers
import TokenOverlay.Proofs.References
import TokenOverlay.Proofs.Withdrawal
import TokenOverlay.Proofs.Shares
import TokenOverlay.Proofs.Posting
import TokenOverlay.Proofs.Distributing
import TokenOverlay.Proofs.Payments
import TokenOverlay.Proofs.Trades
import TokenOverlay.Proofs.Runs
import TokenOverlay.Proofs.Pricing
import TokenOverlay.Proofs.Reopening
import TokenOverlay.Proofs.Savepoints
import TokenOverlay.Proofs.SendingAll
import TokenOverlay.Proofs.Splitting
import TokenOverlay.Proofs.Senders
import TokenOverlay.Proofs.Amounts
import TokenOverlay.Proofs.Denominations
import TokenOverlay.Proofs.Recoding
import TokenOverlay.Proofs.Allocations
import TokenOverlay.Proofs.Truncation
import TokenOverlay.Proofs.Tidy
import TokenOverlay.Proofs.Naming
import TokenOverlay.Proofs.Beside
import TokenOverlay.Proofs.Backoff

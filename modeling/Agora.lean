import Agora.EventRegistry.Statistics
import Agora.EventRegistry.Blacklist
import Agora.EventRegistry.Approvals
import Agora.EventRegistry.Rewards
import Agora.TicketPayment.Solvency
import Agora.TicketPayment.OverRefund
import Agora.TicketPayment.Lifecycle
import Agora.TicketPayment.EscrowMetric
import Agora.TicketPayment.StatusMirror
import Agora.TicketPayment.Pricing
import Agora.TicketPayment.Settlement
import Agora.TicketPayment.Pause
import Agora.TicketPayment.Cancellation
import Agora.TicketPayment.Disputes
import Agora.TicketPayment.FeeCap
import Agora.TicketPayment.BulkCursor
import Agora.EventRegistry.DisputeVerdict
import Agora.EventRegistry.SeriesOwners
import Agora.EventRegistry.Cancellation
import Agora.EventRegistry.StoredChecks
import Agora.EventRegistry.RevenueClaim
import Agora.EventRegistry.Tenure
import Agora.EventRegistry.Bridge
import Agora.TicketPayment.Votes
import Agora.TicketPayment.Redemption
import Agora.TicketPayment.Attendance
import Agora.TicketPayment.BondingCurve
import Agora.TicketPayment.CommitReveal
import Agora.TicketPayment.AuctionClosing
import Agora.TicketPayment.CodeScope
import Agora.TicketPayment.BuyerIndex
import Agora.EventRegistry.Wire
import Agora.ProSubscription.Entitlement
import Agora.Crdt.Convergence
import Agora.Sync.DeltaSync
import Agora.Server.Listings
import Agora.Zkp.RingProof
import Agora.Indexer.Sweeps
import Agora.Indexer.Resume
import Agora.Indexer.Forks
import Agora.Indexer.Workers

import Aegis.Oms.RecoveryAccounting
import Aegis.Oms.OrderHistory
import Aegis.Oms.SnapshotCoherence
import Aegis.Oms.Redelivery
import Aegis.Oms.Confluence
import Aegis.Oms.Identity
import Aegis.Oms.Receipts
import Aegis.Risk.Approval
import Aegis.Risk.KillSwitch
import Aegis.Risk.Reservations
import Aegis.Risk.ExposureBounds
import Aegis.HighAvailability.EmissionSafety
import Aegis.HighAvailability.Failover
import Aegis.HighAvailability.Replication
import Aegis.Portfolio.RollUp
import Aegis.Portfolio.Alarms
import Aegis.Portfolio.Peaks
import Aegis.Portfolio.FillHistory
import Aegis.Portfolio.OrderLifecycle
import Aegis.Execution.CancelFinality
import Aegis.Execution.RoutingBounds
import Aegis.MarketData.FeedRecovery
import Aegis.Execution.AlphaDecay
import Aegis.ModelRegistry.Statistics
import Aegis.EventBus.SpscRing
import Aegis.Foundation.TombstoneTable

import Aegis.Common.MarketState
import Aegis.MarketData.SyntheticEvent
import Aegis.Oms.Types
import Mathlib.Data.List.FinRange

/-!
The records of the exchange gateway (`execution/src/types.cpp`), for the build without live
trading. An array with a count is the list of its used entries, except for the order table of a
recovery snapshot, where positions matter.
-/

namespace Aegis.Execution

open Aegis.Common Aegis.Oms Aegis.Risk

def kMaximumGatewayOrders : Nat := 1024

def kMaximumGatewayEvents : Nat := 4096

def kMaximumGatewayCommands : Nat := 4096

def kMaximumGatewayJournalRecords : Nat := 16384

def kMaximumGatewayInstruments : Nat := 64

def kPartsPerMillion : UInt64 := 1000000

instance : NeZero kMaximumGatewayOrders := ⟨by decide⟩

instance : NeZero kMaximumGatewayCommands := ⟨by decide⟩

inductive GatewayMode where
  | simulation | paper | halted
  | unlisted (byte : UnlistedCode 1 3)
  deriving DecidableEq

def GatewayMode.code : GatewayMode → UInt8
  | .simulation => 1
  | .paper => 2
  | .halted => 3
  | .unlisted byte => byte.raw

inductive GatewayHealth where
  | starting | healthy | recovering | degraded | unsafeHealth | stopped
  deriving DecidableEq

inductive SessionState where
  | stopped | starting | loggingOn | active | recovering | loggingOff | halted
  deriving DecidableEq

def SessionState.code : SessionState → UInt8
  | .stopped => 1
  | .starting => 2
  | .loggingOn => 3
  | .active => 4
  | .recovering => 5
  | .loggingOff => 6
  | .halted => 7

inductive SessionReason where
  | none | operatorStart | logonAccepted | operatorLogoff | logoffComplete | heartbeatTimeout
  | inboundSequenceGap | recoveryRequested | recoveryComplete | recoveryAmbiguous | splitBrain
  | journalUnavailable | shutdown
  deriving DecidableEq

inductive SequenceStatus where
  | first | inOrder | duplicate | gap | outOfOrder | exhausted | invalid
  deriving DecidableEq

/-- `GatewaySubmitStatus`, without that of a concurrent writer. -/
inductive GatewaySubmitStatus where
  | accepted | duplicate | rejected | capacityExhausted | stopped
  deriving DecidableEq

def GatewaySubmitStatus.code : GatewaySubmitStatus → UInt8
  | .accepted => 1
  | .duplicate => 2
  | .rejected => 3
  | .capacityExhausted => 4
  | .stopped => 6

inductive GatewayPollStatus where
  | event | empty | recovering | sequenceError | stopped
  deriving DecidableEq

inductive GatewayReason where
  | none | accepted | invalidConfiguration | invalidRequest | invalidCommand
  | commandKindMismatch | duplicateCommand | commandIdentityConflict | sessionNotActive
  | modeMismatch | scopeMismatch | staleFencingToken | riskDecisionInvalid | riskDecisionRejected
  | riskDecisionExpired | riskHashMismatch | marketStateUnsafe | clockUnhealthy | feedUnhealthy
  | bookInvalid | tradingHalted | killSwitchEngaged | signedConfigurationRequired
  | operatorAuthorizationRequired | activationRecordRequired | rateLimited | orderCapacity
  | eventCapacity | journalCapacity | orderNotFound | paperPolicyReject | sequenceGap
  | heartbeatTimeout | recoveryRequired | recoveryAmbiguous | decodeFailure | unsupportedProtocol
  | arithmeticOverflow | shutdown
  | unlisted (byte : UnlistedCode 0 38)
  deriving DecidableEq

def GatewayReason.code : GatewayReason → UInt8
  | .unlisted byte => byte.raw
  | listed => UInt8.ofNat listed.ctorIdx

inductive GatewayResponseKind where
  | acknowledgement | rejection | fill | cancelAcknowledgement | cancelRejection
  | replaceAcknowledgement | replaceRejection | heartbeat | sessionStatus
  | unlisted (byte : UnlistedCode 1 9)
  deriving DecidableEq

def GatewayResponseKind.code : GatewayResponseKind → UInt8
  | .acknowledgement => 1
  | .rejection => 2
  | .fill => 3
  | .cancelAcknowledgement => 4
  | .cancelRejection => 5
  | .replaceAcknowledgement => 6
  | .replaceRejection => 7
  | .heartbeat => 8
  | .sessionStatus => 9
  | .unlisted byte => byte.raw

inductive GatewayAuditKind where
  | sessionTransition | commandDecision | responseScheduled | responseEmitted | marketObservation
  | recovery | shutdown
  deriving DecidableEq

def GatewayAuditKind.code : GatewayAuditKind → UInt8
  | .sessionTransition => 1
  | .commandDecision => 2
  | .responseScheduled => 3
  | .responseEmitted => 4
  | .marketObservation => 5
  | .recovery => 6
  | .shutdown => 7

inductive PaperOrderState where
  | pendingAck | working | pendingCancel | pendingReplace | filled | canceled | rejected
  | unknownRecovery
  | unlisted (byte : UnlistedCode 1 8)
  deriving DecidableEq

def PaperOrderState.code : PaperOrderState → UInt8
  | .pendingAck => 1
  | .working => 2
  | .pendingCancel => 3
  | .pendingReplace => 4
  | .filled => 5
  | .canceled => 6
  | .rejected => 7
  | .unknownRecovery => 8
  | .unlisted byte => byte.raw

inductive RecoveryStatus where
  | completed | ambiguous | invalidSnapshot | configurationMismatch | busy
  deriving DecidableEq

/-- The stable hash of the words of a record. -/
def hashWords (words : List UInt64) : UInt64 :=
  nonzeroHash (words.foldl mix kFnvOffset)

/-- `mix_identifier`. -/
def identifierWords {Tag : Type} (value : Identifier128 Tag) : List UInt64 :=
  [value.high, value.low]

/-- `mix_external`. -/
def externalWords (value : ExternalOrderId) : List UInt64 :=
  [value.high, value.low]

def flag (value : Bool) : UInt64 :=
  if value then 1 else 0

@[simp] theorem hashWords_ne_zero (words : List UInt64) : hashWords words ≠ 0 :=
  nonzeroHash_ne_zero _

structure SyntheticInstrumentMapping where
  venueId : VenueId := {}
  instrumentId : InstrumentId := {}
  syntheticVenueNumber : UInt32 := 0
  syntheticInstrumentNumber : UInt32 := 0
  deriving DecidableEq

structure PaperModelConfiguration where
  deterministicSeed : UInt64 := 20260831
  acknowledgementLatencyNs : UInt64 := 50000
  cancelLatencyNs : UInt64 := 75000
  replaceLatencyNs : UInt64 := 75000
  initialQueueAheadUnits : UInt64 := 10
  maximumFillChunkUnits : UInt64 := 100
  feePerUnitCurrencyNanos : UInt64 := 1000
  slippageTicks : UInt64 := 1
  impactTicksPerMillionUnits : UInt64 := 1
  rejectEveryNthNewOrder : UInt32 := 0
  allowAuctionOrders : Bool := true
  deriving DecidableEq

structure GatewayConfiguration where
  sessionId : SessionId := {}
  accountId : AccountId := {}
  venueId : VenueId := {}
  configurationVersion : ConfigurationVersion := {}
  startupMode : GatewayMode := .simulation
  exchangeSessionEpoch : UInt64 := 0
  initialFencingToken : UInt64 := 0
  heartbeatIntervalNs : UInt64 := 100000000
  heartbeatTimeoutNs : UInt64 := 500000000
  maximumClockAgeNs : UInt64 := 100000000
  commandRateWindowNs : UInt64 := 1000000000
  maximumNewOrdersPerWindow : UInt32 := 1000
  maximumCancelsPerWindow : UInt32 := 2000
  maximumReplacesPerWindow : UInt32 := 1000
  mappings : List SyntheticInstrumentMapping := []
  paperModel : PaperModelConfiguration := {}
  stableHash : UInt64 := 0
  deriving DecidableEq

def validPaperConfiguration (value : PaperModelConfiguration) : Bool :=
  value.deterministicSeed != 0 && value.acknowledgementLatencyNs != 0 &&
    value.cancelLatencyNs != 0 && value.replaceLatencyNs != 0 &&
    value.maximumFillChunkUnits != 0 && value.impactTicksPerMillionUnits ≤ kPartsPerMillion

def validMapping (value : SyntheticInstrumentMapping) : Bool :=
  value.venueId.valid && value.instrumentId.valid && value.syntheticVenueNumber != 0 &&
    value.syntheticInstrumentNumber != 0

def stableGatewayConfigurationHash (value : GatewayConfiguration) : UInt64 :=
  hashWords (identifierWords value.sessionId ++ identifierWords value.accountId ++
    identifierWords value.venueId ++ identifierWords value.configurationVersion ++
    [value.startupMode.code.toUInt64, value.exchangeSessionEpoch, value.initialFencingToken,
      value.heartbeatIntervalNs, value.heartbeatTimeoutNs, value.maximumClockAgeNs,
      value.commandRateWindowNs, value.maximumNewOrdersPerWindow.toUInt64,
      value.maximumCancelsPerWindow.toUInt64, value.maximumReplacesPerWindow.toUInt64,
      UInt64.ofNat value.mappings.length] ++
    value.mappings.flatMap (fun mapping =>
      identifierWords mapping.venueId ++ identifierWords mapping.instrumentId ++
        [mapping.syntheticVenueNumber.toUInt64, mapping.syntheticInstrumentNumber.toUInt64]) ++
    [value.paperModel.deterministicSeed, value.paperModel.acknowledgementLatencyNs,
      value.paperModel.cancelLatencyNs, value.paperModel.replaceLatencyNs,
      value.paperModel.initialQueueAheadUnits, value.paperModel.maximumFillChunkUnits,
      value.paperModel.feePerUnitCurrencyNanos, value.paperModel.slippageTicks,
      value.paperModel.impactTicksPerMillionUnits,
      value.paperModel.rejectEveryNthNewOrder.toUInt64, flag value.paperModel.allowAuctionOrders])

def distinctMappings (mapping other : SyntheticInstrumentMapping) : Bool :=
  mapping.instrumentId != other.instrumentId &&
    (mapping.syntheticVenueNumber != other.syntheticVenueNumber ||
      mapping.syntheticInstrumentNumber != other.syntheticInstrumentNumber)

/-- The loop of `valid_gateway_configuration` over the mappings. -/
def validMappings (venueId : VenueId) : List SyntheticInstrumentMapping → Bool
  | [] => true
  | mapping :: rest =>
      validMapping mapping && mapping.venueId == venueId && rest.all (distinctMappings mapping) &&
        validMappings venueId rest

def validGatewayConfiguration (value : GatewayConfiguration) : Bool :=
  value.sessionId.valid && value.accountId.valid && value.venueId.valid &&
    value.configurationVersion.valid &&
    (value.startupMode == .simulation || value.startupMode == .paper) &&
    value.exchangeSessionEpoch != 0 && value.initialFencingToken != 0 &&
    value.heartbeatIntervalNs != 0 && value.heartbeatTimeoutNs > value.heartbeatIntervalNs &&
    value.maximumClockAgeNs != 0 && value.commandRateWindowNs != 0 &&
    value.maximumNewOrdersPerWindow != 0 &&
    value.maximumNewOrdersPerWindow.toNat ≤ kMaximumGatewayCommands &&
    value.maximumCancelsPerWindow != 0 &&
    value.maximumCancelsPerWindow.toNat ≤ kMaximumGatewayCommands &&
    value.maximumReplacesPerWindow != 0 && value.mappings.length != 0 &&
    value.maximumReplacesPerWindow.toNat ≤ kMaximumGatewayCommands &&
    value.mappings.length ≤ kMaximumGatewayInstruments &&
    validPaperConfiguration value.paperModel && value.stableHash != 0 &&
    value.stableHash == stableGatewayConfigurationHash value &&
    validMappings value.venueId value.mappings

/-- `time::ClockQualitySnapshot`, with two fields more. -/
structure ClockQuality extends Time.ClockQualitySnapshot where
  lastSynchronizationTime : UInt64 := 0
  hardwareTimestampAvailable : Bool := false
  deriving DecidableEq

structure FinalSafetyState where
  observedProcessMonotonicTimeNs : UInt64 := 0
  marketStateSnapshot : MarketState.Snapshot := {}
  officialTradingStatus : MarketState.OfficialTradingStatus := .unknown
  feedHealth : MarketState.FeedHealth := .unknown
  bookValidity : MarketState.BookValidity := .recovering
  clockQualitySnapshot : ClockQuality := {}
  authority : LeaderAuthority := {}
  effectiveConfigurationHash : UInt64 := 0
  activationRecordHash : UInt64 := 0
  operatorAuthorizationValidUntilNs : UInt64 := 0
  signedConfigurationValid : Bool := false
  operatorAuthorized : Bool := false
  activationRecordDurable : Bool := false
  killSwitchEngaged : Bool := true
  journalReady : Bool := false
  stableHash : UInt64 := 0
  deriving DecidableEq

def stableFinalSafetyStateHash (value : FinalSafetyState) : UInt64 :=
  hashWords [value.observedProcessMonotonicTimeNs, value.marketStateSnapshot.stableHash,
    value.officialTradingStatus.code.toUInt64, value.feedHealth.code.toUInt64,
    value.bookValidity.code.toUInt64, value.clockQualitySnapshot.state.code.toUInt64,
    value.clockQualitySnapshot.operationMode.code.toUInt64, value.clockQualitySnapshot.observedAt,
    value.clockQualitySnapshot.lastSynchronizationTime, value.clockQualitySnapshot.sourceId.high,
    value.clockQualitySnapshot.sourceId.low,
    flag value.clockQualitySnapshot.hardwareTimestampAvailable,
    value.authority.exchangeSessionEpoch, value.authority.fencingToken,
    value.effectiveConfigurationHash, value.activationRecordHash,
    value.operatorAuthorizationValidUntilNs, flag value.signedConfigurationValid,
    flag value.operatorAuthorized, flag value.activationRecordDurable,
    flag value.killSwitchEngaged, flag value.journalReady]

def validFinalSafetyState (value : FinalSafetyState) : Bool :=
  value.observedProcessMonotonicTimeNs != 0 && value.marketStateSnapshot.valid &&
    value.authority.valid && value.effectiveConfigurationHash != 0 && value.stableHash != 0 &&
    value.stableHash == stableFinalSafetyStateHash value

structure GatewayRequest where
  command : GatewayCommand := {}
  riskDecision : RiskDecision := {}
  safety : FinalSafetyState := {}
  stableHash : UInt64 := 0
  deriving DecidableEq

abbrev GatewayRequest.now (request : GatewayRequest) : UInt64 :=
  request.safety.observedProcessMonotonicTimeNs

def stableGatewayRequestHash (value : GatewayRequest) : UInt64 :=
  hashWords [value.command.stableHash, value.riskDecision.stableHash, value.safety.stableHash]

def validGatewayRequest (value : GatewayRequest) : Bool :=
  validGatewayCommand value.command && validRiskDecision value.riskDecision &&
    validFinalSafetyState value.safety && value.stableHash != 0 &&
    value.stableHash == stableGatewayRequestHash value

structure GatewaySubmitResult where
  status : GatewaySubmitStatus := .rejected
  reason : GatewayReason := .invalidRequest
  outboundSequence : UInt64 := 0
  journalSequence : Nat := 0
  journalRecordHash : UInt64 := 0
  stableHash : UInt64 := 0
  deriving DecidableEq

def stableGatewaySubmitResultHash (value : GatewaySubmitResult) : UInt64 :=
  hashWords [value.status.code.toUInt64, value.reason.code.toUInt64, value.outboundSequence,
    UInt64.ofNat value.journalSequence, value.journalRecordHash]

structure GatewayEvent where
  eventId : GlobalEventId := {}
  sourceCommandId : GlobalEventId := {}
  executionId : GlobalEventId := {}
  orderId : OrderId := {}
  externalOrderId : ExternalOrderId := {}
  sessionId : SessionId := {}
  accountId : AccountId := {}
  venueId : VenueId := {}
  instrumentId : InstrumentId := {}
  configurationVersion : ConfigurationVersion := {}
  authority : LeaderAuthority := {}
  mode : GatewayMode := .simulation
  kind : GatewayResponseKind := .rejection
  reason : GatewayReason := .none
  venueSequence : UInt64 := 0
  exchangeEventTimeNs : Int64 := 0
  nicReceiveTimeNs : Int64 := 0
  processMonotonicTimeNs : UInt64 := 0
  priceTicks : Int64 := 0
  quantityUnits : UInt64 := 0
  cumulativeFillQuantityUnits : UInt64 := 0
  remainingQuantityUnits : UInt64 := 0
  feeCurrencyNanos : UInt64 := 0
  queueAheadBeforeUnits : UInt64 := 0
  queueAheadAfterUnits : UInt64 := 0
  modeledSlippageTicks : UInt64 := 0
  modeledImpactTicks : UInt64 := 0
  sourceMarketEventHash : UInt64 := 0
  stableHash : UInt64 := 0
  deriving DecidableEq

def stableGatewayEventHash (value : GatewayEvent) : UInt64 :=
  hashWords (identifierWords value.eventId ++ identifierWords value.sourceCommandId ++
    identifierWords value.executionId ++ identifierWords value.orderId ++
    externalWords value.externalOrderId ++ identifierWords value.sessionId ++
    identifierWords value.accountId ++ identifierWords value.venueId ++
    identifierWords value.instrumentId ++ identifierWords value.configurationVersion ++
    [value.authority.exchangeSessionEpoch, value.authority.fencingToken,
      value.mode.code.toUInt64, value.kind.code.toUInt64, value.reason.code.toUInt64,
      value.venueSequence, value.exchangeEventTimeNs.toUInt64, value.nicReceiveTimeNs.toUInt64,
      value.processMonotonicTimeNs, value.priceTicks.toUInt64, value.quantityUnits,
      value.cumulativeFillQuantityUnits, value.remainingQuantityUnits, value.feeCurrencyNanos,
      value.queueAheadBeforeUnits, value.queueAheadAfterUnits, value.modeledSlippageTicks,
      value.modeledImpactTicks, value.sourceMarketEventHash])

def validGatewayMode (mode : GatewayMode) : Bool :=
  mode == .simulation || mode == .paper || mode == .halted

def validGatewayReason : GatewayReason → Bool
  | .unlisted .. => false
  | _ => true

def responseReasonMatchesKind (value : GatewayEvent) : Bool :=
  if value.kind == .rejection || value.kind == .cancelRejection ||
      value.kind == .replaceRejection then
    value.reason != .none && value.reason != .accepted
  else if value.kind == .sessionStatus then true
  else value.reason == .accepted

def validGatewayEvent (value : GatewayEvent) : Bool :=
  if !value.eventId.valid || !value.sessionId.valid || !value.accountId.valid ||
      !value.venueId.valid || !value.configurationVersion.valid || !value.authority.valid ||
      !validGatewayMode value.mode || value.mode == .halted ||
      value.kind.code < GatewayResponseKind.acknowledgement.code ||
      value.kind.code > GatewayResponseKind.sessionStatus.code || value.venueSequence == 0 ||
      !validGatewayReason value.reason || !responseReasonMatchesKind value ||
      value.processMonotonicTimeNs == 0 || value.stableHash == 0 ||
      value.stableHash != stableGatewayEventHash value then false
  else if value.kind == .heartbeat || value.kind == .sessionStatus then true
  else if !value.sourceCommandId.valid || !value.orderId.valid || !value.instrumentId.valid then
    false
  else if value.kind == .fill then
    value.executionId.valid && value.externalOrderId.valid && value.priceTicks > 0 &&
      value.quantityUnits != 0 && value.cumulativeFillQuantityUnits ≥ value.quantityUnits
  else true

structure PaperOrderSnapshot where
  sourceCommandId : GlobalEventId := {}
  orderId : OrderId := {}
  externalOrderId : ExternalOrderId := {}
  instrumentId : InstrumentId := {}
  side : IntentAction := .buy
  state : PaperOrderState := .pendingAck
  priceTicks : Int64 := 0
  quantityUnits : UInt64 := 0
  cumulativeFillQuantityUnits : UInt64 := 0
  queueAheadUnits : UInt64 := 0
  pendingReplacePriceTicks : Int64 := 0
  pendingReplaceQuantityUnits : UInt64 := 0
  acknowledgementDueNs : UInt64 := 0
  cancelDueNs : UInt64 := 0
  replaceDueNs : UInt64 := 0
  occupied : Bool := false
  deriving DecidableEq

abbrev OrderTable := Fin kMaximumGatewayOrders → PaperOrderSnapshot

def validPaperState : PaperOrderState → Bool
  | .unlisted .. => false
  | _ => true

def validPaperOrderSnapshot (order : PaperOrderSnapshot) : Bool :=
  if !order.sourceCommandId.valid || !order.orderId.valid ||
      (!order.externalOrderId.valid && order.state != .rejected) || !order.instrumentId.valid ||
      !validPaperState order.state || (order.side != .buy && order.side != .sell) ||
      order.priceTicks ≤ 0 || order.quantityUnits == 0 ||
      order.cumulativeFillQuantityUnits > order.quantityUnits then false
  else if order.state == .pendingAck && order.acknowledgementDueNs == 0 then false
  else if order.state == .pendingCancel && order.cancelDueNs == 0 then false
  else
    order.state != .pendingReplace || (order.pendingReplacePriceTicks > 0 &&
        order.pendingReplaceQuantityUnits > order.cumulativeFillQuantityUnits &&
        order.replaceDueNs != 0)

structure GatewayRecoverySnapshot where
  sessionId : SessionId := {}
  accountId : AccountId := {}
  venueId : VenueId := {}
  configurationVersion : ConfigurationVersion := {}
  configurationHash : UInt64 := 0
  exchangeSessionEpoch : UInt64 := 0
  nextInboundSequence : UInt64 := 0
  orders : OrderTable := fun _ => {}
  orderCount : UInt32 := 0
  stableHash : UInt64 := 0

def recoveryOrderWords (index : Nat) (order : PaperOrderSnapshot) : List UInt64 :=
  [UInt64.ofNat index, flag order.occupied] ++
    if !order.occupied then []
    else
      identifierWords order.sourceCommandId ++ identifierWords order.orderId ++
        externalWords order.externalOrderId ++ identifierWords order.instrumentId ++
        [order.side.code.toUInt64, order.state.code.toUInt64, order.priceTicks.toUInt64,
          order.quantityUnits, order.cumulativeFillQuantityUnits, order.queueAheadUnits,
          order.pendingReplacePriceTicks.toUInt64, order.pendingReplaceQuantityUnits,
          order.acknowledgementDueNs, order.cancelDueNs, order.replaceDueNs]

def stableRecoverySnapshotHash (value : GatewayRecoverySnapshot) : UInt64 :=
  hashWords (identifierWords value.sessionId ++ identifierWords value.accountId ++
    identifierWords value.venueId ++ identifierWords value.configurationVersion ++
    [value.configurationHash, value.exchangeSessionEpoch, value.nextInboundSequence,
      value.orderCount.toUInt64] ++
    (List.finRange kMaximumGatewayOrders).flatMap fun index : Fin kMaximumGatewayOrders =>
      recoveryOrderWords index.val (value.orders index))

def duplicateRecoveryOrder (orders : OrderTable) (index : Fin kMaximumGatewayOrders) : Bool :=
  (List.finRange kMaximumGatewayOrders).any fun other =>
    other < index && (orders other).occupied && (orders other).orderId == (orders index).orderId

/-- The occupied slots, as `valid_recovery_snapshot` counts them. -/
def occupiedCount (orders : OrderTable) : UInt32 :=
  (List.finRange kMaximumGatewayOrders).foldl
    (fun count index => count + if (orders index).occupied then 1 else 0) 0

def validRecoverySnapshot (value : GatewayRecoverySnapshot) : Bool :=
  value.sessionId.valid && value.accountId.valid && value.venueId.valid &&
    value.configurationVersion.valid && value.configurationHash != 0 &&
    value.exchangeSessionEpoch != 0 && value.nextInboundSequence != 0 &&
    value.orderCount.toNat ≤ kMaximumGatewayOrders && value.stableHash != 0 &&
    value.stableHash == stableRecoverySnapshotHash value &&
    (List.finRange kMaximumGatewayOrders).all (fun index =>
      !(value.orders index).occupied || (validPaperOrderSnapshot (value.orders index) &&
          !duplicateRecoveryOrder value.orders index)) &&
    occupiedCount value.orders == value.orderCount

structure GatewayAuditRecord where
  sequence : Nat := 0
  kind : GatewayAuditKind := .commandDecision
  mode : GatewayMode := .simulation
  sessionState : SessionState := .stopped
  reason : GatewayReason := .none
  correlationId : GlobalEventId := {}
  orderId : OrderId := {}
  commandHash : UInt64 := 0
  riskDecisionHash : UInt64 := 0
  safetyStateHash : UInt64 := 0
  gatewayEventHash : UInt64 := 0
  processMonotonicTimeNs : UInt64 := 0
  previousRecordHash : UInt64 := 0
  stableHash : UInt64 := 0
  deriving DecidableEq

def stableGatewayAuditRecordHash (value : GatewayAuditRecord) : UInt64 :=
  hashWords ([UInt64.ofNat value.sequence, value.kind.code.toUInt64, value.mode.code.toUInt64,
      value.sessionState.code.toUInt64, value.reason.code.toUInt64] ++
    identifierWords value.correlationId ++ identifierWords value.orderId ++
    [value.commandHash, value.riskDecisionHash, value.safetyStateHash, value.gatewayEventHash,
      value.processMonotonicTimeNs, value.previousRecordHash])

end Aegis.Execution

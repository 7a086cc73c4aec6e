import Aegis.Risk.Types

/-!
The data model of the order-management system (`oms/src/types.cpp`). Counters that the bounded
journal keeps small are natural numbers; quantities, times, identifiers and hashes keep their
width.
-/

namespace Aegis.Oms

open Aegis.Common Aegis.Risk

def kMaximumOmsOrders : Nat := 1024

def kMaximumOmsExecutions : Nat := 4096

def kOmsIdempotencyCapacity : Nat := 8192

instance : NeZero kMaximumOmsOrders := ⟨by decide⟩

instance : NeZero kMaximumOmsExecutions := ⟨by decide⟩

instance : NeZero kOmsIdempotencyCapacity := ⟨by decide⟩

/-- `OrderState`. The service only ever stores listed states. -/
inductive OrderState where
  | created | ready | pendingAck | working | partiallyFilled | pendingCancel | pendingReplace
  | filled | canceled | rejected | expired | unknownRecovery
  deriving DecidableEq

def OrderState.code : OrderState → UInt8
  | .created => 1
  | .ready => 2
  | .pendingAck => 3
  | .working => 4
  | .partiallyFilled => 5
  | .pendingCancel => 6
  | .pendingReplace => 7
  | .filled => 8
  | .canceled => 9
  | .rejected => 10
  | .expired => 11
  | .unknownRecovery => 12

/-- `InputKind`, with the bytes outside the listed range. -/
inductive InputKind where
  | acceptIntent | markReady | dispatch | cancelIntent | replaceIntent | acknowledgement
  | rejection | fill | cancelAcknowledgement | cancelRejection | replaceAcknowledgement
  | replaceRejection | expire | recoveryBegin | recoveryObservation | authorityUpdate
  | unlisted (byte : UnlistedCode 1 16)
  deriving DecidableEq

def InputKind.code : InputKind → UInt8
  | .acceptIntent => 1
  | .markReady => 2
  | .dispatch => 3
  | .cancelIntent => 4
  | .replaceIntent => 5
  | .acknowledgement => 6
  | .rejection => 7
  | .fill => 8
  | .cancelAcknowledgement => 9
  | .cancelRejection => 10
  | .replaceAcknowledgement => 11
  | .replaceRejection => 12
  | .expire => 13
  | .recoveryBegin => 14
  | .recoveryObservation => 15
  | .authorityUpdate => 16
  | .unlisted byte => byte.raw

inductive EventSource where
  | internal | gateway | dropCopy | recovery
  | unlisted (byte : UnlistedCode 1 4)
  deriving DecidableEq

def EventSource.code : EventSource → UInt8
  | .internal => 1
  | .gateway => 2
  | .dropCopy => 3
  | .recovery => 4
  | .unlisted byte => byte.raw

inductive RecoveryObservation where
  | none | working | partiallyFilled | filled | canceled | rejected | expired | absentAmbiguous
  | unlisted (byte : UnlistedCode 0 7)
  deriving DecidableEq

def RecoveryObservation.code : RecoveryObservation → UInt8
  | .none => 0
  | .working => 1
  | .partiallyFilled => 2
  | .filled => 3
  | .canceled => 4
  | .rejected => 5
  | .expired => 6
  | .absentAmbiguous => 7
  | .unlisted byte => byte.raw

inductive GatewayCommandKind where
  | none | newOrder | cancel | replace
  deriving DecidableEq

def GatewayCommandKind.code : GatewayCommandKind → UInt8
  | .none => 0
  | .newOrder => 1
  | .cancel => 2
  | .replace => 3

inductive ApplyStatus where
  | applied | duplicate | reconciled | outOfOrderApplied | forbiddenTransition | invalid
  | notFound | capacityExhausted | journalUnavailable | fenced | inhibited | busy | stopped
  deriving DecidableEq

def ApplyStatus.code : ApplyStatus → UInt8
  | .applied => 1
  | .duplicate => 2
  | .reconciled => 3
  | .outOfOrderApplied => 4
  | .forbiddenTransition => 5
  | .invalid => 6
  | .notFound => 7
  | .capacityExhausted => 8
  | .journalUnavailable => 9
  | .fenced => 10
  | .inhibited => 11
  | .busy => 12
  | .stopped => 13

inductive OmsReason where
  | none | accepted | exactRiskApprovalRequired | approvalExpired | scopeMismatch
  | duplicateReceipt | receiptConflict | duplicateIntent | orderNotFound | forbiddenTransition
  | staleFencingToken | exchangeEpochMismatch | externalIdConflict | executionConflict
  | invalidQuantity | invalidPrice | arithmeticOverflow | orderCapacity | executionCapacity
  | idempotencyCapacity | journalCapacity | recoveryRequired | ambiguousAbsence
  | snapshotUnavailable | configurationInvalid | shutdown
  deriving DecidableEq

def OmsReason.code : OmsReason → UInt8
  | .none => 0
  | .accepted => 1
  | .exactRiskApprovalRequired => 2
  | .approvalExpired => 3
  | .scopeMismatch => 4
  | .duplicateReceipt => 5
  | .receiptConflict => 6
  | .duplicateIntent => 7
  | .orderNotFound => 8
  | .forbiddenTransition => 9
  | .staleFencingToken => 10
  | .exchangeEpochMismatch => 11
  | .externalIdConflict => 12
  | .executionConflict => 13
  | .invalidQuantity => 14
  | .invalidPrice => 15
  | .arithmeticOverflow => 16
  | .orderCapacity => 17
  | .executionCapacity => 18
  | .idempotencyCapacity => 19
  | .journalCapacity => 20
  | .recoveryRequired => 21
  | .ambiguousAbsence => 22
  | .snapshotUnavailable => 23
  | .configurationInvalid => 24
  | .shutdown => 25

inductive OmsHealth where
  | starting | healthy | recovering | unsafeHealth | stopped
  deriving DecidableEq

def OmsHealth.code : OmsHealth → UInt8
  | .starting => 1
  | .healthy => 2
  | .recovering => 3
  | .unsafeHealth => 4
  | .stopped => 5

/-- `OmsInvariant`: what made the service unsafe. -/
inductive OmsInvariant where
  | none | configurationInvalid | receiptConflict | externalMappingConflict | executionConflict
  | quantityMismatch | arithmeticOverflow | splitBrain | journalExhausted
  | snapshotPublicationFailed | replayDiverged
  deriving DecidableEq

def OmsInvariant.code : OmsInvariant → UInt8
  | .none => 0
  | .configurationInvalid => 1
  | .receiptConflict => 2
  | .externalMappingConflict => 3
  | .executionConflict => 4
  | .quantityMismatch => 5
  | .arithmeticOverflow => 6
  | .splitBrain => 7
  | .journalExhausted => 8
  | .snapshotPublicationFailed => 9
  | .replayDiverged => 10

/-- `RecoveryStatus`: the answer of `recover_from`. -/
inductive RecoveryStatus where
  | recoveredReady | recoveredInhibited | sourceCorrupt | configurationMismatch
  | replayDiverged | targetNotEmpty | targetJournalFull | busy
  deriving DecidableEq

/-- A provider-neutral external order identity. -/
@[ext]
structure ExternalOrderId where
  high : UInt64 := 0
  low : UInt64 := 0
  deriving DecidableEq

def ExternalOrderId.valid (identifier : ExternalOrderId) : Bool :=
  identifier.high != 0 || identifier.low != 0

structure LeaderAuthority where
  exchangeSessionEpoch : UInt64 := 0
  fencingToken : UInt64 := 0
  deriving DecidableEq

def LeaderAuthority.valid (authority : LeaderAuthority) : Bool :=
  authority.exchangeSessionEpoch != 0 && authority.fencingToken != 0

structure OmsConfiguration where
  sessionId : SessionId := {}
  accountId : AccountId := {}
  configurationVersion : ConfigurationVersion := {}
  tradingMode : TradingMode := .simulation
  exchangeSessionEpoch : UInt64 := 0
  initialFencingToken : UInt64 := 0
  maximumOrderAgeNs : UInt64 := 0
  requireDropCopy : Bool := true
  stableHash : UInt64 := 0

structure OmsInput where
  receiptId : GlobalEventId := {}
  kind : InputKind := .acceptIntent
  source : EventSource := .internal
  orderId : OrderId := {}
  externalOrderId : ExternalOrderId := {}
  executionId : GlobalEventId := {}
  intent : RiskIntent := {}
  riskDecision : RiskDecision := {}
  authority : LeaderAuthority := {}
  recoveryObservation : RecoveryObservation := .none
  priceTicks : Int64 := 0
  quantityUnits : UInt64 := 0
  venueSequence : UInt64 := 0
  exchangeEventTimeNs : Int64 := 0
  nicReceiveTimeNs : Int64 := 0
  processMonotonicTimeNs : UInt64 := 0
  stableHash : UInt64 := 0
  deriving DecidableEq

abbrev ClientOrderId := Vector Char 33

structure GatewayCommand where
  commandId : GlobalEventId := {}
  kind : GatewayCommandKind := .none
  orderId : OrderId := {}
  externalOrderId : ExternalOrderId := {}
  clientOrderId : ClientOrderId := Vector.replicate 33 '\x00'
  sessionId : SessionId := {}
  accountId : AccountId := {}
  strategyId : StrategyId := {}
  venueId : VenueId := {}
  instrumentId : InstrumentId := {}
  configurationVersion : ConfigurationVersion := {}
  side : IntentAction := .buy
  priceTicks : Int64 := 0
  quantityUnits : UInt64 := 0
  cumulativeFillQuantityUnits : UInt64 := 0
  authority : LeaderAuthority := {}
  intentHash : UInt64 := 0
  riskDecisionHash : UInt64 := 0
  generatedProcessMonotonicTimeNs : UInt64 := 0
  stableHash : UInt64 := 0
  deriving DecidableEq

structure OmsOrderSnapshot where
  orderId : OrderId := {}
  intentId : IntentId := {}
  sessionId : SessionId := {}
  accountId : AccountId := {}
  strategyId : StrategyId := {}
  venueId : VenueId := {}
  instrumentId : InstrumentId := {}
  configurationVersion : ConfigurationVersion := {}
  externalOrderId : ExternalOrderId := {}
  clientOrderId : ClientOrderId := Vector.replicate 33 '\x00'
  authority : LeaderAuthority := {}
  state : OrderState := .created
  stateBeforeRecovery : OrderState := .created
  side : IntentAction := .buy
  priceTicks : Int64 := 0
  quantityUnits : UInt64 := 0
  cumulativeFillQuantityUnits : UInt64 := 0
  remainingQuantityUnits : UInt64 := 0
  pendingReplacePriceTicks : Int64 := 0
  pendingReplaceQuantityUnits : UInt64 := 0
  stateVersion : Nat := 0
  lastVenueSequence : UInt64 := 0
  lastUpdateProcessMonotonicTimeNs : UInt64 := 0
  intentHash : UInt64 := 0
  riskDecisionHash : UInt64 := 0
  fillSourceMask : UInt8 := 0
  occupied : Bool := false
  deriving DecidableEq

structure OmsSnapshot where
  sessionId : SessionId := {}
  accountId : AccountId := {}
  configurationVersion : ConfigurationVersion := {}
  configurationHash : UInt64 := 0
  exchangeSessionEpoch : UInt64 := 0
  activeFencingToken : UInt64 := 0
  snapshotSequence : Nat := 0
  sourceJournalSequence : Nat := 0
  sourceJournalHash : UInt64 := 0
  asOfProcessMonotonicTimeNs : UInt64 := 0
  orders : Fin kMaximumOmsOrders → OmsOrderSnapshot := fun _ => {}
  orderCount : Nat := 0
  liveOrderCount : Nat := 0
  unknownRecoveryCount : Nat := 0
  unreconciledFillCount : Nat := 0
  health : OmsHealth := .starting
  invariant : OmsInvariant := .none
  ready : Bool := false
  stableHash : UInt64 := 0

structure ApplyResult where
  status : ApplyStatus := .invalid
  reason : OmsReason := .none
  orderId : OrderId := {}
  previousState : OrderState := .created
  currentState : OrderState := .created
  stateVersion : Nat := 0
  journalSequence : Nat := 0
  /-- Excluded from the logical result hash. -/
  journalRecordHash : UInt64 := 0
  snapshotSequence : Nat := 0
  snapshotHash : UInt64 := 0
  gatewayCommand : GatewayCommand := {}
  stableHash : UInt64 := 0

def validOrderState (value : OrderState) : Bool :=
  OrderState.created.code ≤ value.code && value.code ≤ OrderState.unknownRecovery.code

@[simp] theorem validOrderState_eq_true (value : OrderState) : validOrderState value := by
  cases value <;> decide

def terminalState (value : OrderState) : Bool :=
  value == .filled || value == .canceled || value == .rejected || value == .expired

def liveState (value : OrderState) : Bool :=
  validOrderState value && !terminalState value && value != .unknownRecovery

def validInputKind (value : InputKind) : Bool :=
  InputKind.acceptIntent.code ≤ value.code && value.code ≤ InputKind.authorityUpdate.code

def stateBit (value : OrderState) : UInt16 :=
  (1 : UInt16) <<< (value.code.toUInt16 - 1)

/-- `kTransitionTable`, one clause for each `allow` call. -/
def kTransitionTable (origin : OrderState) (input : InputKind) : UInt16 :=
  match input, origin with
  | .markReady, .created => stateBit .ready
  | .dispatch, .ready => stateBit .pendingAck
  | .cancelIntent, .pendingAck => stateBit .pendingCancel
  | .cancelIntent, .working => stateBit .pendingCancel
  | .cancelIntent, .partiallyFilled => stateBit .pendingCancel
  | .cancelIntent, .pendingReplace => stateBit .pendingCancel
  | .replaceIntent, .working => stateBit .pendingReplace
  | .replaceIntent, .partiallyFilled => stateBit .pendingReplace
  | .acknowledgement, .pendingAck => stateBit .working
  | .acknowledgement, .partiallyFilled => stateBit .partiallyFilled
  | .acknowledgement, .pendingCancel => stateBit .pendingCancel
  | .acknowledgement, .pendingReplace => stateBit .pendingReplace
  | .rejection, .pendingAck => stateBit .rejected
  | .fill, .pendingAck => stateBit .partiallyFilled ||| stateBit .filled
  | .fill, .working => stateBit .partiallyFilled ||| stateBit .filled
  | .fill, .partiallyFilled => stateBit .partiallyFilled ||| stateBit .filled
  | .fill, .pendingCancel => stateBit .pendingCancel ||| stateBit .filled
  | .fill, .pendingReplace => stateBit .pendingReplace ||| stateBit .filled
  | .fill, .canceled => stateBit .canceled ||| stateBit .filled
  | .fill, .unknownRecovery => stateBit .unknownRecovery
  | .cancelAcknowledgement, .pendingAck => stateBit .canceled
  | .cancelAcknowledgement, .working => stateBit .canceled
  | .cancelAcknowledgement, .partiallyFilled => stateBit .canceled
  | .cancelAcknowledgement, .pendingCancel => stateBit .canceled
  | .cancelAcknowledgement, .pendingReplace => stateBit .canceled
  | .cancelAcknowledgement, .filled => stateBit .filled
  | .cancelRejection, .pendingCancel => stateBit .working ||| stateBit .partiallyFilled
  | .replaceAcknowledgement, .pendingReplace =>
      stateBit .working ||| stateBit .partiallyFilled ||| stateBit .filled
  | .replaceRejection, .pendingReplace => stateBit .working ||| stateBit .partiallyFilled
  | .expire, .created => stateBit .expired
  | .expire, .ready => stateBit .expired
  | .expire, .pendingAck => stateBit .expired
  | .expire, .working => stateBit .expired
  | .expire, .partiallyFilled => stateBit .expired
  | .recoveryBegin, .created => stateBit .unknownRecovery
  | .recoveryBegin, .ready => stateBit .unknownRecovery
  | .recoveryBegin, .pendingAck => stateBit .unknownRecovery
  | .recoveryBegin, .working => stateBit .unknownRecovery
  | .recoveryBegin, .partiallyFilled => stateBit .unknownRecovery
  | .recoveryBegin, .pendingCancel => stateBit .unknownRecovery
  | .recoveryBegin, .pendingReplace => stateBit .unknownRecovery
  | .recoveryBegin, .unknownRecovery => stateBit .unknownRecovery
  | .recoveryObservation, .unknownRecovery =>
      stateBit .working ||| stateBit .partiallyFilled ||| stateBit .filled |||
        stateBit .canceled ||| stateBit .rejected ||| stateBit .expired |||
        stateBit .unknownRecovery
  | _, _ => 0

def transitionAllowed (origin : OrderState) (input : InputKind) (target : OrderState) : Bool :=
  if !validOrderState origin || !validInputKind input || !validOrderState target then false
  else (kTransitionTable origin input &&& stateBit target) != 0

def stableConfigurationHash (value : OmsConfiguration) : UInt64 := Id.run do
  let mut hash := kFnvOffset
  hash := mixIdentifier hash value.sessionId
  hash := mixIdentifier hash value.accountId
  hash := mixIdentifier hash value.configurationVersion
  hash := mix hash value.tradingMode.code.toUInt64
  hash := mix hash value.exchangeSessionEpoch
  hash := mix hash value.initialFencingToken
  hash := mix hash value.maximumOrderAgeNs
  hash := mix hash (if value.requireDropCopy then 1 else 0)
  return nonzeroHash hash

/-- `valid_configuration`, which refuses live trading. -/
def validConfiguration (value : OmsConfiguration) : Bool :=
  value.sessionId.valid && value.accountId.valid && value.configurationVersion.valid &&
    (value.tradingMode == .simulation || value.tradingMode == .paper) &&
    value.exchangeSessionEpoch != 0 && value.initialFencingToken != 0 &&
    value.maximumOrderAgeNs != 0 && value.stableHash != 0 &&
    value.stableHash == stableConfigurationHash value

def exactScope (intent : RiskIntent) (decision : RiskDecision) : Bool :=
  decision.intentId == intent.intentId && decision.sessionId == intent.sessionId &&
    decision.accountId == intent.accountId && decision.strategyId == intent.strategyId &&
    decision.venueId == intent.venueId && decision.instrumentId == intent.instrumentId &&
    decision.configurationVersion == intent.configurationVersion &&
    decision.intentAction == intent.action && decision.intentHash == intent.stableHash &&
    decision.intentSha256 == intent.canonicalSha256

/-- `exact_risk_approval`. -/
def exactRiskApproval (intent : RiskIntent) (decision : RiskDecision) (nowNs : UInt64) : Bool :=
  if !validRiskIntent intent || !validRiskDecision decision ||
      decision.decision != .approved || decision.reason != .withinLimits ||
      !exactScope intent decision ||
      nowNs < decision.evaluatedProcessMonotonicTimeNs ||
      nowNs > decision.validUntilProcessMonotonicTimeNs ||
      nowNs > intent.expireProcessMonotonicTimeNs then
    false
  else if intent.action == .cancel then
    decision.approvedQuantityUnits == 0 && decision.approvedPriceTicks == 0
  else
    decision.approvedQuantityUnits == intent.quantityUnits &&
      decision.approvedPriceTicks == intent.limitPriceTicks

/-- `stable_input_hash`, over the hashes of intent and decision. -/
def stableInputHash (value : OmsInput) : UInt64 := Id.run do
  let mut hash := kFnvOffset
  hash := mixIdentifier hash value.receiptId
  hash := mix hash value.kind.code.toUInt64
  hash := mix hash value.source.code.toUInt64
  hash := mixIdentifier hash value.orderId
  hash := mix hash value.externalOrderId.high
  hash := mix hash value.externalOrderId.low
  hash := mixIdentifier hash value.executionId
  hash := mix hash value.intent.stableHash
  hash := mix hash value.riskDecision.stableHash
  hash := mix hash value.authority.exchangeSessionEpoch
  hash := mix hash value.authority.fencingToken
  hash := mix hash value.recoveryObservation.code.toUInt64
  hash := mix hash value.priceTicks.toUInt64
  hash := mix hash value.quantityUnits
  hash := mix hash value.venueSequence
  hash := mix hash value.exchangeEventTimeNs.toUInt64
  hash := mix hash value.nicReceiveTimeNs.toUInt64
  hash := mix hash value.processMonotonicTimeNs
  return nonzeroHash hash

def validEventSource (value : EventSource) : Bool :=
  EventSource.internal.code ≤ value.code && value.code ≤ EventSource.recovery.code

def validRecoveryObservation (value : RecoveryObservation) : Bool :=
  RecoveryObservation.working.code ≤ value.code &&
    value.code ≤ RecoveryObservation.absentAmbiguous.code

/-- `valid_input_source`: which source may deliver which kind. -/
def validInputSource (value : OmsInput) : Bool :=
  match value.kind with
  | .acceptIntent | .markReady | .dispatch | .cancelIntent | .replaceIntent
  | .recoveryBegin | .authorityUpdate => value.source == .internal
  | .acknowledgement | .rejection | .fill | .cancelAcknowledgement | .cancelRejection
  | .replaceAcknowledgement | .replaceRejection =>
      value.source == .gateway || value.source == .dropCopy
  | .recoveryObservation => value.source == .recovery
  | .expire => value.source == .internal || value.source == .gateway
  | .unlisted _ => false

def validAcceptInput (value : OmsInput) : Bool :=
  value.intent.action != .cancel &&
    exactRiskApproval value.intent value.riskDecision value.processMonotonicTimeNs

def validCancelInput (value : OmsInput) : Bool :=
  value.orderId.valid && value.intent.action == .cancel &&
    value.intent.targetOrderId == value.orderId && value.authority.valid &&
    exactRiskApproval value.intent value.riskDecision value.processMonotonicTimeNs

def validReplaceInput (value : OmsInput) : Bool :=
  value.orderId.valid && value.intent.action != .cancel && value.authority.valid &&
    exactRiskApproval value.intent value.riskDecision value.processMonotonicTimeNs

def validFillInput (value : OmsInput) : Bool :=
  (value.orderId.valid || value.externalOrderId.valid) && value.executionId.valid &&
    value.authority.valid && value.priceTicks > 0 && value.quantityUnits != 0 &&
    value.venueSequence != 0 && value.exchangeEventTimeNs > 0 && value.nicReceiveTimeNs > 0

def validAckInput (value : OmsInput) : Bool :=
  (value.orderId.valid || value.externalOrderId.valid) && value.externalOrderId.valid &&
    value.authority.valid && value.venueSequence != 0

def validRecoveryInput (value : OmsInput) : Bool :=
  value.authority.valid && (value.orderId.valid || value.externalOrderId.valid) &&
    validRecoveryObservation value.recoveryObservation

/-- The part of `valid_input` that every kind shares. -/
def validEnvelope (value : OmsInput) : Bool :=
  value.receiptId.valid && validInputKind value.kind && validEventSource value.source &&
    value.processMonotonicTimeNs != 0 && value.stableHash != 0 &&
    value.stableHash == stableInputHash value && validInputSource value

def validInput (value : OmsInput) : Bool :=
  validEnvelope value &&
    match value.kind with
    | .acceptIntent => validAcceptInput value
    | .cancelIntent => validCancelInput value
    | .replaceIntent => validReplaceInput value
    | .markReady | .dispatch | .recoveryBegin => value.orderId.valid && value.authority.valid
    | .authorityUpdate => value.authority.valid && !value.orderId.valid
    | .fill => validFillInput value
    | .acknowledgement => validAckInput value
    | .recoveryObservation => validRecoveryInput value
    | .expire =>
        value.orderId.valid && value.authority.valid &&
          (value.source == .internal || value.source == .gateway)
    | .rejection | .cancelAcknowledgement | .cancelRejection | .replaceAcknowledgement
    | .replaceRejection =>
        (value.orderId.valid || value.externalOrderId.valid) && value.authority.valid &&
          value.venueSequence != 0
    | .unlisted _ => false

def deterministicOrderId (configuration : OmsConfiguration) (intent : RiskIntent) : OrderId :=
  Id.run do
    let mut first := kFnvOffset
    first := mixIdentifier first configuration.sessionId
    first := mixIdentifier first intent.intentId
    first := mix first configuration.exchangeSessionEpoch
    first := mix first intent.stableHash
    let mut second := kFnvOffset
    second := mixIdentifier second configuration.accountId
    second := mixIdentifier second intent.strategyId
    second := mixIdentifier second intent.instrumentId
    second := mix second first
    return ⟨nonzeroHash first, nonzeroHash second⟩

def deterministicClientOrderId (orderId : OrderId) : ClientOrderId :=
  toHex orderId

def clientOrderIdBytes (value : ClientOrderId) : List UInt8 :=
  value.toList.map Char.toUInt8

/-- `stable_gateway_command_hash`, which mixes the authority twice. -/
def stableGatewayCommandHash (value : GatewayCommand) : UInt64 := Id.run do
  let mut hash := kFnvOffset
  hash := mixIdentifier hash value.commandId
  hash := mix hash value.kind.code.toUInt64
  hash := mixIdentifier hash value.orderId
  hash := mix hash value.externalOrderId.high
  hash := mix hash value.externalOrderId.low
  hash := mixBytes hash (clientOrderIdBytes value.clientOrderId)
  hash := mix hash value.authority.exchangeSessionEpoch
  hash := mix hash value.authority.fencingToken
  hash := mixIdentifier hash value.sessionId
  hash := mixIdentifier hash value.accountId
  hash := mixIdentifier hash value.strategyId
  hash := mixIdentifier hash value.venueId
  hash := mixIdentifier hash value.instrumentId
  hash := mixIdentifier hash value.configurationVersion
  hash := mix hash value.side.code.toUInt64
  hash := mix hash value.priceTicks.toUInt64
  hash := mix hash value.quantityUnits
  hash := mix hash value.cumulativeFillQuantityUnits
  hash := mix hash value.authority.exchangeSessionEpoch
  hash := mix hash value.authority.fencingToken
  hash := mix hash value.intentHash
  hash := mix hash value.riskDecisionHash
  hash := mix hash value.generatedProcessMonotonicTimeNs
  return nonzeroHash hash

/-- `valid_gateway_command`. -/
def validGatewayCommand (value : GatewayCommand) : Bool :=
  GatewayCommandKind.newOrder.code ≤ value.kind.code &&
    value.kind.code ≤ GatewayCommandKind.replace.code && value.commandId.valid &&
    value.orderId.valid && value.sessionId.valid && value.accountId.valid &&
    value.strategyId.valid && value.venueId.valid && value.instrumentId.valid &&
    value.configurationVersion.valid && value.authority.valid && value.priceTicks > 0 &&
    value.quantityUnits != 0 && value.intentHash != 0 && value.riskDecisionHash != 0 &&
    value.generatedProcessMonotonicTimeNs != 0 && value.clientOrderId.back == '\x00' &&
    value.stableHash != 0 && value.stableHash == stableGatewayCommandHash value

/-- `stable_order_snapshot_hash`, without the authority. -/
def stableOrderSnapshotHash (value : OmsOrderSnapshot) : UInt64 := Id.run do
  let mut hash := kFnvOffset
  hash := mixIdentifier hash value.orderId
  hash := mixIdentifier hash value.intentId
  hash := mixIdentifier hash value.sessionId
  hash := mixIdentifier hash value.accountId
  hash := mixIdentifier hash value.strategyId
  hash := mixIdentifier hash value.venueId
  hash := mixIdentifier hash value.instrumentId
  hash := mixIdentifier hash value.configurationVersion
  hash := mix hash value.externalOrderId.high
  hash := mix hash value.externalOrderId.low
  hash := mixBytes hash (clientOrderIdBytes value.clientOrderId)
  hash := mix hash value.state.code.toUInt64
  hash := mix hash value.stateBeforeRecovery.code.toUInt64
  hash := mix hash value.side.code.toUInt64
  hash := mix hash value.priceTicks.toUInt64
  hash := mix hash value.quantityUnits
  hash := mix hash value.cumulativeFillQuantityUnits
  hash := mix hash value.remainingQuantityUnits
  hash := mix hash value.pendingReplacePriceTicks.toUInt64
  hash := mix hash value.pendingReplaceQuantityUnits
  hash := mix hash (UInt64.ofNat value.stateVersion)
  hash := mix hash value.lastVenueSequence
  hash := mix hash value.lastUpdateProcessMonotonicTimeNs
  hash := mix hash value.intentHash
  hash := mix hash value.riskDecisionHash
  hash := mix hash value.fillSourceMask.toUInt64
  hash := mix hash (if value.occupied then 1 else 0)
  return nonzeroHash hash

/-- The fields of an order that no later event may invalidate. -/
def validOrderIdentity (value : OmsOrderSnapshot) : Bool :=
  value.intentId.valid && value.accountId.valid && value.strategyId.valid &&
    value.venueId.valid && value.instrumentId.valid && value.configurationVersion.valid &&
    value.priceTicks > 0 && value.quantityUnits != 0 && value.intentHash != 0 &&
    value.riskDecisionHash != 0 &&
    value.cumulativeFillQuantityUnits ≤ value.quantityUnits

def validOrderSnapshot (value : OmsOrderSnapshot) : Bool :=
  if !value.occupied || !value.orderId.valid || !value.sessionId.valid ||
      !value.authority.valid || !validOrderState value.state || value.stateVersion == 0 ||
      value.lastUpdateProcessMonotonicTimeNs == 0 || value.clientOrderId.back != '\x00' then
    false
  else if value.state == .unknownRecovery && !value.intentId.valid then
    value.configurationVersion.valid
  else if !validOrderIdentity value then
    false
  else if value.state == .filled then
    value.cumulativeFillQuantityUnits == value.quantityUnits && value.remainingQuantityUnits == 0
  else if terminalState value.state then
    value.remainingQuantityUnits == 0
  else
    value.remainingQuantityUnits == value.quantityUnits - value.cumulativeFillQuantityUnits

/-- The slots of the order table, in index order. -/
@[irreducible]
def orderSlots : List (Fin kMaximumOmsOrders) :=
  List.finRange kMaximumOmsOrders

@[simp] theorem mem_orderSlots (index : Fin kMaximumOmsOrders) : index ∈ orderSlots := by
  unfold orderSlots
  exact List.mem_finRange index

theorem length_orderSlots : orderSlots.length = kMaximumOmsOrders := by
  unfold orderSlots
  exact List.length_finRange

def stableSnapshotHash (value : OmsSnapshot) : UInt64 := Id.run do
  let mut hash := kFnvOffset
  hash := mixIdentifier hash value.sessionId
  hash := mixIdentifier hash value.accountId
  hash := mixIdentifier hash value.configurationVersion
  hash := mix hash value.configurationHash
  hash := mix hash value.exchangeSessionEpoch
  hash := mix hash value.activeFencingToken
  hash := mix hash (UInt64.ofNat value.snapshotSequence)
  hash := mix hash (UInt64.ofNat value.sourceJournalSequence)
  hash := mix hash value.sourceJournalHash
  hash := mix hash value.asOfProcessMonotonicTimeNs
  hash := mix hash (UInt64.ofNat value.orderCount)
  hash := mix hash (UInt64.ofNat value.liveOrderCount)
  hash := mix hash (UInt64.ofNat value.unknownRecoveryCount)
  hash := mix hash (UInt64.ofNat value.unreconciledFillCount)
  hash := mix hash value.health.code.toUInt64
  hash := mix hash value.invariant.code.toUInt64
  hash := mix hash (if value.ready then 1 else 0)
  hash := orderSlots.foldl (fun hash index =>
    if (value.orders index).occupied then mix hash (stableOrderSnapshotHash (value.orders index))
    else hash) hash
  return nonzeroHash hash

def validSnapshot (value : OmsSnapshot) : Bool :=
  if !value.sessionId.valid || !value.accountId.valid || !value.configurationVersion.valid ||
      value.configurationHash == 0 || value.exchangeSessionEpoch == 0 ||
      value.activeFencingToken == 0 || value.snapshotSequence == 0 ||
      value.asOfProcessMonotonicTimeNs == 0 || value.orderCount > kMaximumOmsOrders ||
      value.liveOrderCount > value.orderCount || value.unknownRecoveryCount > value.orderCount ||
      value.health.code < OmsHealth.starting.code || value.health.code > OmsHealth.stopped.code ||
      value.invariant.code > OmsInvariant.replayDiverged.code || value.stableHash == 0 ||
      value.stableHash != stableSnapshotHash value then
    false
  else
    let occupied := orderSlots.filter fun index => (value.orders index).occupied
    let live := occupied.countP fun index => liveState (value.orders index).state
    let unknown := occupied.countP fun index => (value.orders index).state == .unknownRecovery
    occupied.all (fun index => validOrderSnapshot (value.orders index)) &&
      occupied.length == value.orderCount && live == value.liveOrderCount &&
      unknown == value.unknownRecoveryCount &&
      (!value.ready || (value.health == .healthy && unknown == 0 && value.invariant == .none))

def stableApplyResultHash (value : ApplyResult) : UInt64 := Id.run do
  let mut hash := kFnvOffset
  hash := mix hash value.status.code.toUInt64
  hash := mix hash value.reason.code.toUInt64
  hash := mixIdentifier hash value.orderId
  hash := mix hash value.previousState.code.toUInt64
  hash := mix hash value.currentState.code.toUInt64
  hash := mix hash (UInt64.ofNat value.stateVersion)
  hash := mix hash (UInt64.ofNat value.journalSequence)
  hash := mix hash (UInt64.ofNat value.snapshotSequence)
  hash := mix hash value.snapshotHash
  hash := mix hash value.gatewayCommand.stableHash
  return nonzeroHash hash

end Aegis.Oms

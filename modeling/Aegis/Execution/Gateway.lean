import Aegis.Execution.Journal
import Aegis.Execution.Session
import Aegis.Foundation.MachineWords
import Aegis.Oms.State

/-!
The simulated gateway (`execution/src/simulated_gateway.cpp`): the final gate for commands, a
paper order book that trades against synthetic market data, and the queue of responses, a list in
order of insertion. Metrics and the gate against a second writer are left out.
-/

namespace Aegis.Execution

open Aegis.Common Aegis.Foundation Aegis.MarketData
open Aegis.Oms (rotl identifierBucket GatewayCommand GatewayCommandKind ExternalOrderId
  LeaderAuthority)
open Aegis.Risk (TradingMode IntentAction)

def terminal (state : PaperOrderState) : Bool :=
  state == .filled || state == .canceled || state == .rejected

def checkedAdd (left right : UInt64) : Option UInt64 :=
  exactAdd left right

def checkedMultiply (left right : UInt64) : Option UInt64 :=
  exactMul left right

def saturatingMix (left right : UInt64) : UInt64 :=
  let value := (left ^^^ rotl right 29) * 0x9E3779B97F4A7C15
  nonzeroHash (value ^^^ (value >>> 31))

/-- `event_id`. -/
def gatewayEventId (commandId : GlobalEventId) (ordinal : UInt64) (kind : GatewayResponseKind) :
    GlobalEventId :=
  ⟨saturatingMix commandId.high (ordinal ^^^ kind.code.toUInt64),
    saturatingMix commandId.low (rotl ordinal 11 ^^^ kind.code.toUInt64)⟩

/-- `execution_id`. -/
def gatewayExecutionId (orderId : OrderId) (marketHash ordinal : UInt64) : GlobalEventId :=
  ⟨saturatingMix orderId.high marketHash, saturatingMix orderId.low ordinal⟩

structure CommandSlot where
  commandId : GlobalEventId := {}
  requestHash : UInt64 := 0
  result : GatewaySubmitResult := {}
  occupied : Bool := false

abbrev CommandTable := Fin kMaximumGatewayCommands → CommandSlot

structure ScheduledEvent where
  event : GatewayEvent := {}
  dueNs : UInt64 := 0
  insertionOrdinal : UInt64 := 0
  deriving DecidableEq

structure MarketSlot where
  mapping : SyntheticInstrumentMapping := {}
  status : Book.TradingStatus := .preOpen
  bestBidTicks : Int64 := 0
  bestAskTicks : Int64 := 0
  bestBidQuantityUnits : UInt64 := 0
  bestAskQuantityUnits : UInt64 := 0
  lastMarketEventHash : UInt64 := 0

def commandLayout : Layout kMaximumGatewayCommands CommandSlot GlobalEventId where
  occupied := (·.occupied)
  key := (·.commandId)
  bucket := identifierBucket kMaximumGatewayCommands 17

def orderLayout : Layout kMaximumGatewayOrders PaperOrderSnapshot OrderId where
  occupied := (·.occupied)
  key := (·.orderId)
  bucket := identifierBucket kMaximumGatewayOrders 23

/-- `SimulatedGatewayBase`. -/
structure SimulatedGateway where
  configuration : GatewayConfiguration
  journal : GatewayAuditJournal := {}
  session : SessionLifecycle
  newOrderLimiter : FixedWindowRateLimiter
  cancelLimiter : FixedWindowRateLimiter
  replaceLimiter : FixedWindowRateLimiter
  commands : CommandTable := fun _ => {}
  orders : OrderTable := fun _ => {}
  events : List ScheduledEvent := []
  markets : List MarketSlot := []
  nextEventOrdinal : UInt64 := 1
  nextExecutionOrdinal : UInt64 := 1
  newOrderOrdinal : UInt64 := 0
  health : GatewayHealth := .starting
  mode : GatewayMode := .halted
  initialized : Bool := false
  stopped : Bool := false

namespace SimulatedGateway

/-- The constructor; the two gateways require different modes. -/
def construct (configuration : GatewayConfiguration) (requiredMode : GatewayMode) :
    SimulatedGateway :=
  let s : SimulatedGateway :=
    { configuration
      session := .construct configuration.exchangeSessionEpoch configuration.initialFencingToken
        configuration.heartbeatIntervalNs configuration.heartbeatTimeoutNs
      newOrderLimiter :=
        { windowNs := configuration.commandRateWindowNs
          maximumEvents := configuration.maximumNewOrdersPerWindow }
      cancelLimiter :=
        { windowNs := configuration.commandRateWindowNs
          maximumEvents := configuration.maximumCancelsPerWindow }
      replaceLimiter :=
        { windowNs := configuration.commandRateWindowNs
          maximumEvents := configuration.maximumReplacesPerWindow }
      mode := requiredMode }
  if !validGatewayConfiguration configuration || configuration.startupMode ≠ requiredMode ||
      !s.session.initialized || !s.newOrderLimiter.valid || !s.cancelLimiter.valid ||
      !s.replaceLimiter.valid then
    { s with health := .unsafeHealth, mode := .halted }
  else
    { s with
      markets := configuration.mappings.map fun mapping => { mapping }
      initialized := true }

variable (s : SimulatedGateway)

def setUnsafe (reason : SessionReason) (now : UInt64) : SimulatedGateway :=
  { s with health := .unsafeHealth, session := s.session.halt now reason }

def updateHealth : SimulatedGateway :=
  { s with
    health :=
      if s.stopped then .stopped
      else if s.health = .unsafeHealth then .unsafeHealth
      else
        match s.session.state with
        | .recovering | .halted => .recovering
        | .active => .healthy
        | _ => .starting }

def ready : Bool :=
  s.initialized && !s.stopped && s.mode != .halted && s.health == .healthy && s.session.ready

/-- The head of an audited call, unsafe without a reservation. -/
def reserving {Result : Type} (now : UInt64) (full : Result)
    (body : Nat → SimulatedGateway → SimulatedGateway × Result) : SimulatedGateway × Result :=
  match s.journal.tryReserve with
  | none => (s.setUnsafe .journalUnavailable now, full)
  | some (reservation, journal) => body reservation { s with journal }

/-- `append_audit`, with the mode and the state of the gateway. -/
def appendAudit (reservation : Nat) (record : GatewayAuditRecord) : Option SimulatedGateway :=
  (s.journal.commit reservation
    { record with mode := s.mode, sessionState := s.session.state }).map fun journal =>
      { s with journal }

/-- `append_audit`, and the gateway unsafe where it fails. -/
def audit (reservation : Nat) (record : GatewayAuditRecord) (now : UInt64) :
    SimulatedGateway × Bool :=
  match s.appendAudit reservation { record with processMonotonicTimeNs := now } with
  | some s' => (s', true)
  | none => (s.setUnsafe .journalUnavailable now, false)

/-- `append_audit` with its answer ignored. -/
def noteAudit (reservation : Nat) (record : GatewayAuditRecord) (now : UInt64) :
    SimulatedGateway :=
  (s.appendAudit reservation { record with processMonotonicTimeNs := now }).getD s

end SimulatedGateway

/-- `request_logon` followed by `accept_logon`. -/
def SessionLifecycle.logon (s : SessionLifecycle) (now : UInt64) : SessionLifecycle × Bool :=
  match s.requestLogon now with
  | none => (s, false)
  | some requested =>
      match requested.acceptLogon now with
      | none => (requested, false)
      | some accepted => (accepted, true)

/-- `request_logoff` followed by `complete_logoff`. -/
def SessionLifecycle.logoff (s : SessionLifecycle) (now : UInt64) : SessionLifecycle × Bool :=
  match s.requestLogoff now with
  | none => (s, false)
  | some requested =>
      match requested.completeLogoff now with
      | none => (requested, false)
      | some completed => (completed, true)

namespace SimulatedGateway

variable (s : SimulatedGateway)

def transitionRecord (transitioned : Bool) : GatewayAuditRecord :=
  { kind := .sessionTransition
    reason := if transitioned then .accepted else .sessionNotActive }

def start (now : UInt64) : SimulatedGateway × Bool :=
  if !s.initialized || s.stopped then (s, false)
  else
    s.reserving now false fun reservation s =>
      let logon := s.session.logon now
      let audited :=
        { s with session := logon.1 }.audit reservation (transitionRecord logon.2) now
      if !audited.2 then (audited.1.updateHealth, false)
      else if !logon.2 then ((audited.1.setUnsafe .journalUnavailable now).updateHealth, false)
      else (audited.1.updateHealth, true)

def logoff (now : UInt64) : SimulatedGateway × Bool :=
  if !s.initialized then (s, false)
  else
    s.reserving now false fun reservation s =>
      let logoff := s.session.logoff now
      let audited :=
        { s with session := logoff.1 }.audit reservation (transitionRecord logoff.2) now
      (audited.1.updateHealth, logoff.2 && audited.2)

def findCommand (commandId : GlobalEventId) : Option (Fin kMaximumGatewayCommands) :=
  if !commandId.valid then none else commandLayout.find s.commands commandId

def findFreeCommand (commandId : GlobalEventId) : Option (Fin kMaximumGatewayCommands) :=
  commandLayout.findFree s.commands commandId

def findOrder (orderId : OrderId) : Option (Fin kMaximumGatewayOrders) :=
  if !orderId.valid then none else orderLayout.find s.orders orderId

def findFreeOrder (orderId : OrderId) : Option (Fin kMaximumGatewayOrders) :=
  orderLayout.findFree s.orders orderId

def findMarket (instrumentId : InstrumentId) : Option Nat :=
  s.markets.findIdx? fun market => market.mapping.instrumentId == instrumentId

/-- `find_market` for a market event. -/
def findEventMarket (event : SyntheticEvent) : Option Nat :=
  s.markets.findIdx? fun market =>
    market.mapping.syntheticVenueNumber == event.venueNumber &&
      market.mapping.syntheticInstrumentNumber == event.instrumentNumber

def market (index : Nat) : MarketSlot :=
  s.markets[index]?.getD {}

/-- `find_free_event`: whether there is one. -/
def eventRoom : Bool :=
  s.events.length < kMaximumGatewayEvents

def dueBefore (event other : ScheduledEvent) : Bool :=
  event.dueNs < other.dueNs ||
    (event.dueNs == other.dueNs && event.insertionOrdinal < other.insertionOrdinal)

/-- The loop of `find_due_event`. -/
def earliestDue (now : UInt64) (events : List ScheduledEvent) : Option ScheduledEvent :=
  events.foldl (fun result event =>
      if event.dueNs > now then result
      else
        match result with
        | none => some event
        | some earliest => if dueBefore event earliest then some event else result)
    none

def findDueEvent (now : UInt64) : Option ScheduledEvent :=
  earliestDue now s.events

/-- The event that `schedule_event` files. -/
def dated (event : GatewayEvent) (dueNs : UInt64) : GatewayEvent :=
  { event with
    processMonotonicTimeNs := dueNs
    stableHash := stableGatewayEventHash { event with processMonotonicTimeNs := dueNs } }

def scheduleEvent (event : GatewayEvent) (dueNs : UInt64) : Option SimulatedGateway :=
  if !s.eventRoom || dueNs = 0 then none
  else
    some { s with
      events := s.events ++
        [{ event := dated event dueNs, dueNs, insertionOrdinal := s.nextEventOrdinal }]
      nextEventOrdinal := s.nextEventOrdinal + 1 }

def modeMatchesRisk (riskMode : TradingMode) : Bool :=
  (s.mode == .simulation && riskMode == .simulation) || (s.mode == .paper && riskMode == .paper)

def validateRiskBinding (request : GatewayRequest) : GatewayReason :=
  let command := request.command
  let decision := request.riskDecision
  if decision.decision ≠ .approved then .riskDecisionRejected
  else if decision.validUntilProcessMonotonicTimeNs < request.now ||
      decision.evaluatedProcessMonotonicTimeNs > request.now ||
      command.generatedProcessMonotonicTimeNs > request.now then .riskDecisionExpired
  else if decision.stableHash ≠ command.riskDecisionHash ||
      decision.intentHash ≠ command.intentHash then .riskHashMismatch
  else if decision.sessionId ≠ command.sessionId || decision.accountId ≠ command.accountId ||
      decision.strategyId ≠ command.strategyId || decision.venueId ≠ command.venueId ||
      decision.instrumentId ≠ command.instrumentId ||
      decision.configurationVersion ≠ command.configurationVersion then .scopeMismatch
  else if !s.modeMatchesRisk decision.tradingMode then .modeMismatch
  else if command.kind = .cancel then
    if decision.intentAction = .cancel then .accepted else .scopeMismatch
  else if decision.intentAction = command.side && decision.approvedPriceTicks = command.priceTicks &&
      decision.approvedQuantityUnits = command.quantityUnits then .accepted
  else .scopeMismatch

def marketStateAllowsNew (state : MarketState.State) (status : MarketState.OfficialTradingStatus) :
    Bool :=
  if status = .opened then
    state == .normal || state == .scheduledEvent || state == .breakingNews ||
      state == .eventPriceDiscovery || state == .volatilitySpike
  else
    s.configuration.paperModel.allowAuctionOrders && status == .auction && state == .reopening

def validateNewExposureState (request : GatewayRequest) : GatewayReason :=
  let safety := request.safety
  let clock := safety.clockQualitySnapshot
  let marketObserved := safety.marketStateSnapshot.observedProcessMonotonicTimeNs
  if marketObserved > request.now ||
      request.now - marketObserved > s.configuration.maximumClockAgeNs ||
      !s.marketStateAllowsNew safety.marketStateSnapshot.state safety.officialTradingStatus then
    if safety.officialTradingStatus = .halted || safety.officialTradingStatus = .closed then
      .tradingHalted
    else .marketStateUnsafe
  else if clock.state ≠ .healthy || clock.operationMode ≠ .normal ||
      !clock.hardwareTimestampAvailable || !clock.sourceId.valid ||
      clock.observedAt > request.now ||
      request.now - clock.observedAt > s.configuration.maximumClockAgeNs then .clockUnhealthy
  else if safety.feedHealth ≠ .healthy then .feedUnhealthy
  else if safety.bookValidity ≠ .valid then .bookInvalid
  else if safety.killSwitchEngaged then .killSwitchEngaged
  else .accepted

/-- `final_gate`. A protective cancel ignores the market state. -/
def finalGate (request : GatewayRequest) (expected : GatewayCommandKind) : GatewayReason :=
  let command := request.command
  if !validGatewayRequest request then .invalidRequest
  else if command.kind ≠ expected then .commandKindMismatch
  else if !s.session.ready || s.health ≠ .healthy then .sessionNotActive
  else if command.sessionId ≠ s.configuration.sessionId ||
      command.accountId ≠ s.configuration.accountId ||
      command.venueId ≠ s.configuration.venueId ||
      command.configurationVersion ≠ s.configuration.configurationVersion ||
      (s.findMarket command.instrumentId).isNone then .scopeMismatch
  else if command.authority.exchangeSessionEpoch ≠ s.configuration.exchangeSessionEpoch ||
      command.authority.fencingToken ≠ s.configuration.initialFencingToken ||
      request.safety.authority.exchangeSessionEpoch ≠ command.authority.exchangeSessionEpoch ||
      request.safety.authority.fencingToken ≠ command.authority.fencingToken then
    .staleFencingToken
  else if request.safety.effectiveConfigurationHash ≠ s.configuration.stableHash then
    .scopeMismatch
  else if !request.safety.journalReady then .journalCapacity
  else if s.validateRiskBinding request ≠ .accepted then s.validateRiskBinding request
  else if expected ≠ .cancel then s.validateNewExposureState request
  else .accepted

def baseEvent (command : GatewayCommand) (kind : GatewayResponseKind) (reason : GatewayReason) :
    GatewayEvent :=
  { eventId := gatewayEventId command.commandId s.nextEventOrdinal kind
    sourceCommandId := command.commandId
    orderId := command.orderId
    externalOrderId := command.externalOrderId
    sessionId := s.configuration.sessionId
    accountId := s.configuration.accountId
    venueId := s.configuration.venueId
    instrumentId := command.instrumentId
    configurationVersion := s.configuration.configurationVersion
    authority := command.authority
    mode := s.mode
    kind
    reason
    priceTicks := command.priceTicks
    quantityUnits := command.quantityUnits }

/-- The quantity displayed at the price of a command. -/
def displayed (command : GatewayCommand) : UInt64 :=
  match s.findMarket command.instrumentId with
  | none => 0
  | some index =>
      if command.side = .buy && (s.market index).bestBidTicks = command.priceTicks then
        (s.market index).bestBidQuantityUnits
      else if command.side = .sell && (s.market index).bestAskTicks = command.priceTicks then
        (s.market index).bestAskQuantityUnits
      else 0

abbrev Processed := SimulatedGateway × GatewayReason × UInt64

def externalId (command : GatewayCommand) (outboundSequence : UInt64) : ExternalOrderId :=
  { high := nonzeroHash (command.orderId.high ^^^ s.configuration.paperModel.deterministicSeed)
    low := nonzeroHash (command.orderId.low ^^^ outboundSequence) }

/-- Whether the policy rejects the new order with an ordinal. -/
def rejects (ordinal : UInt64) : Bool :=
  let every := s.configuration.paperModel.rejectEveryNthNewOrder.toUInt64
  every != 0 && ordinal % every == 0

def newOrder (command : GatewayCommand) (external : ExternalOrderId) (rejected : Bool)
    (queueAhead dueNs : UInt64) : PaperOrderSnapshot :=
  { sourceCommandId := command.commandId
    orderId := command.orderId
    externalOrderId := external
    instrumentId := command.instrumentId
    side := command.side
    state := if rejected then .rejected else .pendingAck
    priceTicks := command.priceTicks
    quantityUnits := command.quantityUnits
    queueAheadUnits := queueAhead
    acknowledgementDueNs := dueNs
    occupied := true }

def newResponse (command : GatewayCommand) (external : ExternalOrderId) (rejected : Bool) :
    GatewayEvent :=
  { s.baseEvent command (if rejected then .rejection else .acknowledgement)
      (if rejected then .paperPolicyReject else .accepted) with
    externalOrderId := if rejected then {} else external
    remainingQuantityUnits := command.quantityUnits }

/-- The end of `process_new`, which withdraws an order without response. -/
def fileOrder (index : Fin kMaximumGatewayOrders) (order : PaperOrderSnapshot)
    (response : GatewayEvent) (dueNs : UInt64) : Processed :=
  match { s with orders := Function.update s.orders index order }.scheduleEvent response dueNs with
  | none => ({ s with orders := Function.update s.orders index {} }, .eventCapacity, 0)
  | some scheduled => (scheduled, .accepted, (dated response dueNs).stableHash)

/-- The second half of `process_new`. -/
def placeOrder (command : GatewayCommand) (outboundSequence : UInt64)
    (index : Fin kMaximumGatewayOrders) (dueNs : UInt64) : Processed :=
  match checkedAdd s.configuration.paperModel.initialQueueAheadUnits (s.displayed command) with
  | none => (s, .arithmeticOverflow, 0)
  | some queueAhead =>
      s.fileOrder index
        (newOrder command (s.externalId command outboundSequence) (s.rejects s.newOrderOrdinal)
          queueAhead dueNs)
        (s.newResponse command (s.externalId command outboundSequence)
          (s.rejects s.newOrderOrdinal)) dueNs

def processNew (request : GatewayRequest) (outboundSequence : UInt64) : Processed :=
  if (s.findOrder request.command.orderId).isSome then (s, .commandIdentityConflict, 0)
  else
    match s.findFreeOrder request.command.orderId with
    | none => (s, .orderCapacity, 0)
    | some index =>
        if !s.eventRoom then (s, .eventCapacity, 0)
        else
          match checkedAdd request.now s.configuration.paperModel.acknowledgementLatencyNs with
          | none => (s, .arithmeticOverflow, 0)
          | some dueNs =>
              { s with newOrderOrdinal := s.newOrderOrdinal + 1 }.placeOrder request.command
                outboundSequence index dueNs

/-- The end of the others: the order is changed when scheduling fails. -/
def respond (response : GatewayEvent) (dueNs : UInt64) : Processed :=
  match s.scheduleEvent response dueNs with
  | none => (s, .eventCapacity, 0)
  | some scheduled => (scheduled, .accepted, (dated response dueNs).stableHash)

def controlResponse (command : GatewayCommand) (kind : GatewayResponseKind)
    (order : PaperOrderSnapshot) (quantity : UInt64) : GatewayEvent :=
  { s.baseEvent command kind .accepted with
    externalOrderId := order.externalOrderId
    cumulativeFillQuantityUnits := order.cumulativeFillQuantityUnits
    remainingQuantityUnits := quantity - order.cumulativeFillQuantityUnits }

def pendCancel (order : PaperOrderSnapshot) (dueNs : UInt64) : PaperOrderSnapshot :=
  { order with state := .pendingCancel, cancelDueNs := dueNs }

def processCancel (request : GatewayRequest) : Processed :=
  if !s.eventRoom then (s, .eventCapacity, 0)
  else
    match checkedAdd request.now s.configuration.paperModel.cancelLatencyNs with
    | none => (s, .arithmeticOverflow, 0)
    | some dueNs =>
        match (s.findOrder request.command.orderId).filter fun index =>
            !terminal (s.orders index).state with
        | none => s.respond (s.baseEvent request.command .cancelRejection .orderNotFound) dueNs
        | some index =>
            { s with
              orders := Function.update s.orders index (pendCancel (s.orders index) dueNs) }.respond
              (s.controlResponse request.command .cancelAcknowledgement (s.orders index)
                (s.orders index).quantityUnits) dueNs

def pendReplace (order : PaperOrderSnapshot) (priceTicks : Int64) (quantityUnits dueNs : UInt64) :
    PaperOrderSnapshot :=
  { order with
    state := .pendingReplace
    pendingReplacePriceTicks := priceTicks
    pendingReplaceQuantityUnits := quantityUnits
    replaceDueNs := dueNs }

def processReplace (request : GatewayRequest) : Processed :=
  if !s.eventRoom then (s, .eventCapacity, 0)
  else
    match checkedAdd request.now s.configuration.paperModel.replaceLatencyNs with
    | none => (s, .arithmeticOverflow, 0)
    | some dueNs =>
        match (s.findOrder request.command.orderId).filter fun index =>
            !terminal (s.orders index).state &&
              (s.orders index).cumulativeFillQuantityUnits < request.command.quantityUnits with
        | none => s.respond (s.baseEvent request.command .replaceRejection .orderNotFound) dueNs
        | some index =>
            { s with
              orders := Function.update s.orders index
                (pendReplace (s.orders index) request.command.priceTicks
                  request.command.quantityUnits dueNs) }.respond
              (s.controlResponse request.command .replaceAcknowledgement (s.orders index)
                request.command.quantityUnits) dueNs

def processCommand (request : GatewayRequest) (outboundSequence : UInt64) : Processed :=
  match request.command.kind with
  | .newOrder => s.processNew request outboundSequence
  | .cancel => s.processCancel request
  | .replace => s.processReplace request
  | .none => (s, .invalidCommand, 0)

def rateAllowed (expected : GatewayCommandKind) (now : UInt64) : SimulatedGateway × Bool :=
  match expected with
  | .newOrder =>
      ({ s with newOrderLimiter := (s.newOrderLimiter.allow now).1 },
        (s.newOrderLimiter.allow now).2)
  | .cancel =>
      ({ s with cancelLimiter := (s.cancelLimiter.allow now).1 }, (s.cancelLimiter.allow now).2)
  | .replace =>
      ({ s with replaceLimiter := (s.replaceLimiter.allow now).1 }, (s.replaceLimiter.allow now).2)
  | .none => (s, false)

/-- The gateway, the reason, the outbound sequence (zero for none) and the response hash. -/
abbrev Decided := SimulatedGateway × GatewayReason × UInt64 × UInt64

def dispatch (request : GatewayRequest) : Decided :=
  match s.session.claimOutbound request.now with
  | (session, none) => ({ s with session }, .sequenceGap, 0, 0)
  | (session, some outbound) =>
      let processed := { s with session }.processCommand request outbound
      (processed.1, processed.2.1, outbound, processed.2.2)

def gate (request : GatewayRequest) (expected : GatewayCommandKind) : GatewayReason :=
  if (s.findFreeCommand request.command.commandId).isNone then .orderCapacity
  else s.finalGate request expected

/-- The checks and the processing of a new command. -/
def decide (request : GatewayRequest) (expected : GatewayCommandKind) : Decided :=
  if s.gate request expected ≠ .accepted then (s, s.gate request expected, 0, 0)
  else if !(s.rateAllowed expected request.now).2 then
    ((s.rateAllowed expected request.now).1, .rateLimited, 0, 0)
  else (s.rateAllowed expected request.now).1.dispatch request

def submitStatus (reason : GatewayReason) : GatewaySubmitStatus :=
  if reason = .accepted then .accepted
  else if reason = .orderCapacity || reason = .eventCapacity then .capacityExhausted
  else .rejected

def answer (request : GatewayRequest) (expected : GatewayCommandKind) :
    SimulatedGateway × GatewaySubmitResult × UInt64 :=
  match s.findCommand request.command.commandId with
  | some existing =>
      if (s.commands existing).requestHash = request.stableHash then
        (s, { status := .duplicate, reason := .duplicateCommand }, 0)
      else
        (s.setUnsafe .splitBrain request.now,
          { status := .rejected, reason := .commandIdentityConflict }, 0)
  | none =>
      let decided := s.decide request expected
      let result : GatewaySubmitResult :=
        { status := submitStatus decided.2.1
          reason := decided.2.1
          outboundSequence := decided.2.2.1 }
      match s.findFreeCommand request.command.commandId with
      | none => (decided.1, result, decided.2.2.2)
      | some index =>
          ({ decided.1 with
              commands := Function.update s.commands index
                { commandId := request.command.commandId
                  requestHash := request.stableHash
                  result
                  occupied := true } },
            result, decided.2.2.2)

def sealResult (result : GatewaySubmitResult) : GatewaySubmitResult :=
  { result with stableHash := stableGatewaySubmitResultHash result }

def commandRecord (request : GatewayRequest) (reason : GatewayReason) (scheduledHash : UInt64) :
    GatewayAuditRecord :=
  { kind := .commandDecision
    reason
    correlationId := request.command.commandId
    orderId := request.command.orderId
    commandHash := request.command.stableHash
    riskDecisionHash := request.riskDecision.stableHash
    safetyStateHash := request.safety.stableHash
    gatewayEventHash := scheduledHash }

def submit (request : GatewayRequest) (expected : GatewayCommandKind) :
    SimulatedGateway × GatewaySubmitResult :=
  if s.stopped then (s, sealResult { status := .stopped, reason := .shutdown })
  else if !s.initialized then
    (s, sealResult { status := .rejected, reason := .invalidConfiguration })
  else
    s.reserving request.now
      (sealResult { status := .capacityExhausted, reason := .journalCapacity })
      fun reservation s =>
        let answered := s.answer request expected
        let result := { answered.2.1 with journalSequence := reservation }
        let audited := answered.1.audit reservation
          (commandRecord request result.reason answered.2.2) request.now
        let journaled :=
          if audited.2 then
            { result with journalRecordHash := audited.1.journal.lastRecordHash }
          else { result with status := .capacityExhausted, reason := .journalCapacity }
        (audited.1.updateHealth, sealResult journaled)

def sendOrder (request : GatewayRequest) : SimulatedGateway × GatewaySubmitResult :=
  s.submit request .newOrder

def cancelOrder (request : GatewayRequest) : SimulatedGateway × GatewaySubmitResult :=
  s.submit request .cancel

def replaceOrder (request : GatewayRequest) : SimulatedGateway × GatewaySubmitResult :=
  s.submit request .replace

/-- The body of the loop of `settle_due_controls`. -/
def settleOrder (model : PaperModelConfiguration) (now : UInt64) (order : PaperOrderSnapshot) :
    PaperOrderSnapshot :=
  if !order.occupied || terminal order.state then order
  else if order.state = .pendingAck && now ≥ order.acknowledgementDueNs then
    { order with state := .working }
  else if order.state = .pendingCancel && now ≥ order.cancelDueNs then
    { order with state := .canceled }
  else if order.state = .pendingReplace && now ≥ order.replaceDueNs then
    { order with
      priceTicks := order.pendingReplacePriceTicks
      quantityUnits := order.pendingReplaceQuantityUnits
      pendingReplacePriceTicks := 0
      pendingReplaceQuantityUnits := 0
      queueAheadUnits := model.initialQueueAheadUnits
      state := .working }
  else order

def settleDueControls (now : UInt64) : SimulatedGateway :=
  { s with
    orders := fun index => settleOrder s.configuration.paperModel now (s.orders index) }

/-- `update_market`, on the slot of the market. -/
def observeMarket (event : SyntheticEvent) (market : MarketSlot) : MarketSlot :=
  let market := { market with lastMarketEventHash := event.eventHash }
  let level := if event.levelQuantityUnits ≠ 0 then event.levelQuantityUnits
    else event.quantityUnits
  if event.type = .tradingStatus then { market with status := event.status }
  else if event.side = .bid && event.priceTicks > 0 then
    { market with bestBidTicks := event.priceTicks, bestBidQuantityUnits := level }
  else if event.side = .ask && event.priceTicks > 0 then
    { market with bestAskTicks := event.priceTicks, bestAskQuantityUnits := level }
  else market

def updateMarket (event : SyntheticEvent) (index : Nat) : SimulatedGateway :=
  { s with markets := s.markets.modify index (observeMarket event) }

def tradable (event : SyntheticEvent) (market : MarketSlot) (order : PaperOrderSnapshot) : Bool :=
  order.occupied &&
    (order.state == .working || order.state == .pendingCancel || order.state == .pendingReplace) &&
    order.instrumentId == market.mapping.instrumentId &&
    if order.side = .buy then event.priceTicks ≤ order.priceTicks
    else event.priceTicks ≥ order.priceTicks

def executes (event : SyntheticEvent) (market : MarketSlot) : Bool :=
  (event.type == .trade && market.status == .opened) ||
    (event.type == .auctionImbalance && market.status == .auction &&
      s.configuration.paperModel.allowAuctionOrders)

def fillQuantity (model : PaperModelConfiguration) (event : SyntheticEvent)
    (order : PaperOrderSnapshot) : UInt64 :=
  min (min (event.quantityUnits - order.queueAheadUnits)
    (order.quantityUnits - order.cumulativeFillQuantityUnits))
    model.maximumFillChunkUnits

def fillImpact (quantity : UInt64) : Option UInt64 := do
  let model := s.configuration.paperModel
  let whole ← checkedMultiply (quantity / kPartsPerMillion) model.impactTicksPerMillionUnits
  let product ← checkedMultiply (quantity % kPartsPerMillion) model.impactTicksPerMillionUnits
  checkedAdd whole (if product = 0 then 0 else (product - 1) / kPartsPerMillion + 1)

/-- The price of a trade with its cost, within the limit. -/
def fillPrice (event : SyntheticEvent) (order : PaperOrderSnapshot) (impact : UInt64) :
    Option Int64 := do
  let cost ← checkedAdd s.configuration.paperModel.slippageTicks impact
  if cost > 0x7FFFFFFFFFFFFFFF then none
  else if order.side = .buy then
    if event.priceTicks > Int64.maxValue - cost.toInt64 then none
    else some (min (event.priceTicks + cost.toInt64) order.priceTicks)
  else if event.priceTicks < Int64.minValue + cost.toInt64 then none
  else some (max (event.priceTicks - cost.toInt64) order.priceTicks)

def fillTerms (event : SyntheticEvent) (order : PaperOrderSnapshot) (quantity : UInt64) :
    Option (UInt64 × Int64 × UInt64) := do
  let impact ← s.fillImpact quantity
  let price ← s.fillPrice event order impact
  let fee ← checkedMultiply quantity s.configuration.paperModel.feePerUnitCurrencyNanos
  return (impact, price, fee)

def filledOrder (order : PaperOrderSnapshot) (quantity : UInt64) : PaperOrderSnapshot :=
  let cumulative := order.cumulativeFillQuantityUnits + quantity
  { order with
    queueAheadUnits := 0
    cumulativeFillQuantityUnits := cumulative
    state := if cumulative = order.quantityUnits then .filled else order.state }

def fillCommand (order : PaperOrderSnapshot) : GatewayCommand :=
  { commandId := order.sourceCommandId
    kind := .newOrder
    orderId := order.orderId
    externalOrderId := order.externalOrderId
    sessionId := s.configuration.sessionId
    accountId := s.configuration.accountId
    venueId := s.configuration.venueId
    instrumentId := order.instrumentId
    configurationVersion := s.configuration.configurationVersion
    side := order.side
    priceTicks := order.priceTicks
    quantityUnits := order.quantityUnits
    authority :=
      { exchangeSessionEpoch := s.configuration.exchangeSessionEpoch
        fencingToken := s.configuration.initialFencingToken } }

def fillEvent (event : SyntheticEvent) (order : PaperOrderSnapshot) (quantity : UInt64)
    (terms : UInt64 × Int64 × UInt64) : GatewayEvent :=
  let filled := filledOrder order quantity
  { s.baseEvent (s.fillCommand order) .fill .accepted with
    executionId := gatewayExecutionId order.orderId event.eventHash s.nextExecutionOrdinal
    exchangeEventTimeNs := event.exchangeEventTimeNs
    nicReceiveTimeNs := event.nicReceiveTimeNs
    priceTicks := terms.2.1
    quantityUnits := quantity
    cumulativeFillQuantityUnits := filled.cumulativeFillQuantityUnits
    remainingQuantityUnits := order.quantityUnits - filled.cumulativeFillQuantityUnits
    feeCurrencyNanos := terms.2.2
    queueAheadBeforeUnits := order.queueAheadUnits
    queueAheadAfterUnits := filled.queueAheadUnits
    modeledSlippageTicks := s.configuration.paperModel.slippageTicks
    modeledImpactTicks := terms.1
    sourceMarketEventHash := event.eventHash }

def passOver (order : PaperOrderSnapshot) (units : UInt64) : PaperOrderSnapshot :=
  { order with queueAheadUnits := order.queueAheadUnits - units }

/-- The end of `process_trade`: a fill of the order. -/
def fillOrder (event : SyntheticEvent) (index : Fin kMaximumGatewayOrders) (quantity : UInt64) :
    Processed :=
  match s.fillTerms event (s.orders index) quantity with
  | none => (s, .arithmeticOverflow, 0)
  | some terms =>
      { s with
        orders := Function.update s.orders index (filledOrder (s.orders index) quantity)
        nextExecutionOrdinal := s.nextExecutionOrdinal + 1 }.respond
        (s.fillEvent event (s.orders index) quantity terms) event.processMonotonicTimeNs

/-- The part of `process_trade` on the order the trade meets. -/
def tradeAgainst (event : SyntheticEvent) (index : Fin kMaximumGatewayOrders) : Processed :=
  if (s.orders index).queueAheadUnits ≥ event.quantityUnits then
    ({ s with
        orders := Function.update s.orders index (passOver (s.orders index) event.quantityUnits) },
      .accepted, 0)
  else if fillQuantity s.configuration.paperModel event (s.orders index) = 0 then
    (s, .accepted, 0)
  else if !s.eventRoom then (s, .eventCapacity, 0)
  else
    s.fillOrder event index (fillQuantity s.configuration.paperModel event (s.orders index))

def metOrder (event : SyntheticEvent) (marketIndex : Nat) : Option (Fin kMaximumGatewayOrders) :=
  (List.finRange kMaximumGatewayOrders).find? fun index =>
    tradable event (s.market marketIndex) (s.orders index)

def processTrade (event : SyntheticEvent) (marketIndex : Nat) : Processed :=
  if !s.executes event (s.market marketIndex) then (s, .accepted, 0)
  else if event.priceTicks ≤ 0 || event.quantityUnits = 0 then (s, .invalidRequest, 0)
  else
    match s.metOrder event marketIndex with
    | none => (s, .accepted, 0)
    | some index => s.tradeAgainst event index

/-- The body of `on_market_event`, with the response hash. -/
def observe (event : SyntheticEvent) : Processed :=
  if event.dataQuality ≠ .valid then (s, .feedUnhealthy, 0)
  else
    match s.findEventMarket event with
    | none => (s, .scopeMismatch, 0)
    | some index =>
        ((s.settleDueControls event.processMonotonicTimeNs).updateMarket event index).processTrade
          event index

def onMarketEvent (event : SyntheticEvent) : SimulatedGateway × GatewayReason :=
  if !s.initialized || s.stopped then (s, .shutdown)
  else if !validEventShape event || event.eventHash = 0 ||
      event.eventHash ≠ calculateEventHash event then (s, .invalidRequest)
  else
    s.reserving event.processMonotonicTimeNs .journalCapacity fun reservation s =>
      let observed := s.observe event
      let audited := observed.1.audit reservation
        { kind := .marketObservation
          reason := observed.2.1
          gatewayEventHash := saturatingMix event.eventHash observed.2.2 }
        event.processMonotonicTimeNs
      (audited.1.updateHealth, if audited.2 then observed.2.1 else .journalCapacity)

/-- An acknowledgement reports the order at its delivery. -/
def refreshed (event : GatewayEvent) : GatewayEvent :=
  if event.kind = .cancelAcknowledgement || event.kind = .replaceAcknowledgement ||
      event.kind = .acknowledgement then
    match s.findOrder event.orderId with
    | none => event
    | some index =>
        let order := s.orders index
        { event with
          externalOrderId := order.externalOrderId
          cumulativeFillQuantityUnits := order.cumulativeFillQuantityUnits
          remainingQuantityUnits := order.quantityUnits - order.cumulativeFillQuantityUnits
          priceTicks := order.priceTicks
          quantityUnits := order.quantityUnits }
  else event

def emitted (scheduled : ScheduledEvent) : GatewayEvent :=
  let event := s.refreshed scheduled.event
  let event :=
    { event with
      venueSequence :=
        if event.venueSequence = 0 then s.session.sequences.expectedInbound
        else event.venueSequence
      processMonotonicTimeNs := scheduled.dueNs }
  { event with stableHash := stableGatewayEventHash event }

def responseRecord (event : GatewayEvent) (reason : GatewayReason) : GatewayAuditRecord :=
  { kind := .responseEmitted
    reason
    correlationId := event.sourceCommandId
    orderId := event.orderId
    gatewayEventHash := event.stableHash }

abbrev Polled := GatewayPollStatus × Option GatewayEvent

def withdraw (scheduled : ScheduledEvent) : SimulatedGateway :=
  { s with events := s.events.erase scheduled }

/-- The part of `poll_event` on a due event. -/
def deliver (now : UInt64) (scheduled : ScheduledEvent) (reservation : Nat) :
    SimulatedGateway × Polled :=
  let event := s.emitted scheduled
  let observed := s.session.observeInbound now event.venueSequence
  let s := { s with session := observed.1 }
  match observed.2 with
  | .gap | .outOfOrder | .invalid | .exhausted =>
      (((s.withdraw scheduled).noteAudit reservation (responseRecord event .sequenceGap)
        now).updateHealth, .sequenceError, none)
  | .duplicate =>
      ((s.withdraw scheduled).noteAudit reservation (responseRecord event .duplicateCommand) now,
        .empty, none)
  | .first | .inOrder =>
      if !validGatewayEvent event then
        ((s.setUnsafe .inboundSequenceGap now).noteAudit reservation
          (responseRecord event .decodeFailure) now, .sequenceError, none)
      else
        let audited := s.audit reservation (responseRecord event .accepted) now
        if !audited.2 then (audited.1, .recovering, none)
        else ((audited.1.withdraw scheduled).updateHealth, .event, some event)

def pollEvent (now : UInt64) : SimulatedGateway × Polled :=
  if s.stopped then (s, .stopped, none)
  else if !s.initialized then (s, .recovering, none)
  else
    let checked := s.session.checkHeartbeatTimeout now
    let s := { s with session := checked.1 }
    if checked.2 then (s.updateHealth, .recovering, none)
    else
      let s := s.settleDueControls now
      match s.findDueEvent now with
      | none => (s, .empty, none)
      | some scheduled =>
          s.reserving now (.recovering, none) fun reservation s =>
            s.deliver now scheduled reservation

def heartbeatCommand (outboundSequence : UInt64) : GatewayCommand :=
  { commandId :=
      ⟨nonzeroHash (s.configuration.sessionId.high ^^^ outboundSequence),
        nonzeroHash (s.configuration.sessionId.low ^^^ 0x4845415254424541)⟩
    sessionId := s.configuration.sessionId
    accountId := s.configuration.accountId
    venueId := s.configuration.venueId
    configurationVersion := s.configuration.configurationVersion
    authority :=
      { exchangeSessionEpoch := s.configuration.exchangeSessionEpoch
        fencingToken := s.configuration.initialFencingToken } }

def heartbeat (now : UInt64) : SimulatedGateway × Bool :=
  if !s.initialized || s.stopped then (s, false)
  else
    let checked := s.session.checkHeartbeatTimeout now
    let s := { s with session := checked.1 }
    if checked.2 then (s.updateHealth, false)
    else if !s.session.heartbeatDue now then (s, true)
    else
      let claimed := s.session.claimOutbound now
      let s := { s with session := claimed.1 }
      match claimed.2 with
      | none => (s.updateHealth, false)
      | some outbound =>
          match s.scheduleEvent (s.baseEvent (s.heartbeatCommand outbound) .heartbeat .accepted)
            now with
          | none => (s, false)
          | some scheduled => (scheduled, true)

def suspend (order : PaperOrderSnapshot) : PaperOrderSnapshot :=
  if order.occupied && !terminal order.state then { order with state := .unknownRecovery }
  else order

def beginRecovery (now : UInt64) : SimulatedGateway × Bool :=
  if !s.initialized then (s, false)
  else
    s.reserving now false fun reservation s =>
      match s.session.beginRecovery now .recoveryRequested with
      | none =>
          let audited := s.audit reservation { kind := .recovery, reason := .sessionNotActive } now
          (audited.1.updateHealth, false)
      | some session =>
          let suspended :=
            { s with session, orders := fun index => suspend (s.orders index), events := [] }
          let audited :=
            suspended.audit reservation { kind := .recovery, reason := .recoveryRequired } now
          (audited.1.updateHealth, audited.2)

def recoveryScopeMatches (snapshot : GatewayRecoverySnapshot) : Bool :=
  snapshot.sessionId == s.configuration.sessionId &&
    snapshot.accountId == s.configuration.accountId &&
    snapshot.venueId == s.configuration.venueId &&
    snapshot.configurationVersion == s.configuration.configurationVersion &&
    snapshot.configurationHash == s.configuration.stableHash &&
    snapshot.exchangeSessionEpoch == s.configuration.exchangeSessionEpoch &&
    (List.finRange kMaximumGatewayOrders).all fun index =>
      !(snapshot.orders index).occupied ||
        (s.findMarket (snapshot.orders index).instrumentId).isSome

def recoveryIsAmbiguous (snapshot : GatewayRecoverySnapshot) : Bool :=
  (List.finRange kMaximumGatewayOrders).any fun index =>
    (snapshot.orders index).occupied && (snapshot.orders index).state == .unknownRecovery

/-- The loop of `rebuild_recovery_orders`. -/
def insertOrders : List PaperOrderSnapshot → OrderTable → OrderTable × Bool
  | [], table => (table, true)
  | order :: rest, table =>
      if !order.occupied then insertOrders rest table
      else
        match orderLayout.findFree table order.orderId with
        | none => (table, false)
        | some index => insertOrders rest (Function.update table index order)

def rebuildRecoveryOrders (snapshot : GatewayRecoverySnapshot) : OrderTable × Bool :=
  insertOrders ((List.finRange kMaximumGatewayOrders).map snapshot.orders) fun _ => {}

/-- The table of a recovery before the session is asked. -/
def rebuilt (orders : OrderTable) (snapshot : GatewayRecoverySnapshot) : OrderTable × Bool :=
  if recoveryIsAmbiguous snapshot then (orders, false) else rebuildRecoveryOrders snapshot

def recoveryRecord (completed : Bool) (snapshotHash : UInt64) : GatewayAuditRecord :=
  { kind := .recovery
    reason := if completed then .accepted else .recoveryAmbiguous
    gatewayEventHash := snapshotHash }

def recover (snapshot : GatewayRecoverySnapshot) (now : UInt64) :
    SimulatedGateway × RecoveryStatus :=
  if !s.initialized then (s, .busy)
  else if !validRecoverySnapshot snapshot then (s, .invalidSnapshot)
  else if !s.recoveryScopeMatches snapshot then (s, .configurationMismatch)
  else
    s.reserving now .busy fun reservation s =>
      let table := rebuilt s.orders snapshot
      let completed :=
        if table.2 then s.session.completeRecovery now snapshot.nextInboundSequence else none
      let recovered := { s with orders := table.1, session := completed.getD s.session }
      let audited :=
        recovered.audit reservation (recoveryRecord completed.isSome snapshot.stableHash) now
      if !audited.2 then (audited.1, .busy)
      else (audited.1.updateHealth, if completed.isSome then .completed else .ambiguous)

def recoverySnapshot : GatewayRecoverySnapshot :=
  let result : GatewayRecoverySnapshot :=
    { sessionId := s.configuration.sessionId
      accountId := s.configuration.accountId
      venueId := s.configuration.venueId
      configurationVersion := s.configuration.configurationVersion
      configurationHash := s.configuration.stableHash
      exchangeSessionEpoch := s.configuration.exchangeSessionEpoch
      nextInboundSequence := s.session.sequences.expectedInbound
      orders := s.orders
      orderCount := occupiedCount s.orders }
  { result with stableHash := stableRecoverySnapshotHash result }

def injectSyntheticResponse (event : GatewayEvent) (dueNs : UInt64) : SimulatedGateway × Bool :=
  if !s.initialized || event.mode ≠ s.mode || !validGatewayEvent event ||
      event.sessionId ≠ s.configuration.sessionId ||
      event.accountId ≠ s.configuration.accountId || event.venueId ≠ s.configuration.venueId ||
      event.configurationVersion ≠ s.configuration.configurationVersion ||
      event.authority.exchangeSessionEpoch ≠ s.configuration.exchangeSessionEpoch ||
      event.authority.fencingToken ≠ s.configuration.initialFencingToken ||
      (event.kind ≠ .heartbeat && event.kind ≠ .sessionStatus &&
        (s.findMarket event.instrumentId).isNone) then (s, false)
  else
    match s.scheduleEvent event dueNs with
    | none => (s, false)
    | some scheduled => (scheduled, true)

def shutdown (now : UInt64) : SimulatedGateway :=
  if s.stopped then s
  else
    let s := { s with stopped := true, session := s.session.shutdown now }
    match s.journal.tryReserve with
    | none => s.updateHealth
    | some (reservation, journal) =>
        ({ s with journal }.noteAudit reservation { kind := .shutdown, reason := .shutdown }
          now).updateHealth

inductive Call where
  | start (now : UInt64)
  | logoff (now : UInt64)
  | sendOrder (request : GatewayRequest)
  | cancelOrder (request : GatewayRequest)
  | replaceOrder (request : GatewayRequest)
  | onMarketEvent (event : SyntheticEvent)
  | pollEvent (now : UInt64)
  | heartbeat (now : UInt64)
  | beginRecovery (now : UInt64)
  | recover (snapshot : GatewayRecoverySnapshot) (now : UInt64)
  | injectSyntheticResponse (event : GatewayEvent) (dueNs : UInt64)
  | shutdown (now : UInt64)

def next (s : SimulatedGateway) : Call → SimulatedGateway
  | .start now => (s.start now).1
  | .logoff now => (s.logoff now).1
  | .sendOrder request => (s.sendOrder request).1
  | .cancelOrder request => (s.cancelOrder request).1
  | .replaceOrder request => (s.replaceOrder request).1
  | .onMarketEvent event => (s.onMarketEvent event).1
  | .pollEvent now => (s.pollEvent now).1
  | .heartbeat now => (s.heartbeat now).1
  | .beginRecovery now => (s.beginRecovery now).1
  | .recover snapshot now => (s.recover snapshot now).1
  | .injectSyntheticResponse event dueNs => (s.injectSyntheticResponse event dueNs).1
  | .shutdown now => s.shutdown now

end SimulatedGateway

end Aegis.Execution

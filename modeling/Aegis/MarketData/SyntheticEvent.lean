import Aegis.OrderBook.Types

/-!
The synthetic market-data event (`market_data/src/event.cpp`).
-/

namespace Aegis.MarketData

open Aegis.Common Aegis.Book

inductive NativeMessageType where
  | addOrder | cancelOrder | modifyOrder | priceLevel | trade | quote | auctionImbalance
  | tradingStatus
  | unlisted (byte : UnlistedCode 1 8)
  deriving DecidableEq

def NativeMessageType.code : NativeMessageType → UInt8
  | .addOrder => 1
  | .cancelOrder => 2
  | .modifyOrder => 3
  | .priceLevel => 4
  | .trade => 5
  | .quote => 6
  | .auctionImbalance => 7
  | .tradingStatus => 8
  | .unlisted byte => byte.raw

inductive BookAction where
  | none | add | change | deleteLevel | clearSide | clearBook
  | unlisted (byte : UnlistedCode 0 5)
  deriving DecidableEq

def BookAction.code : BookAction → UInt8
  | .none => 0
  | .add => 1
  | .change => 2
  | .deleteLevel => 3
  | .clearSide => 4
  | .clearBook => 5
  | .unlisted byte => byte.raw

inductive DataQuality where
  | valid | degraded | stale | invalid
  | unlisted (byte : UnlistedCode 1 4)
  deriving DecidableEq

def kMessageFlagOrderLevel : UInt16 := 0x0001

def kMessageFlagPriceLevel : UInt16 := 0x0002

def kKnownMessageFlags : UInt16 := 0x001F

def kKnownPacketFlags : UInt32 := 0x00000007

structure SyntheticEvent where
  type : NativeMessageType := .addOrder
  side : Side := .none
  action : BookAction := .none
  status : TradingStatus := .none
  dataQuality : DataQuality := .valid
  messageFlags : UInt16 := 0
  packetFlags : UInt32 := 0
  venueNumber : UInt32 := 0
  channelNumber : UInt32 := 0
  instrumentNumber : UInt32 := 0
  channelSequence : UInt64 := 0
  globalOrdinal : UInt64 := 0
  exchangeEventTimeNs : Int64 := 0
  nicReceiveTimeNs : Int64 := 0
  processMonotonicTimeNs : UInt64 := 0
  syntheticOrderId : UInt64 := 0
  priceTicks : Int64 := 0
  quantityUnits : UInt64 := 0
  levelQuantityUnits : UInt64 := 0
  orderCount : UInt32 := 0
  auxiliaryCode : UInt32 := 0
  auxiliaryValue : UInt64 := 0
  eventHash : UInt64 := 0

/-- `valid_side`. -/
def listedSide : Side → Bool
  | .unlisted .. => false
  | _ => true

def validAction : BookAction → Bool
  | .unlisted .. => false
  | _ => true

/-- `valid_status`. -/
def listedStatus : TradingStatus → Bool
  | .unlisted .. => false
  | _ => true

def validQuality : DataQuality → Bool
  | .unlisted .. => false
  | _ => true

def isBookMessage : NativeMessageType → Bool
  | .addOrder | .cancelOrder | .modifyOrder | .priceLevel => true
  | _ => false

def validCommonShape (event : SyntheticEvent) : Bool :=
  event.venueNumber != 0 && event.channelNumber != 0 && event.instrumentNumber != 0 &&
    event.channelSequence != 0 && event.globalOrdinal != 0 && event.exchangeEventTimeNs > 0 &&
    event.nicReceiveTimeNs ≥ event.exchangeEventTimeNs && event.processMonotonicTimeNs != 0 &&
    (event.messageFlags &&& ~~~kKnownMessageFlags) == 0 &&
    (event.packetFlags &&& ~~~kKnownPacketFlags) == 0 && listedSide event.side &&
    validAction event.action && listedStatus event.status && validQuality event.dataQuality

def validBookShape (event : SyntheticEvent) : Bool :=
  let deletion := event.action == .deleteLevel || event.action == .clearSide ||
    event.action == .clearBook
  let hasOrderFlag := event.messageFlags &&& kMessageFlagOrderLevel != 0
  let hasPriceFlag := event.messageFlags &&& kMessageFlagPriceLevel != 0
  if (event.side != .bid && event.side != .ask) || event.status != .none ||
      event.priceTicks ≤ 0 || event.action == .none then false
  else if !deletion && (event.levelQuantityUnits == 0 || event.orderCount == 0) then false
  else if event.type != .priceLevel then
    event.syntheticOrderId != 0 && hasOrderFlag && !hasPriceFlag
  else event.syntheticOrderId == 0 && hasPriceFlag && !hasOrderFlag

def validNonbookShape (event : SyntheticEvent) : Bool :=
  if event.action != .none || event.syntheticOrderId != 0 then false
  else
    match event.type with
    | .trade =>
        (event.side == .bid || event.side == .ask) && event.status == .none &&
          event.priceTicks > 0 && event.quantityUnits > 0 && event.auxiliaryValue > 0
    | .quote =>
        if event.auxiliaryValue > 0x7FFFFFFFFFFFFFFF then false
        else
          event.side == .none && event.status == .none && event.priceTicks > 0 &&
            event.auxiliaryValue.toInt64 ≥ event.priceTicks && event.quantityUnits > 0 &&
            event.levelQuantityUnits > 0
    | .auctionImbalance =>
        event.status == .none && event.priceTicks > 0 && event.quantityUnits > 0
    | .tradingStatus => event.side == .none && event.status != .none
    | _ => false

def validEventShape (event : SyntheticEvent) : Bool :=
  if !validCommonShape event then false
  else if isBookMessage event.type then validBookShape event
  else validNonbookShape event

theorem processMonotonicTimeNs_ne_zero {event : SyntheticEvent}
    (shape : validEventShape event) : event.processMonotonicTimeNs ≠ 0 := by
  unfold validEventShape at shape
  split at shape
  · cases shape
  next common =>
  simp only [validCommonShape, Bool.and_eq_true, bne_iff_ne, Bool.not_eq_true', ne_eq,
    Bool.not_eq_false] at common
  tauto

/-- `StableHash64::add_u16` and so on, most significant byte first. -/
def addBytes (hash : UInt64) (width : Nat) (value : UInt64) : UInt64 :=
  (List.range width).foldl
    (fun hash index => mixByte hash ((value >>> UInt64.ofNat (8 * (width - 1 - index))) &&& 0xFF))
    hash

/-- `calculate_event_hash`, without quality, flags and venue. -/
def calculateEventHash (event : SyntheticEvent) : UInt64 := Id.run do
  let mut hash := kFnvOffset
  hash := addBytes hash 2 108
  hash := addBytes hash 1 event.type.code.toUInt64
  hash := addBytes hash 1 event.side.code.toUInt64
  hash := addBytes hash 1 event.action.code.toUInt64
  hash := addBytes hash 1 event.status.code.toUInt64
  hash := addBytes hash 2 event.messageFlags.toUInt64
  hash := addBytes hash 4 event.instrumentNumber.toUInt64
  hash := addBytes hash 8 event.channelSequence
  hash := addBytes hash 8 event.globalOrdinal
  hash := addBytes hash 8 event.exchangeEventTimeNs.toUInt64
  hash := addBytes hash 8 event.nicReceiveTimeNs.toUInt64
  hash := addBytes hash 8 event.processMonotonicTimeNs
  hash := addBytes hash 8 event.syntheticOrderId
  hash := addBytes hash 8 event.priceTicks.toUInt64
  hash := addBytes hash 8 event.quantityUnits
  hash := addBytes hash 8 event.levelQuantityUnits
  hash := addBytes hash 4 event.orderCount.toUInt64
  hash := addBytes hash 4 event.auxiliaryCode.toUInt64
  hash := addBytes hash 8 event.auxiliaryValue
  return hash

end Aegis.MarketData

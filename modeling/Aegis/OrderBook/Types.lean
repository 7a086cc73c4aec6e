import Aegis.Common.Identifiers

/-!
The types of the order book (`aegis/order_book/types.hpp`). Prices are integers, since the book
only compares them; capacities, counts and positions are natural numbers.
-/

namespace Aegis.Book

open Aegis.Common

def kMaximumOrdersPerBook : Nat := 4096

def kMaximumLevelsPerSide : Nat := 512

def kMaximumPublishedDepth : Nat := 64

def kOrderIndexCapacity : Nat := 8192

instance : NeZero kOrderIndexCapacity := ⟨by decide⟩

inductive Side where
  | none | bid | ask
  | unlisted (byte : UnlistedCode 0 2)
  deriving DecidableEq

def Side.code : Side → UInt8
  | .none => 0
  | .bid => 1
  | .ask => 2
  | .unlisted byte => byte.raw

def validSide (side : Side) : Bool :=
  side == .bid || side == .ask

inductive TradingStatus where
  | none | preOpen | opened | halted | auction | closed
  | unlisted (byte : UnlistedCode 0 5)
  deriving DecidableEq

def TradingStatus.code : TradingStatus → UInt8
  | .none => 0
  | .preOpen => 1
  | .opened => 2
  | .halted => 3
  | .auction => 4
  | .closed => 5
  | .unlisted byte => byte.raw

def validStatus (status : TradingStatus) : Bool :=
  TradingStatus.preOpen.code ≤ status.code && status.code ≤ TradingStatus.closed.code

inductive BookMode where
  | orderByOrder | priceLevel
  | unlisted (byte : UnlistedCode 1 2)
  deriving DecidableEq

def BookMode.code : BookMode → UInt8
  | .orderByOrder => 1
  | .priceLevel => 2
  | .unlisted byte => byte.raw

inductive BookValidity where
  | recovering | valid | invalid
  deriving DecidableEq

inductive BookOperation where
  | add | cancel | partialCancel | replace | execute | partialExecute | deleteOrder
  | trade
  | setLevel | deleteLevel | clearSide | clearBook
  | setTradingStatus | setAuctionImbalance | observeQuote
  | unlisted (byte : UnlistedCode 1 15)
  deriving DecidableEq

/-- From `add` to `delete_order`. -/
def BookOperation.isOrder : BookOperation → Bool
  | .add | .cancel | .partialCancel | .replace | .execute | .partialExecute | .deleteOrder => true
  | _ => false

/-- From `set_level` to `clear_book`. -/
def BookOperation.isLevel : BookOperation → Bool
  | .setLevel | .deleteLevel | .clearSide | .clearBook => true
  | _ => false

/-- `ApplyError`, without the codes of other components. -/
inductive ApplyError where
  | none | invalidConfiguration | invalidIdentity | invalidSession | invalidSequence
  | sequenceGap | staleSequence | bookInvalid | invalidOperation | invalidSide | invalidPrice
  | invalidQuantity | invalidStatus | duplicateOrderId | orderNotFound | quantityExceedsRemaining
  | quantityOverflow | priorityOverflow | orderCapacityExhausted | levelCapacityExhausted
  | levelNotFound | modeMismatch | updateWhileHalted | crossedBook | aggregateMismatch
  | malformedSnapshot | snapshotHashMismatch
  deriving DecidableEq

inductive InvariantError where
  | invalidLevel | unsortedBid | unsortedAsk | crossed | invalidOrder | missingOrderIndex
  | brokenQueue | brokenFreeList | aggregateQuantityMismatch | aggregateOrderCountMismatch
  | capacityExceeded
  deriving DecidableEq

structure BookIdentity where
  venueId : VenueId := {}
  instrumentId : InstrumentId := {}
  venueNumber : UInt32 := 0
  instrumentNumber : UInt32 := 0
  deriving DecidableEq

def BookIdentity.valid (identity : BookIdentity) : Bool :=
  identity.venueId.valid && identity.instrumentId.valid && identity.venueNumber != 0 &&
    identity.instrumentNumber != 0

structure BookConfig where
  identity : BookIdentity := {}
  sessionId : SessionId := {}
  mode : BookMode := .orderByOrder
  orderCapacity : Nat := 1024
  levelCapacity : Nat := 128
  publishedDepth : Nat := 16
  maximumSequence : UInt64 := -1
  permitCrossedTransition : Bool := false
  requireContiguousSequence : Bool := false
  startRecovering : Bool := true
  deriving DecidableEq

def BookConfig.valid (config : BookConfig) : Bool :=
  config.identity.valid && config.sessionId.valid &&
    (config.mode == .orderByOrder || config.mode == .priceLevel) &&
    config.orderCapacity != 0 && config.orderCapacity ≤ kMaximumOrdersPerBook &&
    config.levelCapacity != 0 && config.levelCapacity ≤ kMaximumLevelsPerSide &&
    config.publishedDepth != 0 && config.publishedDepth ≤ kMaximumPublishedDepth &&
    config.publishedDepth ≤ config.levelCapacity && config.maximumSequence != 0

structure Level where
  priceTicks : Int := 0
  quantityUnits : UInt64 := 0
  orderCount : Nat := 0
  deriving DecidableEq

/-- `TopOfBook`: a side that is present carries its level. -/
structure TopOfBook where
  bid : Option Level := none
  ask : Option Level := none
  version : UInt64 := 0
  deriving DecidableEq

structure AuctionImbalanceState where
  side : Side := .none
  indicativePriceTicks : Int := 0
  imbalanceQuantityUnits : UInt64 := 0
  pairedQuantityUnits : UInt64 := 0
  sequence : UInt64 := 0
  active : Bool := false
  deriving DecidableEq

structure TradeState where
  aggressorSide : Side := .none
  priceTicks : Int := 0
  quantityUnits : UInt64 := 0
  venueTradeId : UInt64 := 0
  sequence : UInt64 := 0
  present : Bool := false
  deriving DecidableEq

/-- `BookUpdate`, without two fields that are not read. -/
structure BookUpdate where
  operation : BookOperation := .add
  side : Side := .none
  tradingStatus : TradingStatus := .none
  orderId : OrderId := {}
  priceTicks : Int := 0
  quantityUnits : UInt64 := 0
  levelQuantityUnits : UInt64 := 0
  pairedQuantityUnits : UInt64 := 0
  venueTradeId : UInt64 := 0
  orderCount : Nat := 0
  sequence : UInt64 := 0
  verifyAggregate : Bool := false
  deriving DecidableEq

structure ApplyResult where
  error : ApplyError := .none
  version : UInt64 := 0
  lastValidSequence : UInt64 := 0
  validity : BookValidity := .recovering
  topChanged : Bool := false
  deriving DecidableEq

structure DepthSnapshot where
  bids : List Level := []
  asks : List Level := []
  version : UInt64 := 0
  validity : BookValidity := .recovering
  deriving DecidableEq

structure SnapshotOrder where
  orderId : OrderId := {}
  side : Side := .none
  priceTicks : Int := 0
  quantityUnits : UInt64 := 0
  priority : UInt64 := 0
  deriving DecidableEq

structure BookSnapshot where
  identity : BookIdentity := {}
  sessionId : SessionId := {}
  mode : BookMode := .orderByOrder
  tradingStatus : TradingStatus := .none
  auctionImbalance : AuctionImbalanceState := {}
  lastTrade : TradeState := {}
  version : UInt64 := 0
  lastValidSequence : UInt64 := 0
  nextPriority : UInt64 := 0
  snapshotHash : UInt64 := 0
  orders : List SnapshotOrder := []
  bids : List Level := []
  asks : List Level := []
  deriving DecidableEq

def nextSequence (sequence maximumSequence : UInt64) : UInt64 :=
  if sequence = maximumSequence then 1 else sequence + 1

/-- `StableHash::add_u8`. -/
def addByte (hash : UInt64) (value : UInt8) : UInt64 :=
  mixByte hash value.toUInt64

/-- `StableHash::add_u32`. -/
def addWord32 (hash : UInt64) (value : UInt32) : UInt64 :=
  ([0, 8, 16, 24] : List UInt64).foldl
    (fun hash shift => mixByte hash ((value.toUInt64 >>> shift) &&& 0xFF)) hash

def addCount (hash : UInt64) (count : Nat) : UInt64 :=
  addWord32 hash (UInt32.ofNat count)

/-- `StableHash::add_i64`. -/
def addPrice (hash : UInt64) (price : Int) : UInt64 :=
  mix hash (Int64.ofInt price).toUInt64

def addFlag (hash : UInt64) (value : Bool) : UInt64 :=
  addByte hash (if value then 1 else 0)

def hashLevel (hash : UInt64) (level : Level) : UInt64 :=
  addCount (mix (addPrice hash level.priceTicks) level.quantityUnits) level.orderCount

def hashOrder (hash : UInt64) (order : SnapshotOrder) : UInt64 :=
  mix (mix (addPrice (addByte (mixIdentifier hash order.orderId) order.side.code) order.priceTicks)
    order.quantityUnits) order.priority

def snapshotHash (snapshot : BookSnapshot) : UInt64 := Id.run do
  let mut hash : UInt64 := 1469598103934665603
  hash := addWord32 hash 1
  hash := mixIdentifier hash snapshot.identity.venueId
  hash := mixIdentifier hash snapshot.identity.instrumentId
  hash := addWord32 hash snapshot.identity.venueNumber
  hash := addWord32 hash snapshot.identity.instrumentNumber
  hash := mixIdentifier hash snapshot.sessionId
  hash := addByte hash snapshot.mode.code
  hash := addByte hash snapshot.tradingStatus.code
  hash := addByte hash snapshot.auctionImbalance.side.code
  hash := addPrice hash snapshot.auctionImbalance.indicativePriceTicks
  hash := mix hash snapshot.auctionImbalance.imbalanceQuantityUnits
  hash := mix hash snapshot.auctionImbalance.pairedQuantityUnits
  hash := mix hash snapshot.auctionImbalance.sequence
  hash := addFlag hash snapshot.auctionImbalance.active
  hash := addByte hash snapshot.lastTrade.aggressorSide.code
  hash := addPrice hash snapshot.lastTrade.priceTicks
  hash := mix hash snapshot.lastTrade.quantityUnits
  hash := mix hash snapshot.lastTrade.venueTradeId
  hash := mix hash snapshot.lastTrade.sequence
  hash := addFlag hash snapshot.lastTrade.present
  hash := mix hash snapshot.version
  hash := mix hash snapshot.lastValidSequence
  hash := mix hash snapshot.nextPriority
  hash := addCount hash snapshot.orders.length
  hash := snapshot.orders.foldl hashOrder hash
  hash := addCount hash snapshot.bids.length
  hash := snapshot.bids.foldl hashLevel hash
  hash := addCount hash snapshot.asks.length
  hash := snapshot.asks.foldl hashLevel hash
  return hash

end Aegis.Book

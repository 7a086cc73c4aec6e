import Aegis.MarketData.SyntheticEvent

/-!
The arbitration of the two legs of a feed (`feed_sequence.cpp`, `feed_arbitrator.cpp`). Sequence
numbers run from one to a maximum and start again. The window is its occupied slots; the ring of
recent fingerprints is a list.
-/

namespace Aegis.MarketData

open Aegis.Common

def kMaximumArbitrationWindow : Nat := 64

def nextSequence (sequence maximumSequence : UInt64) : UInt64 :=
  if sequence = maximumSequence then 1 else sequence + 1

def previousSequence (sequence maximumSequence : UInt64) : UInt64 :=
  if sequence = 1 then maximumSequence else sequence - 1

def forwardSequenceDistance (from' to' maximumSequence : UInt64) : UInt64 :=
  if to' ≥ from' then to' - from' else (maximumSequence - from') + to'

inductive SequenceDisposition where
  | next | duplicate | gap | outOfOrder | invalid
  deriving DecidableEq

structure SequenceTracker where
  expected : UInt64
  maximum : UInt64
  last : UInt64
  hasLast : Bool
  valid : Bool

namespace SequenceTracker

def construct (initialSequence maximumSequence : UInt64) : SequenceTracker where
  expected := initialSequence
  maximum := maximumSequence
  last := 0
  hasLast := false
  valid := initialSequence != 0 && maximumSequence != 0 && initialSequence ≤ maximumSequence

variable (tracker : SequenceTracker) (sequence : UInt64)

def classify : SequenceDisposition :=
  if !tracker.valid || sequence == 0 || sequence > tracker.maximum then .invalid
  else if sequence = tracker.expected then .next
  else if tracker.hasLast && sequence == tracker.last then .duplicate
  else if forwardSequenceDistance tracker.expected sequence tracker.maximum <
      forwardSequenceDistance sequence tracker.expected tracker.maximum then .gap
  else .outOfOrder

def after : SequenceTracker :=
  { tracker with
    last := sequence
    hasLast := true
    expected := nextSequence sequence tracker.maximum }

def commit : Option SequenceTracker :=
  if tracker.classify sequence = .next then some (tracker.after sequence) else none

def resynchronizeAfter : SequenceTracker :=
  if !tracker.valid || sequence == 0 || sequence > tracker.maximum then tracker
  else tracker.after sequence

end SequenceTracker

structure SequenceRange where
  first : UInt64 := 0
  last : UInt64 := 0
  maximumSequence : UInt64 := 0xFFFFFFFFFFFFFFFF

structure GapDetector where
  range : SequenceRange := {}
  nextMissing : UInt64 := 0
  missingCount : UInt64 := 0
  active : Bool := false

namespace GapDetector

variable (detector : GapDetector)

def activate (expected received maximumSequence : UInt64) : Option GapDetector :=
  if detector.active || expected == 0 || received == 0 || maximumSequence == 0 ||
      expected > maximumSequence || received > maximumSequence || expected == received then none
  else
    let distance := forwardSequenceDistance expected received maximumSequence
    if distance = 0 then none
    else
      some
        { range := ⟨expected, previousSequence received maximumSequence, maximumSequence⟩
          nextMissing := expected
          missingCount := distance
          active := true }

/-- `mark_applied`; `clear` leaves the detector as it was constructed. -/
def markApplied (sequence : UInt64) : Option GapDetector :=
  if !detector.active || sequence != detector.nextMissing then none
  else if sequence = detector.range.last then some {}
  else
    some { detector with
      nextMissing := nextSequence detector.nextMissing detector.range.maximumSequence }

end GapDetector

inductive FeedLeg where
  | a | b | recovery
  | unlisted (byte : UnlistedCode 1 3)
  deriving DecidableEq

def validFeedLeg : FeedLeg → Bool
  | .unlisted _ => false
  | _ => true

structure DecodedPacket where
  event : SyntheticEvent
  feedLeg : FeedLeg := .a
  recovered : Bool := false

inductive ArbitrationStatus where
  | ready | bufferedGap | duplicate | outOfOrder | invalidSequence | conflictingCopy | windowExceeded
  deriving DecidableEq

/-- An occupied slot, and what `pop_ready` returns of it. -/
structure ArbitratedEvent where
  event : SyntheticEvent
  sourceLeg : FeedLeg := .a
  recovered : Bool := false

structure RecentFingerprint where
  sequence : UInt64 := 0
  eventHash : UInt64 := 0
  occupied : Bool := false

structure FeedAFeedBArbitrator where
  tracker : SequenceTracker
  slots : List ArbitratedEvent
  recent : List RecentFingerprint
  windowCapacity : Nat
  recentCursor : Nat

namespace FeedAFeedBArbitrator

def construct (initialSequence maximumSequence : UInt64) (windowCapacity : Nat) :
    FeedAFeedBArbitrator :=
  let capacity := if windowCapacity ≤ kMaximumArbitrationWindow then windowCapacity else 0
  { tracker := .construct initialSequence maximumSequence
    slots := []
    recent := List.replicate capacity {}
    windowCapacity := capacity
    recentCursor := 0 }

variable (arbitrator : FeedAFeedBArbitrator)

def valid : Bool :=
  arbitrator.tracker.valid && arbitrator.windowCapacity != 0

def occupancy : Nat :=
  arbitrator.slots.length

def findSlot (sequence : UInt64) : Option ArbitratedEvent :=
  arbitrator.slots.find? fun slot => slot.event.channelSequence == sequence

def findRecent (sequence : UInt64) : Option RecentFingerprint :=
  arbitrator.recent.find? fun recent => recent.occupied && recent.sequence == sequence

/-- The slots after a copy of a buffered packet. -/
def noteCopy (packet : DecodedPacket) : FeedAFeedBArbitrator :=
  { arbitrator with
    slots := arbitrator.slots.map fun slot =>
      if slot.event.channelSequence = packet.event.channelSequence then
        { slot with recovered := slot.recovered || packet.recovered }
      else slot }

/-- The end of `ingest`: the packet takes a slot. -/
def buffer (packet : DecodedPacket) (disposition : SequenceDisposition) :
    FeedAFeedBArbitrator × ArbitrationStatus :=
  if (forwardSequenceDistance arbitrator.tracker.expected packet.event.channelSequence
        arbitrator.tracker.maximum).toNat ≥ arbitrator.windowCapacity then
    (arbitrator, .windowExceeded)
  else if arbitrator.slots.length ≥ arbitrator.windowCapacity then (arbitrator, .windowExceeded)
  else
    ({ arbitrator with
        slots := arbitrator.slots ++ [⟨packet.event, packet.feedLeg, packet.recovered⟩] },
      if disposition = .next then .ready else .bufferedGap)

/-- `ingest`, with its status. -/
def ingest (packet : DecodedPacket) : FeedAFeedBArbitrator × ArbitrationStatus :=
  let sequence := packet.event.channelSequence
  if !validFeedLeg packet.feedLeg then (arbitrator, .invalidSequence)
  else
    match arbitrator.findRecent sequence with
    | some prior =>
        (arbitrator,
          if prior.eventHash = packet.event.eventHash then .duplicate else .conflictingCopy)
    | none =>
        match arbitrator.findSlot sequence with
        | some existing =>
            if existing.event.eventHash ≠ packet.event.eventHash then
              (arbitrator, .conflictingCopy)
            else (arbitrator.noteCopy packet, .duplicate)
        | none =>
            match arbitrator.tracker.classify sequence with
            | .invalid => (arbitrator, .invalidSequence)
            | .duplicate => (arbitrator, .duplicate)
            | .outOfOrder => (arbitrator, .outOfOrder)
            | disposition => arbitrator.buffer packet disposition

def remember (sequence eventHash : UInt64) : FeedAFeedBArbitrator :=
  { arbitrator with
    recent := arbitrator.recent.set arbitrator.recentCursor ⟨sequence, eventHash, true⟩
    recentCursor := (arbitrator.recentCursor + 1) % arbitrator.windowCapacity }

/-- `pop_ready`: the slot with the expected sequence number. -/
def popReady : FeedAFeedBArbitrator × Option ArbitratedEvent :=
  match arbitrator.findSlot arbitrator.tracker.expected with
  | none => (arbitrator, none)
  | some slot =>
      let remembered := arbitrator.remember slot.event.channelSequence slot.event.eventHash
      match arbitrator.tracker.commit slot.event.channelSequence with
      | none => (remembered, none)
      | some tracker =>
          ({ remembered with
              tracker
              slots := arbitrator.slots.eraseP fun other =>
                other.event.channelSequence == slot.event.channelSequence },
            some slot)

def reset (nextExpectedSequence : UInt64) : FeedAFeedBArbitrator :=
  { arbitrator with
    tracker := .construct nextExpectedSequence arbitrator.tracker.maximum
    slots := []
    recent := List.replicate arbitrator.windowCapacity {}
    recentCursor := 0 }

end FeedAFeedBArbitrator

end Aegis.MarketData

import Aegis.HighAvailability.Coordinator

/-!
The builders of `high_availability/tests/test_support.hpp`.
-/

namespace Aegis.HighAvailability.TestSupport

open Aegis.Common EdgeHaCoordinator

def kSession : SessionId := ⟨1, 1⟩

def kExchangeEpoch : UInt64 := 77

def configuration (nodeId : UInt64 := 1) (processId : UInt64 := 101) : HaConfiguration :=
  let result : HaConfiguration :=
    { sessionId := kSession
      configurationVersion := ⟨2, 1⟩
      nodeId
      processId
      processEpoch := 1
      exchangeSessionEpoch := kExchangeEpoch
      heartbeatTimeoutNs := 500
      peerTimeoutNs := 100
      locality := .colocatedEdge
      witnessPublicKey := List.replicate 32 1
      witnessKeyIdSha256 := List.replicate 32 2
      witnessTrustRootSha256 := List.replicate 32 3 }
  { result with stableHash := stableHaConfigurationHash result }

def grant (nodeId token previousToken sequence issued expires : UInt64) : VerifiedFencingGrant :=
  let result : FencingGrant :=
    { sessionId := kSession
      nodeId
      processEpoch := 1
      exchangeSessionEpoch := kExchangeEpoch
      fencingToken := token
      previousFencingToken := previousToken
      grantSequence := sequence
      issuedProcessMonotonicTimeNs := issued
      validUntilProcessMonotonicTimeNs := expires
      quorumConfirmed := true
      previousOwnerFenced := true
      witnessKeyIdSha256 := List.replicate 32 2
      witnessTrustRootSha256 := List.replicate 32 3
      witnessSignature := List.replicate 64 4 }
  { value := { result with stableHash := stableFencingGrantHash result }, valid := true }

def healthy (now : UInt64) (riskEpoch : UInt64 := 7) : DependencyHealth :=
  { observedProcessMonotonicTimeNs := now
    gatewaySessionEpoch := kExchangeEpoch
    riskServiceEpoch := riskEpoch
    gatewayConnected := true
    riskReady := true
    journalReady := true
    sharedMemoryCurrent := true
    peer :=
      { nodeId := 2
        processEpoch := 1
        heartbeatProcessMonotonicTimeNs := now
        state := .hotStandby
        observed := true } }

def evidence (token now : UInt64) (recovery : RecoveryStreamSnapshot) (riskEpoch : UInt64 := 7) :
    ReconciliationEvidence :=
  let result : ReconciliationEvidence :=
    { fencingToken := token
      exchangeSessionEpoch := kExchangeEpoch
      riskServiceEpoch := riskEpoch
      sourceJournalSequence := recovery.latestSourceJournalSequence
      sourceJournalHash := recovery.latestSourceJournalHash
      observedProcessMonotonicTimeNs := now
      omsReconciled := true
      gatewayReconciled := true
      positionsReconciled := true
      riskReconciled := true
      journalVerified := true }
  { result with stableHash := stableReconciliationEvidenceHash result }

def emission (token ordinal now : UInt64) : EmissionRequest :=
  let result : EmissionRequest :=
    { sessionId := kSession
      commandId := ⟨8, ordinal⟩
      commandHash := 9000
      exchangeSessionEpoch := kExchangeEpoch
      fencingToken := token
      processEpoch := 1
      sourceJournalSequence := ordinal
      sourceJournalHash := 10000 + ordinal
      processMonotonicTimeNs := now }
  { result with stableHash := stableEmissionRequestHash result }

def stream (token : UInt64) : BoundedRecoveryStream :=
  .construct
    { sessionId := kSession, exchangeSessionEpoch := kExchangeEpoch, fencingToken := token }

def node : EdgeHaCoordinator :=
  .construct (TestSupport.configuration) {} true

def exchange (token : UInt64) (call : Call) : Exchange :=
  { call, stream := stream token, published := true }

def firstEvidence (riskEpoch : UInt64) : ReconciliationEvidence :=
  evidence 10 1021 (stream 10).snapshot riskEpoch

/-- `Harness::activate`. -/
def activation (riskEpoch : UInt64) : List Exchange :=
  [exchange 0 (.start 1000), exchange 0 (.updateHealth (healthy 1010) (stream 0).snapshot),
    exchange 0 (.applyFencingGrant (TestSupport.grant 1 10 0 1 1011 5000) 1011),
    exchange 10 (.updateHealth (healthy 1020) (stream 10).snapshot),
    exchange 10 (.completeReconciliation (firstEvidence riskEpoch) (stream 10).snapshot)]

end Aegis.HighAvailability.TestSupport

import Aegis.Common.Identifiers

/-!
The configuration of the portfolio service (`risk/src/portfolio_types.cpp`).
-/

namespace Aegis.Portfolio

open Aegis.Common

def kPortfolioPpm : UInt32 := 1000000

def kMaximumPortfolioAccounts : Nat := 8

def kMaximumPortfolioStrategies : Nat := 32

def kMaximumPortfolioInstruments : Nat := 64

def kMaximumPortfolioSectors : UInt32 := 16

inductive Side where
  | buy | sell
  | unlisted (byte : UnlistedCode 1 2)
  deriving DecidableEq

structure InstrumentRiskReference where
  instrumentId : InstrumentId := {}
  tickValueCurrencyNanos : UInt64 := 0
  sectorIndex : UInt32 := 0
  betaPpm : Int32 := 0
  liquidityWeightPpm : UInt32 := kPortfolioPpm
  eventWeightPpm : UInt32 := kPortfolioPpm
  optionsGammaStressCurrencyNanos : Int64 := 0

structure PortfolioConfiguration where
  configurationVersion : ConfigurationVersion := {}
  sessionId : SessionId := {}
  accounts : List AccountId := []
  strategies : List StrategyId := []
  instruments : List InstrumentRiskReference := []
  sectorCount : UInt32 := 0
  requireDropCopyConfirmation : Bool := false
  stableHash : UInt64 := 0

def mixInstrument (hash : UInt64) (instrument : InstrumentRiskReference) : UInt64 := Id.run do
  let mut hash := hash
  hash := mixIdentifier hash instrument.instrumentId
  hash := mix hash instrument.tickValueCurrencyNanos
  hash := mix hash instrument.sectorIndex.toUInt64
  hash := mix hash instrument.betaPpm.toUInt32.toUInt64
  hash := mix hash instrument.liquidityWeightPpm.toUInt64
  hash := mix hash instrument.eventWeightPpm.toUInt64
  hash := mix hash instrument.optionsGammaStressCurrencyNanos.toUInt64
  return hash

def stableConfigurationHash (value : PortfolioConfiguration) : UInt64 := Id.run do
  let mut hash := kFnvOffset
  hash := mixIdentifier hash value.configurationVersion
  hash := mixIdentifier hash value.sessionId
  hash := mix hash (UInt64.ofNat value.accounts.length)
  hash := mix hash (UInt64.ofNat value.strategies.length)
  hash := mix hash (UInt64.ofNat value.instruments.length)
  hash := mix hash value.sectorCount.toUInt64
  hash := mix hash (if value.requireDropCopyConfirmation then 1 else 0)
  hash := value.accounts.foldl mixIdentifier hash
  hash := value.strategies.foldl mixIdentifier hash
  hash := value.instruments.foldl mixInstrument hash
  return nonzeroHash hash

/-- The checks on one instrument in `valid_configuration`. -/
def validInstrument (value : PortfolioConfiguration) (instrument : InstrumentRiskReference) :
    Bool :=
  instrument.instrumentId.valid && instrument.tickValueCurrencyNanos != 0 &&
    instrument.tickValueCurrencyNanos.toNat < 2 ^ 63 &&
    instrument.sectorIndex < value.sectorCount &&
    kPortfolioPpm ≤ instrument.liquidityWeightPpm &&
    instrument.eventWeightPpm ≤ 10 * kPortfolioPpm &&
    instrument.liquidityWeightPpm ≤ 10 * kPortfolioPpm &&
    -10 * kPortfolioPpm.toInt32 ≤ instrument.betaPpm &&
    instrument.betaPpm ≤ 10 * kPortfolioPpm.toInt32

/-- `valid_configuration`. -/
def validConfiguration (value : PortfolioConfiguration) : Bool :=
  value.configurationVersion.valid && value.sessionId.valid &&
    value.accounts.length != 0 && value.strategies.length != 0 &&
    value.instruments.length != 0 && value.sectorCount != 0 &&
    value.accounts.length ≤ kMaximumPortfolioAccounts &&
    value.strategies.length ≤ kMaximumPortfolioStrategies &&
    value.instruments.length ≤ kMaximumPortfolioInstruments &&
    value.sectorCount ≤ kMaximumPortfolioSectors &&
    value.accounts.all (·.valid) && decide value.accounts.Nodup &&
    value.strategies.all (·.valid) && decide value.strategies.Nodup &&
    value.instruments.all (validInstrument value) &&
    decide (value.instruments.map (·.instrumentId)).Nodup &&
    value.stableHash != 0 && stableConfigurationHash value == value.stableHash

/-- `find_instrument`, with the entry it finds. -/
def PortfolioConfiguration.findInstrument (value : PortfolioConfiguration)
    (instrumentId : InstrumentId) : Option InstrumentRiskReference :=
  value.instruments.find? (·.instrumentId == instrumentId)

theorem tickValue_ne_zero {value : PortfolioConfiguration} {instrumentId : InstrumentId}
    {instrument : InstrumentRiskReference} (valid : validConfiguration value)
    (found : value.findInstrument instrumentId = some instrument) :
    instrument.tickValueCurrencyNanos ≠ 0 := by
  simp only [validConfiguration, Bool.and_eq_true, List.all_eq_true] at valid
  have checked := valid.1.1.1.2 instrument (List.mem_of_find?_eq_some found)
  simp only [validInstrument, Bool.and_eq_true, bne_iff_ne, ne_eq] at checked
  exact checked.1.1.1.1.1.1.1.2

end Aegis.Portfolio

import Aegis.Execution.Router
import Mathlib.Algebra.Order.Floor.Div
import Mathlib.Data.Prod.Lex
import Mathlib.GroupTheory.GroupAction.Ring

/-!
The router sends an order to the first eligible venue by expected value, rank and identifier.
-/

namespace Aegis.Routing

open Aegis.Common Aegis.Foundation

variable {r : SmartOrderRouter} {configuration : RouterConfiguration} {request : RoutingRequest}
  {rule : VenueRoutingRule} {observation : VenueObservation} {slice quantity : UInt64}
  {selected : Candidate}

section

variable {left right divisor result : UInt64}

theorem ceilDiv_eq_div_add {dividend divisor : Nat} (positive : 0 < divisor) :
    dividend ⌈/⌉ divisor = dividend / divisor + if dividend % divisor = 0 then 0 else 1 := by
  have parts := Nat.div_add_mod' dividend divisor
  have small := Nat.mod_lt dividend positive
  rw [Nat.ceilDiv_eq_add_pred_div, Nat.div_eq_iff positive, Nat.add_mul]
  split <;> constructor <;> omega

theorem mod_eq_zero_iff : left % divisor = 0 ↔ left.toNat % divisor.toNat = 0 := by
  rw [← UInt64.toNat_inj, UInt64.toNat_mod]
  rfl

theorem toNat_of_multiplyDivideCeil
    (computed : multiplyDivideCeil left right divisor = some result) :
    result.toNat = left.toNat * right.toNat ⌈/⌉ divisor.toNat := by
  unfold multiplyDivideCeil at computed
  split at computed
  · cases computed
  next nonzero =>
  have positive := toNat_pos nonzero
  split at computed
  · cases computed
  next product productEq =>
  rw [← exactMul_eq_some_iff.mp productEq, ceilDiv_eq_div_add positive]
  split at computed
  · next even =>
    cases computed
    rw [if_pos (mod_eq_zero_iff.mp even), UInt64.toNat_div, Nat.add_zero]
  · next odd =>
    rw [if_neg (mt mod_eq_zero_iff.mpr odd), toNat_of_exactAdd computed, UInt64.toNat_div]
    rfl

end

theorem toNat_signedMagnitude (value : Int64) :
    ((signedMagnitude value).toNat : Int) = |value.toInt| := by
  unfold signedMagnitude
  have zero : Int64.toInt 0 = 0 := rfl
  split
  · next negative =>
    rw [Int64.lt_iff_toInt_lt, zero] at negative
    have word : value.toUInt64.toNat = value.toInt + 2 ^ 64 := by
      have cond := value.toBitVec.toInt_eq_toNat_cond
      have most := value.toBitVec.isLt
      change value.toInt = _ at cond
      change (value.toBitVec.toNat : Int) = _
      split at cond <;> omega
    have least := value.le_toInt
    rw [UInt64.toNat_sub, UInt64.toNat_zero, abs_of_neg negative]
    omega
  · next nonneg =>
    rw [Int64.lt_iff_toInt_lt, zero, not_lt] at nonneg
    rw [toNat_toUInt64 nonneg, abs_of_nonneg nonneg]

theorem absoluteDifferenceExceeds_eq_false {left right : Int64} {maximum : UInt32} :
    absoluteDifferenceExceeds left right maximum = false ↔
      |left.toInt - right.toInt| ≤ maximum.toNat := by
  unfold absoluteDifferenceExceeds
  cases subtracted : exactSubSigned left right with
  | none =>
    have unfit : ¬ Fits (left.toInt - right.toInt) := fun fits => by
      obtain ⟨difference, exactly⟩ := fits.exists_toInt_eq
      rw [exactSubSigned_eq_some_iff.mpr exactly] at subtracted
      cases subtracted
    have small := maximum.toNat_lt
    refine iff_of_false nofun fun close => unfit ?_
    rw [abs_le] at close
    unfold Fits
    omega
  | some difference =>
    rw [decide_eq_false_iff_not, UInt64.not_lt, UInt64.le_iff_toNat_le, UInt32.toNat_toUInt64,
      ← exactSubSigned_eq_some_iff.mp subtracted, ← toNat_signedMagnitude]
    norm_cast

/-- A quote was observed, not long ago. -/
def Recent (configuration : RouterConfiguration) (now observed : UInt64) : Prop :=
  observed ≤ now ∧ now.toNat ≤ observed.toNat + configuration.maximumQuoteAgeNs.toNat ∧
    observed.toNat + configuration.maximumQuoteAgeNs.toNat < 2 ^ 64

theorem fresh_iff {now observed : UInt64} :
    fresh configuration now observed ↔ Recent configuration now observed := by
  unfold fresh Recent exactAdd
  simp only [Bool.and_eq_true, decide_eq_true_eq, UInt64.le_iff_toNat_le]
  by_cases fits : observed.toNat + configuration.maximumQuoteAgeNs.toNat < 2 ^ 64
  · rw [if_pos fits, decide_eq_true_eq, UInt64.toNat_add]
    omega
  · rw [if_neg fits]
    exact iff_of_false (by simp) fun recent => fits recent.2.2

/-- The documented conditions on a venue that do not depend on the quantity, in their order. -/
@[mk_iff]
structure Admits (configuration : RouterConfiguration) (request : RoutingRequest)
    (rule : VenueRoutingRule) (observation : VenueObservation) : Prop where
  policy : rule.allowedPolicyMask &&& policyBit request.objective.policy ≠ 0
  auction : request.objective.policy = .auctionParticipation → rule.allowAuction = true
  unvisited : observation.venueId ∉ request.visitedVenues
  regulatory : rule.regulatoryAuthorized = true ∧ observation.regulatoryEligible = true
  selfTrade : rule.requireSelfTradeClear = true → observation.selfTradePrevention = .clear
  trading : observation.tradingState =
    if request.objective.policy = .auctionParticipation then .auction else .open_
  quoted : observation.quoteValid = true
  consolidated : Recent configuration request.nowProcessMonotonicTimeNs
    request.consolidatedQuote.observedProcessMonotonicTimeNs
  direct : Recent configuration request.nowProcessMonotonicTimeNs
    observation.observedProcessMonotonicTimeNs
  latency : observation.venueLatencyNs ≤ configuration.maximumRouteLatencyNs
  bid : observation.venueId = request.consolidatedQuote.bestBidVenueId →
    |observation.bidPriceTicks.toInt - request.consolidatedQuote.bestBidPriceTicks.toInt| ≤
      configuration.maximumDirectConsolidatedDivergenceTicks.toNat
  ask : observation.venueId = request.consolidatedQuote.bestAskVenueId →
    |observation.askPriceTicks.toInt - request.consolidatedQuote.bestAskPriceTicks.toInt| ≤
      configuration.maximumDirectConsolidatedDivergenceTicks.toNat
  rejects : observation.rejectRatePpm ≤ configuration.maximumRejectRatePpm
  likely : configuration.minimumFillProbabilityPpm ≤ observation.fillProbabilityPpm
  working : request.objective.policy = .cancelReplace →
    observation.venueId = request.workingOrder.venueId

theorem exclusion_eq_none_iff : exclusion configuration request rule observation = none ↔
    Admits configuration request rule observation := by
  simp only [exclusion, Option.map_eq_none_iff, List.find?_eq_none, exclusionChecks, visited,
    quoteConflicts, List.forall_mem_cons, List.not_mem_nil, false_implies, implies_true,
    Bool.not_eq_true, Bool.or_eq_false_iff, Bool.and_eq_false_imp, beq_eq_false_iff_ne,
    bne_eq_false_iff_eq, beq_iff_eq, Bool.not_eq_false', fresh_iff, decide_eq_false_iff_not,
    UInt64.not_lt, UInt32.not_lt, absoluteDifferenceExceeds_eq_false, List.contains_eq_mem,
    admits_iff, and_assoc, and_true]

/-- The value that decides between venues, least where only a protective cancel is left. -/
def expectedValue (request : RoutingRequest) (configuration : RouterConfiguration)
    (observation : VenueObservation) (quantity : UInt64) : Int64 :=
  let passive := passivePolicy request.objective.policy
  if (proposedPrice request.objective observation passive).isSome then
    (valueAt request configuration observation quantity
      passive).expectedValueCurrencyNanosPerUnit
  else Int64.minValue + 1

/-- The conditions on a venue: the rule admits it, the concentration has capacity, the policy has
a price within the limit, and the arithmetic of quantity and value does not overflow. -/
structure Eligible (configuration : RouterConfiguration) (request : RoutingRequest)
    (slice : UInt64) (rule : VenueRoutingRule) (observation : VenueObservation)
    (quantity : UInt64) : Prop where
  enabled : rule.enabled = true
  admits : Admits configuration request rule observation
  capacity : observation.alreadyRoutedQuantityUnits.toNat * 1000000 <
    request.objective.totalQuantityUnits.toNat * rule.maximumConcentrationPpm.toNat
  proposed : proposedQuantity request rule observation slice = .ok quantity
  price : request.objective.policy = .cancelReplace ∨ ∃ price,
    policyPrice request.objective observation (passivePolicy request.objective.policy) =
        some price ∧ 0 < price ∧
      if request.objective.side = .buy then price ≤ request.objective.limitPriceTicks
      else request.objective.limitPriceTicks ≤ price
  passive : passivePolicy request.objective.policy = true →
    (proposedPrice request.objective observation true).isSome = true →
      (valueAt request configuration observation quantity true).valid = true
  aggressive : aggressivePolicy request.objective.policy = true ∨
    request.objective.policy = .auctionParticipation →
      (valueAt request configuration observation quantity false).valid = true

theorem proposedQuantity_inv
    (proposed : proposedQuantity request rule observation slice = .ok quantity) :
    ∃ limit : UInt64, limit.toNat = request.objective.totalQuantityUnits.toNat *
        rule.maximumConcentrationPpm.toNat ⌈/⌉ 1000000 ∧
      observation.alreadyRoutedQuantityUnits < limit ∧
      withinAuction request observation (min (min slice rule.maximumChildQuantityUnits)
        (limit - observation.alreadyRoutedQuantityUnits)) = some quantity := by
  unfold proposedQuantity at proposed
  split at proposed
  · cases proposed
  next limit computed =>
  split at proposed
  · cases proposed
  next room =>
  refine ⟨limit, toNat_of_multiplyDivideCeil computed, UInt64.not_le.mp room, ?_⟩
  split at proposed
  · cases proposed
  next within =>
  split at proposed
  · cases proposed
  · cases proposed
    exact within

theorem capacity_of_proposed
    (proposed : proposedQuantity request rule observation slice = .ok quantity) :
    observation.alreadyRoutedQuantityUnits.toNat * 1000000 <
      request.objective.totalQuantityUnits.toNat * rule.maximumConcentrationPpm.toNat := by
  obtain ⟨limit, ceiling, room, -⟩ := proposedQuantity_inv proposed
  rw [UInt64.lt_iff_toNat_lt, ceiling, ← not_le, ceilDiv_le_iff_le_smul (by norm_num)] at room
  rw [mul_comm]
  exact not_le.mp room

section

variable {explanation : VenueScoreExplanation}

theorem scoreVenue_eligible_iff :
    let price := proposedPrice request.objective observation
      (passivePolicy request.objective.policy)
    (scoreVenue request configuration observation quantity explanation).eligibility = .eligible ↔
      (request.objective.policy = .cancelReplace ∨ price.isSome) ∧
        (passivePolicy request.objective.policy → price.isSome →
          (valueAt request configuration observation quantity true).valid) ∧
        (aggressivePolicy request.objective.policy ∨
          request.objective.policy = .auctionParticipation →
            (valueAt request configuration observation quantity false).valid) := by
  intro price
  unfold scoreVenue
  dsimp only
  change (if price = none ∧ _ then _ else _ : VenueScoreExplanation).eligibility = _ ↔ _
  split
  · next unpriced => simp [unpriced]
  · next priced =>
    have priced : request.objective.policy = .cancelReplace ∨ price.isSome := by
      rw [Option.isSome_iff_ne_none]
      tauto
    split
    · next overflow =>
      refine iff_of_false nofun fun ⟨_, passive, aggressive⟩ => ?_
      simp only [Bool.not_eq_true'] at overflow
      grind
    · next exact' =>
      simp only [Bool.not_eq_true', not_or, not_and, Bool.not_eq_false] at exact'
      refine iff_of_true rfl ⟨priced, fun passive some => ?_, ?_⟩
      · grind
      · grind

theorem scoreVenue_spec (eligible :
      (scoreVenue request configuration observation quantity explanation).eligibility =
        .eligible) :
    let score := scoreVenue request configuration observation quantity explanation
    score.proposedQuantityUnits = quantity ∧ score.venueId = explanation.venueId ∧
      score.tieBreakRank = explanation.tieBreakRank ∧
      score.proposedPriceTicks = (proposedPrice request.objective observation
        (passivePolicy request.objective.policy)).getD request.workingOrder.priceTicks ∧
      score.selectedExpectedValueCurrencyNanosPerUnit =
        expectedValue request configuration observation quantity := by
  unfold scoreVenue expectedValue at *
  dsimp only at eligible ⊢
  split at eligible
  · cases eligible
  next priced =>
  rw [if_neg priced]
  split at eligible
  · cases eligible
  · rw [if_neg (by assumption)]
    refine ⟨rfl, rfl, rfl, rfl, ?_⟩
    cases passivePolicy request.objective.policy <;> rfl

end

theorem proposedQuantity_ne_eligible :
    proposedQuantity request rule observation slice ≠ .error .eligible := by
  unfold proposedQuantity
  repeat' split
  all_goals exact fun same => by cases same

theorem exclusion_ne_eligible :
    exclusion configuration request rule observation ≠ some .eligible := by
  intro excluded
  obtain ⟨⟨_, reason⟩, found, rfl⟩ := Option.map_eq_some_iff.mp excluded
  have mem := List.mem_of_find?_eq_some found
  simp [exclusionChecks] at mem

theorem proposedPrice_eq_some_iff {objective : ExecutionObjective} {passive : Bool}
    {price : Int64} : proposedPrice objective observation passive = some price ↔
      policyPrice objective observation passive = some price ∧ 0 < price ∧
        if objective.side = .buy then price ≤ objective.limitPriceTicks
        else objective.limitPriceTicks ≤ price := by
  rw [proposedPrice, Option.filter_eq_some_iff, Bool.and_eq_true, decide_eq_true_eq]
  split <;> simp [*]

theorem eligible_of_explainVenue
    (eligible : (explainVenue configuration request slice observation).eligibility = .eligible) :
    ∃ rule quantity, findRule configuration observation.venueId = some rule ∧
      Eligible configuration request slice rule observation quantity := by
  unfold explainVenue at eligible
  split at eligible
  · cases eligible
  next rule found =>
  obtain ⟨known, enabled⟩ := Option.filter_eq_some_iff.mp found
  split at eligible
  · next reason excluded =>
    cases eligible
    exact absurd excluded exclusion_ne_eligible
  next passed =>
  split at eligible
  · next reason refused =>
    cases eligible
    exact absurd refused proposedQuantity_ne_eligible
  · next quantity proposed =>
    obtain ⟨priced, passive, aggressive⟩ := scoreVenue_eligible_iff.mp eligible
    refine ⟨rule, quantity, known, enabled, exclusion_eq_none_iff.mp passed,
      capacity_of_proposed proposed, proposed, priced.imp_right fun some => ?_,
      fun policy => policy ▸ passive policy, aggressive⟩
    obtain ⟨price, offered⟩ := Option.isSome_iff_exists.mp some
    exact ⟨price, proposedPrice_eq_some_iff.mp offered⟩

/-- What the loop records of an eligible venue. -/
theorem Eligible.explainVenue
    (known : findRule configuration observation.venueId = some rule)
    (eligible : Eligible configuration request slice rule observation quantity) :
    let explained := explainVenue configuration request slice observation
    explained.eligibility = .eligible ∧ explained.proposedQuantityUnits = quantity ∧
      explained.venueId = observation.venueId ∧ explained.tieBreakRank = rule.tieBreakRank ∧
      explained.proposedPriceTicks = (proposedPrice request.objective observation
        (passivePolicy request.objective.policy)).getD request.workingOrder.priceTicks ∧
      explained.selectedExpectedValueCurrencyNanosPerUnit =
        expectedValue request configuration observation quantity := by
  unfold Routing.explainVenue
  rw [known, Option.filter_some, if_pos eligible.enabled]
  dsimp only
  rw [exclusion_eq_none_iff.mpr eligible.admits]
  dsimp only
  rw [eligible.proposed]
  dsimp only
  have scored {explanation : VenueScoreExplanation} : (scoreVenue request configuration observation
      quantity explanation).eligibility = .eligible := by
    refine scoreVenue_eligible_iff.mpr ⟨eligible.price.imp_right fun ⟨price, offered⟩ => ?_,
      fun policy => policy ▸ eligible.passive policy, eligible.aggressive⟩
    exact Option.isSome_iff_exists.mpr ⟨price, proposedPrice_eq_some_iff.mpr offered⟩
  exact ⟨scored, scoreVenue_spec scored⟩

theorem explainVenue_eligible_iff :
    (explainVenue configuration request slice observation).eligibility = .eligible ↔
      ∃ rule quantity, findRule configuration observation.venueId = some rule ∧
        Eligible configuration request slice rule observation quantity :=
  ⟨eligible_of_explainVenue, fun ⟨_, _, known, eligible⟩ => (eligible.explainVenue known).1⟩

theorem proposedPrice_passive {objective : ExecutionObjective} {price : Int64}
    (proposed : proposedPrice objective observation true = some price)
    (policy : objective.policy ≠ .auctionParticipation) (bid : 0 < observation.bidPriceTicks)
    (quote : observation.bidPriceTicks < observation.askPriceTicks) :
    if objective.side = .buy then price < observation.askPriceTicks
      else observation.bidPriceTicks < price := by
  obtain ⟨computed, -⟩ := Option.filter_eq_some_iff.mp proposed
  unfold policyPrice at computed
  rw [if_neg policy, if_neg (by simp)] at computed
  have inside := fits_toInt observation.askPriceTicks
  have zero : Int64.toInt 0 = 0 := rfl
  have one : Int64.toInt 1 = 1 := rfl
  unfold Fits at inside
  rw [Int64.lt_iff_toInt_lt] at bid
  have ordered := Int64.lt_iff_toInt_lt.mp quote
  have lower : (observation.askPriceTicks - 1).toInt = observation.askPriceTicks.toInt - 1 :=
    Fits.toInt_sub (by unfold Fits; omega)
  have upper : (observation.bidPriceTicks + 1).toInt = observation.bidPriceTicks.toInt + 1 :=
    Fits.toInt_add (by unfold Fits; omega)
  split at computed
  · -- One tick better than the own side, but short of the other one.
    split at computed
    all_goals
      obtain ⟨next, -, rfl⟩ := Option.map_eq_some_iff.mp computed
    · rw [if_pos (by assumption)]
      exact Int64.lt_of_le_of_lt Std.min_le_right (Int64.lt_iff_toInt_lt.mpr (by omega))
    · rw [if_neg (by assumption)]
      show _ < (if _ then _ else _)
      split
      · exact Int64.lt_iff_toInt_lt.mpr (by omega)
      · next more =>
        rw [Int64.le_iff_toInt_le] at more
        exact Int64.lt_iff_toInt_lt.mpr (by omega)
  · cases computed
    split
    all_goals exact quote

theorem quote_of_listed (valid : validRoutingRequest request)
    (inside : observation ∈ request.venues) (quoted : observation.quoteValid) :
    0 < observation.bidPriceTicks ∧ observation.bidPriceTicks < observation.askPriceTicks := by
  simp only [validRoutingRequest, Bool.and_eq_true, List.all_eq_true] at valid
  have observed := (valid.1.1.2 observation inside).1
  simp only [validVenueObservation, quoted, Bool.and_eq_true, Bool.not_true, Bool.false_or,
    decide_eq_true_eq] at observed
  exact observed.2.1.1.1.1

/-- A higher value, then a lower rank, then a lower identifier comes first. -/
def venueRank (value : Int64) (tieBreakRank : UInt16) (venueId : VenueId) :
    Int ×ₗ Nat ×ₗ Nat ×ₗ Nat :=
  toLex (-value.toInt, toLex (tieBreakRank.toNat, toLex (venueId.high.toNat, venueId.low.toNat)))

def Candidate.rank (candidate : Candidate) : Int ×ₗ Nat ×ₗ Nat ×ₗ Nat :=
  venueRank candidate.explanation.selectedExpectedValueCurrencyNanosPerUnit
    candidate.explanation.tieBreakRank candidate.explanation.venueId

theorem betterScore_iff {candidate current : Candidate} :
    betterScore candidate.explanation current.explanation = true ↔
      candidate.rank < current.rank := by
  unfold betterScore venueBefore Candidate.rank venueRank
  simp only [Prod.Lex.toLex_lt_toLex, Int.neg_lt_neg_iff, Int.neg_inj, Int64.toInt_inj,
    UInt16.toNat_inj, UInt64.toNat_inj, ← Int64.lt_iff_toInt_lt, ← UInt16.lt_iff_toNat_lt,
    ← UInt64.lt_iff_toNat_lt]
  split
  · simp [*]
  split
  · simp_all
  · simp_all

theorem consider_cases {selected : Option Candidate} {candidate one : Candidate}
    (considered : consider selected candidate = some one) :
    selected = some one ∨ (candidate = one ∧ one.explanation.eligibility = .eligible) := by
  unfold consider at considered
  split at considered
  · exact .inl considered
  next eligible =>
  rw [not_not] at eligible
  split at considered
  · cases considered
    exact .inr ⟨rfl, eligible⟩
  · split at considered
    · cases considered
      exact .inr ⟨rfl, eligible⟩
    · exact .inl considered

theorem select_mem {candidates : List Candidate} (chosen : select candidates = some selected) :
    selected ∈ candidates ∧ selected.explanation.eligibility = .eligible := by
  have along : ∀ one, select candidates = some one →
      one ∈ candidates ∧ one.explanation.eligibility = .eligible := by
    refine List.foldlRecOn (motive := fun sofar => ∀ one, sofar = some one →
      one ∈ candidates ∧ one.explanation.eligibility = .eligible) candidates consider ?_ ?_
    · intro one nothing
      cases nothing
    · intro sofar known candidate inside one considered
      rcases consider_cases considered with kept | ⟨rfl, eligible⟩
      · exact known one kept
      · exact ⟨inside, eligible⟩
  exact along selected chosen

theorem consider_some (current candidate : Candidate) :
    ∃ one, consider (some current) candidate = some one ∧ one.rank ≤ current.rank := by
  unfold consider
  split
  · exact ⟨current, rfl, le_rfl⟩
  dsimp only
  split
  · next better => exact ⟨candidate, rfl, (betterScore_iff.mp better).le⟩
  · exact ⟨current, rfl, le_rfl⟩

theorem consider_eligible (selected : Option Candidate) {candidate : Candidate}
    (eligible : candidate.explanation.eligibility = .eligible) :
    ∃ one, consider selected candidate = some one ∧ one.rank ≤ candidate.rank := by
  unfold consider
  rw [if_neg (not_not.mpr eligible)]
  split
  · exact ⟨candidate, rfl, le_rfl⟩
  split
  · exact ⟨candidate, rfl, le_rfl⟩
  · next current worse => exact ⟨current, rfl, not_lt.mp (mt betterScore_iff.mpr worse)⟩

/-- The loop selects the first candidate by `better_score`. -/
theorem select_best {candidates : List Candidate} {candidate : Candidate}
    (mem : candidate ∈ candidates) (eligible : candidate.explanation.eligibility = .eligible) :
    ∃ selected, select candidates = some selected ∧ selected.rank ≤ candidate.rank := by
  induction candidates using List.reverseRecOn with
  | nil => cases mem
  | append_singleton rest last ih =>
    have fold : select (rest ++ [last]) = consider (select rest) last := List.foldl_concat ..
    rw [fold]
    rcases List.mem_append.mp mem with mem | mem
    · obtain ⟨current, found, least⟩ := ih mem
      obtain ⟨one, considered, less⟩ := consider_some current last
      exact ⟨one, by rw [found, considered], less.trans least⟩
    · cases List.mem_singleton.mp mem
      exact consider_eligible _ eligible

theorem venueId_of_rank {left right : Candidate} (same : left.rank = right.rank) :
    left.explanation.venueId = right.explanation.venueId := by
  simp only [Candidate.rank, venueRank, toLex_inj, Prod.mk.injEq, UInt64.toNat_inj] at same
  exact Identifier128.ext same.2.2.1 same.2.2.2

theorem decideVenue_kept {decision : RoutingDecision}
    (routed : (decideVenue configuration request decision selected).status = .routed)
    (kept : (decideVenue configuration request decision selected).action ≠ .cancel) :
    let decided := decideVenue configuration request decision selected
    decided.venueId = selected.explanation.venueId ∧
      decided.quantityUnits = selected.explanation.proposedQuantityUnits ∧
      decided.priceTicks = selected.explanation.proposedPriceTicks ∧
      decided.expectedValueCurrencyNanosPerUnit =
        selected.explanation.selectedExpectedValueCurrencyNanosPerUnit ∧
      (request.objective.policy = .cancelReplace →
        selected.explanation.proposedPriceTicks ≠ request.workingOrder.priceTicks) := by
  unfold decideVenue at routed kept ⊢
  split at routed
  · next amends =>
    rw [if_pos amends] at kept ⊢
    unfold amendWorkingOrder at routed kept ⊢
    split at routed
    · cases routed
    rw [if_neg (by assumption)] at kept ⊢
    split at kept
    · next moved =>
      rw [if_pos moved]
      exact ⟨rfl, rfl, rfl, rfl, fun _ => moved⟩
    · exact absurd rfl kept
  · next other =>
    rw [if_neg other]
    exact ⟨rfl, rfl, rfl, rfl, fun amends => absurd amends other⟩

section

variable {venues : List VenueObservation} {stableHash : UInt64}

theorem explainVenue_listing : explainVenue configuration { request with venues, stableHash } =
    explainVenue configuration request := by
  have gross : grossValue { request with venues, stableHash } = grossValue request := rfl
  have value : valueAt { request with venues, stableHash } = valueAt request := by
    unfold valueAt calculateValue
    rw [gross]
  have score : scoreVenue { request with venues, stableHash } = scoreVenue request := by
    unfold scoreVenue
    rw [value]
  unfold explainVenue
  rw [score]
  rfl

theorem select_perm (same : venues.Perm request.venues)
    (distinct : (request.venues.map (·.venueId)).Nodup) :
    select (candidates configuration { request with venues, stableHash } slice) =
      select (candidates configuration request slice) := by
  have mem : ∀ candidate, candidate ∈
      candidates configuration { request with venues, stableHash } slice ↔
        candidate ∈ candidates configuration request slice := by
    unfold candidates
    rw [explainVenue_listing]
    exact fun candidate => (same.map _).mem_iff
  cases chosen : select (candidates configuration request slice) with
  | none =>
    refine Option.eq_none_iff_forall_ne_some.mpr fun one other => ?_
    obtain ⟨inside, eligible⟩ := select_mem other
    obtain ⟨best, found, -⟩ := select_best ((mem one).mp inside) eligible
    cases chosen.symm.trans found
  | some selected =>
    obtain ⟨inside, eligible⟩ := select_mem chosen
    obtain ⟨one, found, least⟩ := select_best ((mem selected).mpr inside) eligible
    obtain ⟨inside', eligible'⟩ := select_mem found
    rw [mem] at inside'
    obtain ⟨best, again, less⟩ := select_best inside' eligible'
    cases chosen.symm.trans again
    have named := venueId_of_rank (le_antisymm least less)
    obtain ⟨observation, listed, rfl⟩ := List.mem_map.mp inside
    obtain ⟨observation', listed', rfl⟩ := List.mem_map.mp inside'
    obtain ⟨_, _, known, suits⟩ := eligible_of_explainVenue eligible
    obtain ⟨_, _, known', suits'⟩ := eligible_of_explainVenue eligible'
    rw [(suits.explainVenue known).2.2.1, (suits'.explainVenue known').2.2.1] at named
    cases List.inj_on_of_nodup_map distinct listed' listed named
    exact found

def RoutingDecision.choice (decision : RoutingDecision) :
    RoutingStatus × VenueId × Int64 × UInt64 × RoutedAction × Int64 :=
  (decision.status, decision.venueId, decision.priceTicks, decision.quantityUnits, decision.action,
    decision.expectedValueCurrencyNanosPerUnit)

theorem choice_decideVenue (decision decision' : RoutingDecision) :
    (decideVenue configuration request decision selected).choice =
      (decideVenue configuration request decision' selected).choice := by
  unfold decideVenue amendWorkingOrder
  dsimp only [selectedFields]
  repeat' split
  all_goals rfl

theorem choice_routeSlice (same : venues.Perm request.venues)
    (distinct : (request.venues.map (·.venueId)).Nodup) :
    (routeSlice configuration { request with venues, stableHash } slice).choice =
      (routeSlice configuration request slice).choice := by
  have decided : decideVenue configuration { request with venues, stableHash } =
    decideVenue configuration request := rfl
  unfold routeSlice
  dsimp only
  rw [select_perm same distinct, decided]
  cases select (candidates configuration request slice) with
  | none =>
    generalize candidates configuration { request with venues, stableHash } slice = explained
    generalize candidates configuration request slice = listed
    rfl
  | some selected => exact choice_decideVenue _ _

theorem SmartOrderRouter.choice_route (valid : validRoutingRequest request)
    (same : venues.Perm request.venues)
    (valid' : validRoutingRequest { request with venues, stableHash }) :
    (r.route { request with venues, stableHash }).2.choice = (r.route request).2.choice := by
  have distinct : (request.venues.map (·.venueId)).Nodup := by
    simp only [validRoutingRequest, Bool.and_eq_true, decide_eq_true_eq] at valid
    exact valid.1.2
  have sliced : computeSlice { request with venues, stableHash } = computeSlice request := rfl
  have refused : ∀ status reason, (baseDecision { request with venues, stableHash }
      r.configuration status reason).choice =
        (baseDecision request r.configuration status reason).choice := fun _ _ => rfl
  have routed : ∀ slice, (routeSlice r.configuration { request with venues, stableHash }
      slice).sealed.choice = (routeSlice r.configuration request slice).sealed.choice :=
    fun slice => choice_routeSlice same distinct
  unfold route
  simp only [apply_ite Prod.snd, apply_ite RoutingDecision.choice, valid, valid', sliced, refused,
    routed]

end

/-- What is known of the venue of a routed order. -/
structure Chosen (configuration : RouterConfiguration) (request : RoutingRequest)
    (decision : RoutingDecision) (observation : VenueObservation) (rule : VenueRoutingRule) :
    Prop where
  listed : observation ∈ request.venues
  venueId : decision.venueId = observation.venueId
  known : findRule configuration observation.venueId = some rule
  eligible : Eligible configuration request (computeSlice request).quantityUnits rule observation
    decision.quantityUnits
  price : proposedPrice request.objective observation (passivePolicy request.objective.policy) =
    some decision.priceTicks
  value : decision.expectedValueCurrencyNanosPerUnit =
    expectedValue request configuration observation decision.quantityUnits
  best : ∀ other ∈ request.venues, ∀ otherRule quantity,
    findRule configuration other.venueId = some otherRule →
    Eligible configuration request (computeSlice request).quantityUnits otherRule other quantity →
      venueRank decision.expectedValueCurrencyNanosPerUnit rule.tieBreakRank observation.venueId ≤
        venueRank (expectedValue request configuration other quantity) otherRule.tieBreakRank
          other.venueId

theorem SmartOrderRouter.route_chosen (routed : (r.route request).2.status = .routed)
    (kept : (r.route request).2.action ≠ .cancel) :
    validRoutingRequest request = true ∧ (computeSlice request).due = true ∧
      ∃ observation rule, Chosen r.configuration request (r.route request).2 observation rule := by
  unfold route at routed kept ⊢
  split at routed
  · cases routed
  rw [if_neg (by assumption)] at kept ⊢
  split at routed
  · cases routed
  rw [if_neg (by assumption)] at kept ⊢
  split at routed
  · cases routed
  next valid =>
  rw [if_neg valid] at kept ⊢
  split at routed
  · cases routed
  rw [if_neg (by assumption)] at kept ⊢
  split at routed
  · cases routed
  next due =>
  rw [if_neg due] at kept ⊢
  simp only [Bool.or_eq_true, Bool.not_eq_true', bne_iff_ne, not_or, Bool.not_eq_false,
    not_not] at valid due
  refine ⟨valid.1, due, ?_⟩
  simp only [RoutingDecision.sealed] at routed kept ⊢
  unfold routeSlice at routed kept ⊢
  dsimp only at routed kept ⊢
  split at routed
  · cases routed
  next selected chosen =>
  rw [chosen] at kept
  obtain ⟨mem, eligible⟩ := select_mem chosen
  obtain ⟨observation, inside, rfl⟩ := List.mem_map.mp mem
  obtain ⟨named, taken, priced, valued, moved⟩ := decideVenue_kept routed kept
  obtain ⟨rule, quantity, known, suits⟩ := eligible_of_explainVenue eligible
  obtain ⟨-, same, venue, rank, price, value⟩ := suits.explainVenue known
  rw [same] at taken
  refine ⟨observation, rule, inside, named.trans venue, known, taken ▸ suits, ?_,
    by rw [valued, value, taken], fun other listed otherRule amount found fits => ?_⟩
  · dsimp only at moved priced
    rw [price] at moved priced
    dsimp only
    rw [priced]
    cases offered : proposedPrice request.objective observation
        (passivePolicy request.objective.policy) with
    | none =>
      rw [offered] at moved
      have fallback := suits.price.resolve_right fun ⟨price, offer⟩ => by
        rw [proposedPrice_eq_some_iff.mpr offer] at offered
        cases offered
      exact absurd rfl (moved fallback)
    | some offer => rfl
  · obtain ⟨eligible', -, venue', rank', -, value'⟩ := fits.explainVenue found
    obtain ⟨best, again, least⟩ := @select_best (candidates r.configuration request _) _
      (List.mem_map_of_mem listed) eligible'
    cases chosen.symm.trans again
    unfold Candidate.rank at least
    rw [venue', rank', value', venue, rank] at least
    exact valued ▸ least

/-- A routed order has a positive price within the limit, on the passive side under a passive
policy; its venue meets every condition and is the best of those that do; and the listing of the
venues does not matter. -/
theorem SmartOrderRouter.routes_best (valid : validRoutingRequest request = true) :
    ((r.route request).2.status = .routed → (r.route request).2.action ≠ .cancel →
      let decision := (r.route request).2
      0 < decision.priceTicks ∧
      (if request.objective.side = .buy then decision.priceTicks ≤ request.objective.limitPriceTicks
        else request.objective.limitPriceTicks ≤ decision.priceTicks) ∧
      ∃ observation rule, Chosen r.configuration request decision observation rule ∧
        (passivePolicy request.objective.policy = true →
          if request.objective.side = .buy then decision.priceTicks < observation.askPriceTicks
          else observation.bidPriceTicks < decision.priceTicks)) ∧
    (∀ slice observation,
      (explainVenue r.configuration request slice observation).eligibility = .eligible ↔
        ∃ rule quantity, findRule r.configuration observation.venueId = some rule ∧
          Eligible r.configuration request slice rule observation quantity) ∧
    ∀ venues stableHash, venues.Perm request.venues →
      validRoutingRequest { request with venues, stableHash } = true →
        (r.route { request with venues, stableHash }).2.choice = (r.route request).2.choice := by
  refine ⟨fun routed kept => ?_, fun _ _ => explainVenue_eligible_iff,
    fun venues stableHash same => choice_route valid same⟩
  obtain ⟨-, -, observation, rule, chosen⟩ := route_chosen routed kept
  obtain ⟨-, positive, limited⟩ := proposedPrice_eq_some_iff.mp chosen.price
  refine ⟨positive, limited, observation, rule, chosen, fun passive => ?_⟩
  obtain ⟨bid, quote⟩ := quote_of_listed valid chosen.listed chosen.eligible.admits.quoted
  have price := chosen.price
  rw [passive] at price
  refine proposedPrice_passive price ?_ bid quote
  intro auction
  rw [auction] at passive
  cases passive

def routerOf (venues : List VenueRoutingRule) : RouterConfiguration :=
  let configuration : RouterConfiguration :=
    { configurationVersion := ⟨1, 1⟩
      maximumQuoteAgeNs := 1000
      maximumRouteLatencyNs := 1000
      maximumRejectRatePpm := kRouterPartsPerMillion
      maximumRouteAttempts := 1
      venues }
  { configuration with stableHash := stableRouterConfigurationHash configuration }

def openRule : VenueRoutingRule :=
  { venueId := ⟨1, 1⟩, allowedPolicyMask := kAllPolicies, maximumChildQuantityUnits := 100
    enabled := true, regulatoryAuthorized := true }

def oneVenue : RouterConfiguration :=
  routerOf [openRule]

/-- A venue with the given fee. -/
def venueAt (venueId : VenueId) (fee : Int64) : VenueObservation :=
  let observation : VenueObservation :=
    { venueId
      instrumentId := ⟨2, 1⟩
      tradingState := .open_
      selfTradePrevention := .clear
      bidPriceTicks := 100
      askPriceTicks := 101
      bidQuantityUnits := 100
      askQuantityUnits := 100
      makerFeeCurrencyNanosPerUnit := fee
      observedProcessMonotonicTimeNs := 10
      fillProbabilityPpm := kRouterPartsPerMillion
      quoteValid := true
      regulatoryEligible := true }
  { observation with stableHash := stableVenueObservationHash observation }

def openVenue : VenueObservation :=
  venueAt ⟨1, 1⟩ 0

def openQuote : ConsolidatedQuote :=
  let quote : ConsolidatedQuote :=
    { bestBidVenueId := ⟨1, 1⟩
      bestAskVenueId := ⟨1, 1⟩
      bestBidPriceTicks := 100
      bestAskPriceTicks := 101
      observedProcessMonotonicTimeNs := 10
      valid := true }
  { quote with stableHash := stableConsolidatedQuoteHash quote }

/-- A request to buy ten units. -/
def buyTen (policy : ExecutionPolicy) (child filled scheduled : UInt64)
    (venues : List VenueObservation := [openVenue]) : RoutingRequest :=
  let objective : ExecutionObjective :=
    { objectiveId := ⟨3, 1⟩
      sessionId := ⟨4, 1⟩
      accountId := ⟨5, 1⟩
      strategyId := ⟨6, 1⟩
      instrumentId := ⟨2, 1⟩
      sourceForecastId := ⟨7, 1⟩
      featureSnapshotId := ⟨8, 1⟩
      configurationVersion := ⟨1, 1⟩
      policy
      limitPriceTicks := 200
      totalQuantityUnits := 10
      filledQuantityUnits := filled
      maximumChildQuantityUnits := child
      startProcessMonotonicTimeNs := 1
      endProcessMonotonicTimeNs := 100
      alphaHalfLifeNs := 1000
      tickValueCurrencyNanos := 1 }
  let request : RoutingRequest :=
    { objective := { objective with stableHash := stableExecutionObjectiveHash objective }
      consolidatedQuote := openQuote
      venues
      nowProcessMonotonicTimeNs := 20
      alreadyScheduledQuantityUnits := scheduled }
  { request with stableHash := stableRoutingRequestHash request }

set_option maxRecDepth 20000 in
/-- The second venue has the lower fee. -/
theorem SmartOrderRouter.routes_best_of_two :
    let r := construct (routerOf [openRule, { openRule with venueId := ⟨1, 2⟩ }])
    let request := buyTen .passiveJoin 4 0 0 [venueAt ⟨1, 1⟩ 5, venueAt ⟨1, 2⟩ 3]
    let decision := (r.route request).2
    decision.venueId = ⟨1, 2⟩ ∧ decision.priceTicks ≤ 200 ∧
      ∃ observation rule, Chosen r.configuration request decision observation rule ∧
        decision.priceTicks < observation.askPriceTicks := by
  obtain ⟨-, limited, observation, rule, chosen, passive⟩ := (@routes_best
    (construct (routerOf [openRule, { openRule with venueId := ⟨1, 2⟩ }]))
    (buyTen .passiveJoin 4 0 0 [venueAt ⟨1, 1⟩ 5, venueAt ⟨1, 2⟩ 3]) (by decide)).1 (by decide)
    (by decide)
  exact ⟨by decide, limited, observation, rule, chosen, passive rfl⟩

end Aegis.Routing

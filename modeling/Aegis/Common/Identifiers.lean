import Mathlib.Data.UInt

/-!
The 128-bit identifiers of `aegis/common/identifiers.hpp` and the FNV-1a mixing behind every
stable hash. Enumerations are bytes; `UnlistedCode` has those that name no listed value.
-/

namespace Aegis.Common

/-- `Identifier128<Tag>`: two words in a fixed wire order. -/
@[ext]
structure Identifier128 (Tag : Type) where
  high : UInt64 := 0
  low : UInt64 := 0

namespace Identifier128

variable {Tag : Type}

instance : Inhabited (Identifier128 Tag) := ⟨{}⟩

-- The derived instance would ask for decidable equality of the phantom tag.
instance : DecidableEq (Identifier128 Tag) := fun a b =>
  decidable_of_iff (a.high = b.high ∧ a.low = b.low) Identifier128.ext_iff.symm

/-- The all-zero identifier is the invalid one. -/
def valid (identifier : Identifier128 Tag) : Bool :=
  identifier.high != 0 || identifier.low != 0

theorem valid_of_high {identifier : Identifier128 Tag} (h : identifier.high ≠ 0) :
    identifier.valid := by
  simp [valid, h]

end Identifier128

/-- A byte outside the listed values of an enumeration. -/
structure UnlistedCode (first last : UInt8) where
  raw : UInt8
  outside : raw < first ∨ last < raw
  deriving DecidableEq

theorem UnlistedCode.raw_ne {first last byte : UInt8} (code : UnlistedCode first last)
    (listed : first ≤ byte ∧ byte ≤ last) : code.raw ≠ byte := by
  rintro rfl
  rcases code.outside with below | above
  · exact absurd listed.1 (UInt8.not_le.mpr below)
  · exact absurd listed.2 (UInt8.not_le.mpr above)

theorem UnlistedCode.ne_raw {first last byte : UInt8} (code : UnlistedCode first last)
    (listed : first ≤ byte ∧ byte ≤ last) : byte ≠ code.raw :=
  (code.raw_ne listed).symm

theorem UnlistedCode.raw_injective {first last : UInt8} :
    Function.Injective (UnlistedCode.raw : UnlistedCode first last → UInt8) := by
  rintro ⟨raw, outside⟩ ⟨_, _⟩ rfl
  rfl

inductive VenueIdTag
inductive InstrumentIdTag
inductive StrategyIdTag
inductive OrderIdTag
inductive IntentIdTag
inductive ForecastIdTag
inductive FeatureSnapshotIdTag
inductive RiskSnapshotIdTag
inductive ConfigurationVersionTag
inductive GlobalEventIdTag
inductive SessionIdTag
inductive AccountIdTag
inductive ModelIdTag
inductive ModelVersionTag
inductive ChannelIdTag

abbrev VenueId := Identifier128 VenueIdTag
abbrev InstrumentId := Identifier128 InstrumentIdTag
abbrev StrategyId := Identifier128 StrategyIdTag
abbrev OrderId := Identifier128 OrderIdTag
abbrev IntentId := Identifier128 IntentIdTag
abbrev ForecastId := Identifier128 ForecastIdTag
abbrev FeatureSnapshotId := Identifier128 FeatureSnapshotIdTag
abbrev RiskSnapshotId := Identifier128 RiskSnapshotIdTag
abbrev ConfigurationVersion := Identifier128 ConfigurationVersionTag
abbrev GlobalEventId := Identifier128 GlobalEventIdTag
abbrev SessionId := Identifier128 SessionIdTag
abbrev AccountId := Identifier128 AccountIdTag
abbrev ModelId := Identifier128 ModelIdTag
abbrev ModelVersion := Identifier128 ModelVersionTag
abbrev ChannelId := Identifier128 ChannelIdTag

/-- `digits[value & 0x0F]` of `to_hex`. -/
def hexDigit (value : UInt64) : Char :=
  (Nat.digitChar ((value &&& 0x0F).toNat))

/-- The sixteen hexadecimal digits of one word. -/
def hexWord (word : UInt64) : List Char :=
  (List.range 16).map fun index => hexDigit (word >>> (UInt64.ofNat ((15 - index) * 4)))

@[simp] theorem hexWord_length (word : UInt64) : (hexWord word).length = 16 := by
  simp [hexWord]

/-- `to_hex`: thirty-two digits and the terminating NUL. -/
def toHex {Tag : Type} (identifier : Identifier128 Tag) : Vector Char 33 :=
  ⟨(hexWord identifier.high ++ hexWord identifier.low ++ ['\x00']).toArray, by simp⟩

@[simp] theorem toHex_back {Tag : Type} (identifier : Identifier128 Tag) :
    (toHex identifier).back = '\x00' := by
  simp [toHex, Vector.back]

def kFnvOffset : UInt64 := 14695981039346656037

def kFnvPrime : UInt64 := 1099511628211

/-- One FNV-1a round. -/
def mixByte (hash byte : UInt64) : UInt64 :=
  (hash ^^^ byte) * kFnvPrime

/-- `mix`: the eight bytes of a word, least significant first. -/
def mix (hash value : UInt64) : UInt64 :=
  ([0, 8, 16, 24, 32, 40, 48, 56] : List UInt64).foldl
    (fun hash shift => mixByte hash ((value >>> shift) &&& 0xFF)) hash

def mixIdentifier {Tag : Type} (hash : UInt64) (value : Identifier128 Tag) : UInt64 :=
  mix (mix hash value.high) value.low

/-- `mix_chars` and `mix_digest`: one round for each byte. -/
def mixBytes (hash : UInt64) (bytes : List UInt8) : UInt64 :=
  bytes.foldl (fun hash byte => mixByte hash byte.toUInt64) hash

/-- Zero is reserved for "no hash". -/
def nonzeroHash (value : UInt64) : UInt64 :=
  if value = 0 then 1 else value

@[simp] theorem nonzeroHash_ne_zero (value : UInt64) : nonzeroHash value ≠ 0 := by
  unfold nonzeroHash
  split
  · decide
  · assumption

end Aegis.Common

import Aegis.Foundation.ProbeTable

/-!
Open-addressed indexes with linear probing and deletion by tombstones.
-/

namespace Aegis.Foundation

/-- A bucket of an index. -/
inductive Bucket (Value : Type) where
  | empty
  | tombstone
  | holds (value : Value)
  deriving DecidableEq

namespace Bucket

variable {n : Nat} [NeZero n] {Value : Type}

/-- Search for a wanted value. -/
def searchFrom (table : Fin n → Bucket Value) (wanted : Value → Bool) (start : Fin n) :
    Nat → Nat → Option (Fin n × Value)
  | 0, _ => none
  | fuel + 1, offset =>
      match table (probe start offset) with
      | .empty => none
      | .tombstone => searchFrom table wanted start fuel (offset + 1)
      | .holds value =>
          if wanted value then some (probe start offset, value)
          else searchFrom table wanted start fuel (offset + 1)

def search (table : Fin n → Bucket Value) (wanted : Value → Bool) (start : Fin n) :
    Option (Fin n × Value) :=
  searchFrom table wanted start n 0

/-- The first tombstone passed, or the empty bucket. -/
def claimFrom (table : Fin n → Bucket Value) (start : Fin n) :
    Nat → Nat → Option (Fin n) → Option (Fin n)
  | 0, _, firstTombstone => firstTombstone
  | fuel + 1, offset, firstTombstone =>
      match table (probe start offset) with
      | .empty => some (firstTombstone.getD (probe start offset))
      | .tombstone =>
          claimFrom table start fuel (offset + 1) (firstTombstone.or (some (probe start offset)))
      | .holds _ => claimFrom table start fuel (offset + 1) firstTombstone

def claim (table : Fin n → Bucket Value) (start : Fin n) : Option (Fin n) :=
  claimFrom table start n 0 none

end Bucket

end Aegis.Foundation

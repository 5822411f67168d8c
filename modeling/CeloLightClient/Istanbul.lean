import CeloLightClient.Codec
import Mathlib.Algebra.Order.Floor.Semiring
import Mathlib.Data.Rat.Floor

/-!
The consensus arithmetic of IBFT, and the hash of a header.

Epoch 0 is the genesis block alone; from then on an epoch is `epochSize` blocks, and its last
block has a number that `epochSize` divides.
-/

namespace CeloLightClient

open Lib Lib.Outcome

section Epochs

variable {ε : Type}

/-- The block number within its epoch, counted from 1. Block 0 is the last of epoch 0. -/
def getNumberWithinEpoch (number epochSize : UInt64) : Outcome ε UInt64 := do
  let number ← rem number epochSize
  if number = 0 then pure epochSize else pure number

def isLastBlockOfEpoch (number epochSize : UInt64) : Outcome ε Bool := do
  let n ← getNumberWithinEpoch number epochSize
  pure (n = epochSize)

def getEpochNumber (number epochSize : UInt64) : Outcome ε UInt64 := do
  let epochNumber ← div number epochSize
  let last ← isLastBlockOfEpoch number epochSize
  if last then pure epochNumber else add epochNumber 1

def getEpochFirstBlockNumber (epochNumber epochSize : UInt64) : Outcome ε (Option UInt64) :=
  if epochNumber = 0 then pure none
  else do
    let before ← sub epochNumber 1
    let before ← mul before epochSize
    let first ← add before 1
    pure (some first)

def getEpochLastBlockNumber (epochNumber epochSize : UInt64) : Outcome ε UInt64 :=
  if epochNumber = 0 then pure 0 else mul epochNumber epochSize

/-- The number of signatures a block needs. A list of validators in memory is far too short for
`2 * totalValidators` to overflow; the subtraction underflows for the empty list. -/
def minQuorumSize (totalValidators : ℕ) : Outcome ε ℕ := do
  let n ← subSize (2 * totalValidators) 1
  pure ((n + 3) / 3)

/-- `number` is the last block of an epoch of `epochSize` blocks. -/
def EpochEnd (epochSize number : ℕ) : Prop := number % epochSize = 0

instance (epochSize number : ℕ) : Decidable (EpochEnd epochSize number) :=
  inferInstanceAs (Decidable (_ = _))

lemma epochSize_pos {epochSize : UInt64} (h : 1 ≤ epochSize) : 0 < epochSize := by
  rw [UInt64.le_iff_toNat_le] at h
  rw [UInt64.lt_iff_toNat_lt]
  exact h

lemma isLastBlockOfEpoch_eq {number epochSize : UInt64} (h : 0 < epochSize) :
    (isLastBlockOfEpoch number epochSize : Outcome ε Bool) =
      .ok (decide (EpochEnd epochSize.toNat number.toNat)) := by
  have hpos : 0 < epochSize.toNat := UInt64.lt_iff_toNat_lt.mp h
  have hmod : (number % epochSize).toNat = number.toNat % epochSize.toNat := UInt64.toNat_mod ..
  simp only [isLastBlockOfEpoch, getNumberWithinEpoch, rem_of_pos h, ok_bind, pure_eq_ok, EpochEnd]
  by_cases hz : number % epochSize = 0
  · rw [if_pos hz, ok_bind]
    rw [hz] at hmod
    simp [← hmod]
  · have hne : number % epochSize ≠ epochSize := fun he => by
      have := Nat.mod_lt number.toNat hpos
      rw [← hmod, he] at this
      omega
    rw [if_neg hz, ok_bind]
    have hz' : ¬ number.toNat % epochSize.toNat = 0 := fun h0 =>
      hz (UInt64.toNat_inj.mp (by rw [hmod, h0]; rfl))
    simp [hne, hz']

lemma minQuorumSize_eq_ok {n q : ℕ} :
    (minQuorumSize n : Outcome ε ℕ) = .ok q ↔ 0 < n ∧ q = (2 * n + 2) / 3 := by
  rcases Nat.eq_zero_or_pos n with rfl | hn
  · simp [minQuorumSize, subSize]
  · rw [minQuorumSize, subSize_of_le (by omega), ok_bind, pure_eq_ok, Except.ok.injEq,
      show 2 * n - 1 + 3 = 2 * n + 2 by omega]
    exact ⟨fun h => ⟨hn, h.symm⟩, fun h => h.2.symm⟩

lemma quorum_eq_ceil (n : ℕ) : (2 * n + 2) / 3 = ⌈(2 * n : ℚ) / 3⌉₊ := by
  apply le_antisymm
  · have h : (2 * n : ℚ) / 3 ≤ ⌈(2 * n : ℚ) / 3⌉₊ := Nat.le_ceil _
    rw [div_le_iff₀ (by norm_num)] at h
    have h' : 2 * n ≤ ⌈(2 * n : ℚ) / 3⌉₊ * 3 := by exact_mod_cast h
    omega
  · have h : 2 * n ≤ (2 * n + 2) / 3 * 3 := by omega
    rw [Nat.ceil_le, div_le_iff₀ (by norm_num)]
    exact_mod_cast h

end Epochs

variable (P : Platform)

/-! ### The hash of a header -/

/-- The header as it is hashed: without the aggregated seal, which signs the hash. -/
def istanbulFilteredHeader (header : Header) (keepSeal : Bool) : Outcome Error Header := do
  let extra ← IstanbulExtra.fromRlp P.rlp header.extra
  let extra := if keepSeal then extra else { extra with proposerSeal := [] }
  let extra := { extra with aggregatedSeal := IstanbulAggregatedSeal.new }
  let vanity ← fromBytes ISTANBUL_EXTRA_VANITY_LENGTH header.extra
  pure { header with extra := extra.toRlp P.rlp vanity }

def rlpHash (header : Header) : Outcome Error Hash := do
  let digest := P.keccak256 (header.toRlp P.rlp)
  let slice ← sliceTo digest.1 HASH_LENGTH
  sliceAsArrayRef HASH_LENGTH slice

/-- The hash of a header whose extra field cannot be read is that of the header as it is. -/
def Header.hash (header : Header) : Outcome Error Hash :=
  if ISTANBUL_EXTRA_VANITY_LENGTH ≤ header.extra.length then do
    let istanbulHeader ← attempt (istanbulFilteredHeader P header true)
    match istanbulHeader with
    | .ok istanbulHeader => rlpHash P istanbulHeader
    | .error _ => rlpHash P header
  else rlpHash P header

end CeloLightClient

import CeloLightClient.Lib.Outcome
import CeloLightClient.Lib.Rlp
import Mathlib.Data.Int.Bitwise

/-!
The data of the light client: headers, the consensus data in their extra field, validator
sets, and the snapshot of the last accepted block.

Big integers are `ℤ`. What the program takes from other libraries (RLP, Keccak, BLS) is a
`Platform`.
-/

namespace CeloLightClient

open Lib

/-! ### Errors -/

/-- All error kinds related to the light client. -/
inductive Kind
  | InvalidDataLength (current expected : ℕ)
  | RlpDecodeError
  | InvalidValidatorSetDiff (msg : String)
  | InvalidChainInsertion
  | MissingSeals (current expected : ℕ)
  | BlsVerifyError
  | BlsInvalidSignature
  | BlsInvalidPublicKey
  | HeaderVerificationError (msg : String)
  | Unknown
  deriving DecidableEq, Repr

/-- `{}`. -/
def Kind.display : Kind → String
  | .InvalidDataLength current expected =>
    "invalid data length while converting slice to fixed-size array type (" ++ toString current ++
      " != " ++ toString expected
  | .RlpDecodeError => "rlp decode error"
  | .InvalidValidatorSetDiff msg => "invalid validator set diff: " ++ msg
  | .InvalidChainInsertion => "attempted to insert invalid data to chain"
  | .MissingSeals current expected =>
    "aggregated seal does not aggregate enough seals, num_seals: " ++ toString current ++
      ", minimum quorum size: " ++ toString expected
  | .BlsVerifyError => "BLS verify error"
  | .BlsInvalidSignature => "BLS invalid signature"
  | .BlsInvalidPublicKey => "BLS invalid public key"
  | .HeaderVerificationError msg => "header verification failed: " ++ msg
  | .Unknown => "unkown error occurred"

/-- The library error an error was made from. -/
inductive Source
  | decoder (e : Rlp.DecoderError)
  | bls (msg : String)
  deriving DecidableEq, Repr

structure Error where
  kind : Kind
  source : Option Source
  deriving DecidableEq, Repr

/-- `kind.into()`. -/
def Kind.into (k : Kind) : Error := ⟨k, none⟩

/-- Add additional context. -/
def Kind.context (k : Kind) (s : Source) : Error := ⟨k, some s⟩

/-! ### Headers -/

def HASH_LENGTH : ℕ := 32
def ADDRESS_LENGTH : ℕ := 20
def BLOOM_BYTE_LENGTH : ℕ := 256

abbrev Hash := FixedBytes HASH_LENGTH
abbrev Address := FixedBytes ADDRESS_LENGTH
abbrev Bloom := FixedBytes BLOOM_BYTE_LENGTH

/-- Block metadata. -/
structure Header where
  parentHash : Hash
  coinbase : Address
  root : Hash
  txHash : Hash
  receiptHash : Hash
  bloom : Bloom
  number : ℤ
  gasUsed : UInt64
  time : UInt64
  extra : Bytes
  deriving DecidableEq

/-! ### Consensus data -/

def PUBLIC_KEY_LENGTH : ℕ := 96
def ISTANBUL_EXTRA_VANITY_LENGTH : ℕ := 32

abbrev SerializedPublicKey := FixedBytes PUBLIC_KEY_LENGTH
abbrev IstanbulExtraVanity := FixedBytes ISTANBUL_EXTRA_VANITY_LENGTH

inductive IstanbulMsg
  | PrePrepare
  | Prepare
  | Commit
  | RoundChange

/-- `self as u8`. -/
def IstanbulMsg.code : IstanbulMsg → UInt8
  | .PrePrepare => 0
  | .Prepare => 1
  | .Commit => 2
  | .RoundChange => 3

/-- The aggregated signature of a block: a bit for each validator that signed, the signature,
and the round it was created in. -/
structure IstanbulAggregatedSeal where
  bitmap : ℤ
  signature : Bytes
  round : ℤ
  deriving DecidableEq

def IstanbulAggregatedSeal.new : IstanbulAggregatedSeal := ⟨0, [], 0⟩

structure IstanbulExtra where
  addedValidators : List Address
  addedValidatorsPublicKeys : List SerializedPublicKey
  removedValidators : ℤ
  /-- The signature of the proposer, `seal`. -/
  proposerSeal : Bytes
  aggregatedSeal : IstanbulAggregatedSeal
  parentAggregatedSeal : IstanbulAggregatedSeal
  deriving DecidableEq

/-! ### State -/

structure Validator where
  address : Address
  publicKey : SerializedPublicKey
  deriving DecidableEq

/-- The consensus state at a block: its number and time, the validators that sign its
successors, its hash and its seal. -/
structure Snapshot where
  number : UInt64
  timestamp : UInt64
  validators : List Validator
  hash : Hash
  aggregatedSeal : IstanbulAggregatedSeal
  deriving DecidableEq

def Snapshot.new : Snapshot where
  number := 0
  timestamp := 0
  validators := []
  hash := zeroBytes _
  aggregatedSeal := .new

/-- What the state machine asks of its configuration. -/
structure StateConfig where
  epochSize : UInt64
  allowedClockSkew : UInt64
  verifyEpochHeaders : Bool
  verifyNonEpochHeaders : Bool
  verifyHeaderTimestamp : Bool
  deriving DecidableEq

/-! ### Big integers -/

/-- `BigInt::to_u64`. -/
def toU64 (n : ℤ) : Option UInt64 :=
  if 0 ≤ n ∧ n < 2 ^ 64 then some (UInt64.ofNat n.toNat) else none

/-- `BigInt::bits`: the length of the magnitude. -/
def bits (n : ℤ) : ℕ := n.natAbs.size

lemma toU64_eq_some {n : ℤ} {u : UInt64} : toU64 n = some u ↔ n = u.toNat := by
  unfold toU64
  have hu := u.toNat_lt
  split
  · next h =>
    rw [Option.some.injEq, ← UInt64.toNat_inj]
    have hn : n.toNat < 2 ^ 64 := by omega
    rw [UInt64.toNat_ofNat', Nat.mod_eq_of_lt hn]
    omega
  · next h =>
    simp only [reduceCtorEq, false_iff]
    omega

lemma toU64_toNat {n : ℤ} {u : UInt64} (h : toU64 n = some u) : (u.toNat : ℤ) = n :=
  (toU64_eq_some.mp h).symm

/-! ### Other libraries -/

/-- BLS signatures. -/
structure Bls where
  PublicKey : Type
  Signature : Type
  deserializePublicKey : Bytes → Except String PublicKey
  deserializeSignature : Bytes → Except String Signature
  aggregate : List PublicKey → PublicKey
  /-- The signature of the message, with its extra data, checks against the key. -/
  verify : PublicKey → Bytes → Bytes → Signature → Bool

/-- The libraries the light client is built on. -/
structure Platform where
  rlp : Rlp.Codec
  keccak256 : Bytes → Hash
  bls : Bls

end CeloLightClient

import CeloLightClient.Insert
import CeloLightClient.Lib.Keccak

/-!
A platform to run the light client on: RLP and Keccak as they are, and signatures whose maker
and message can be read off them.
-/

namespace CeloLightClient.Reference

open Lib Lib.Outcome

/-- A signature is the keys that made it, followed by the message. -/
def bls : Bls where
  PublicKey := Bytes
  Signature := Bytes
  deserializePublicKey := .ok
  deserializeSignature := .ok
  aggregate := List.flatten
  verify key message extraData sig := sig == key ++ message ++ extraData

def platform : Platform where
  rlp := Rlp.reference
  keccak256 := Keccak.keccak256
  bls := bls

/-- The seal of all the validators. -/
def sealOf (validators : List Validator) (hash : Hash) : IstanbulAggregatedSeal where
  bitmap := 2 ^ validators.length - 1
  signature := (validators.map fun v => v.publicKey.1).flatten ++ prepareCommitedSeal hash 0
  round := 0

/-- A header with nothing in it but its number, its time, its state root and its extra field. -/
def headerOf (number : ℤ) (time : UInt64) (root : Hash) (extra : IstanbulExtra) : Header where
  parentHash := zeroBytes _
  coinbase := zeroBytes _
  root := root
  txHash := zeroBytes _
  receiptHash := zeroBytes _
  bloom := zeroBytes _
  number := number
  gasUsed := 0
  time := time
  extra := extra.toRlp platform.rlp (zeroBytes _)

/-- That header with the seal of all the validators. -/
def sealedHeader (validators : List Validator) (number : ℤ) (time : UInt64) (root : Hash)
    (extra : IstanbulExtra) : Header :=
  match (headerOf number time root extra).hash platform with
  | .ok hash => headerOf number time root { extra with aggregatedSeal := sealOf validators hash }
  | .error _ => headerOf number time root extra

/-- What all the validators have sealed is accepted. -/
theorem verifyAggregatedSeal_sealOf {validators : List Validator} (hne : validators ≠ [])
    (hash : Hash) :
    verifyAggregatedSeal platform hash validators (sealOf validators hash) = .ok () := by
  have hall : signers validators (sealOf validators hash).bitmap = validators :=
    selectAt_of_forall fun i hi => testBit_allOnes hi
  have hkeys : validators.mapM (fun v => deserializePubKey platform v.publicKey.1) =
      .ok (validators.map fun v => v.publicKey.1) := by
    clear hall hne
    induction validators with
    | nil => rfl
    | cons v l ih => rw [List.mapM_cons, ih]; rfl
  have hpos := List.length_pos_of_ne_nil hne
  refine verifyAggregatedSeal_eq_ok.mpr ⟨hne, by rw [hall]; omega, _, _, by rw [hall]; exact hkeys,
    rfl, ?_⟩
  exact beq_iff_eq.mpr (List.append_nil _).symm

/-! ### A small chain -/

/-- The validator with `i` in each byte. -/
def validator (i : UInt8) : Validator where
  address := ⟨List.replicate ADDRESS_LENGTH i, List.length_replicate ..⟩
  publicKey := ⟨List.replicate PUBLIC_KEY_LENGTH i, List.length_replicate ..⟩

/-- The diff that removes the positions of `removed` and adds the validators `added`. -/
def diff (removed : ℤ) (added : List Validator) : IstanbulExtra where
  addedValidators := added.map Validator.address
  addedValidatorsPublicKeys := added.map Validator.publicKey
  removedValidators := removed
  proposerSeal := []
  aggregatedSeal := .new
  parentAggregatedSeal := .new

/-- Epochs of ten blocks, and everything verified. -/
def config : StateConfig where
  epochSize := 10
  allowedClockSkew := 5
  verifyEpochHeaders := true
  verifyNonEpochHeaders := true
  verifyHeaderTimestamp := true

/-- Block 7, with three validators. -/
def start : Snapshot where
  number := 7
  timestamp := 100
  validators := [validator 1, validator 2, validator 3]
  hash := zeroBytes _
  aggregatedSeal := .new

/-- The sealed header of the block after `start`, where the validators are those of `start`. -/
def nextHeader (number : ℤ) (time : UInt64) (extra : IstanbulExtra) : Header :=
  sealedHeader start.validators number time (zeroBytes _) extra

end CeloLightClient.Reference

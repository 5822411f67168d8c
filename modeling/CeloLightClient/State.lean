import CeloLightClient.Seal

/-!
The state machine: it holds the snapshot of the last accepted block, and replaces it when it
accepts a header.

The configuration is a shared reference and never changes, so it is a parameter; the snapshot
is the state of an `Action`, so that what a failed call has written to it can be seen.
-/

namespace CeloLightClient.State

open Lib Lib.Outcome

/-- Add validators at the end of the list, unless one of their addresses is in it. -/
def addValidators (validators : List Validator) : Action Snapshot Error Bool := do
  let s ← get
  if s.validators.any fun v => validators.any fun w => w.address == v.address then
    pure false
  else
    set { s with validators := s.validators ++ validators }
    pure true

/-- Remove the validators at the positions whose bit is set. -/
def removeValidators (removedValidators : ℤ) : Action Snapshot Error Bool := do
  let s ← get
  if bits removedValidators = 0 then
    pure true
  else if s.validators.length < bits removedValidators then
    pure false
  else
    let filteredValidators :=
      selectAt (fun i => removedValidators.testBit i == false) s.validators
    set { s with validators := filteredValidators }
    pure true

variable (P : Platform) (config : StateConfig)

def verifyHeaderSeal (s : Snapshot) (header : Header) : Outcome Error Unit := do
  let headerHash ← header.hash P
  let extra ← IstanbulExtra.fromRlp P.rlp header.extra
  verifyAggregatedSeal P headerHash s.validators extra.aggregatedSeal

/-- The header is newer than the last one, and not from the future. -/
def verifyTimestamp (s : Snapshot) (header : Header) (currentTimestamp : UInt64) :
    Outcome Error Unit := do
  ensure (s.timestamp < header.time) (Kind.HeaderVerificationError
    "header timestamp should be greater than the last one stored in state").into
  let limit ← add currentTimestamp config.allowedClockSkew
  ensure (header.time ≤ limit) (Kind.HeaderVerificationError
    "header timestamp is set too far in the future").into

def verifyHeader (s : Snapshot) (header : Header) (currentTimestamp : UInt64) :
    Outcome Error Unit := do
  let number ← unwrap (toU64 header.number)
  ensure (s.number < number) (Kind.HeaderVerificationError
    "header height should be greater than the last one stored in state").into
  (if config.verifyHeaderTimestamp then verifyTimestamp config s header currentTimestamp
    else pure ())
  verifyHeaderSeal P s header

/-- The verification before a header is stored: the genesis block is never verified. -/
def verifyUnlessGenesis (verify : Bool) (s : Snapshot) (header : Header)
    (currentTimestamp : UInt64) : Outcome Error Unit :=
  if verify && header.number != 0 then verifyHeader P config s header currentTimestamp
  else pure ()

def updateStateSnapshot (snapshot : Snapshot) : Action Snapshot Error Unit := set snapshot

def storeNonEpochHeader (header : Header) (currentTimestamp : UInt64) :
    Action Snapshot Error Unit := do
  let s ← get
  verifyUnlessGenesis P config config.verifyNonEpochHeaders s header currentTimestamp
  let extra ← IstanbulExtra.fromRlp P.rlp header.extra
  let number ← (unwrap (toU64 header.number) : Outcome Error UInt64)
  let hash ← header.hash P
  updateStateSnapshot {
    validators := s.validators
    number
    timestamp := header.time
    hash
    aggregatedSeal := extra.aggregatedSeal }

def storeEpochHeader (header : Header) (currentTimestamp : UInt64) :
    Action Snapshot Error Unit := do
  let s ← get
  verifyUnlessGenesis P config config.verifyEpochHeaders s header currentTimestamp
  let headerHash ← header.hash P
  let extra ← IstanbulExtra.fromRlp P.rlp header.extra
  let _ ← (ensure (extra.addedValidators.length = extra.addedValidatorsPublicKeys.length)
    (Kind.InvalidValidatorSetDiff "error in combining addresses and public keys").into :
      Outcome Error Unit)
  -- the loop over both lists, which have one length here
  let validators := List.zipWith Validator.mk extra.addedValidators extra.addedValidatorsPublicKeys
  let resultRemove ← removeValidators extra.removedValidators
  let _ ← (ensure resultRemove (Kind.InvalidValidatorSetDiff
    "error in removing the header's removed_validators").into : Outcome Error Unit)
  let resultAdd ← addValidators validators
  let _ ← (ensure resultAdd (Kind.InvalidValidatorSetDiff
    "error in adding the header's added_validators").into : Outcome Error Unit)
  let number ← (unwrap (toU64 header.number) : Outcome Error UInt64)
  let s ← get
  updateStateSnapshot {
    number
    timestamp := header.time
    validators := s.validators
    hash := headerHash
    aggregatedSeal := extra.aggregatedSeal }

def insertHeader (header : Header) (currentTimestamp : UInt64) : Action Snapshot Error Unit := do
  let blockNum ← (unwrap (toU64 header.number) : Outcome Error UInt64)
  let last ← (isLastBlockOfEpoch blockNum config.epochSize : Outcome Error Bool)
  if last then storeEpochHeader P config header currentTimestamp
  else storeNonEpochHeader P config header currentTimestamp

end CeloLightClient.State

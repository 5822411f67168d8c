import CeloLightClient.Contract.Handle

/-!
The queries: they check Merkle proofs against the state root of a consensus state, and read the
store, which they leave alone.

Seven of the queries show that a value is kept under a path, and differ in the path, in the value
and in whether a delay has to have passed; they are one `Claim` each.
-/

namespace CeloLightClient.Contract

open Lib Lib.Outcome

inductive QueryMsg
  | VerifyClientState (me : ClientState) (height : Height) (commitmentPrefix : MerklePrefix)
      (counterpartyClientIdentifier proof : String) (counterpartyClientState : CosmosClientState)
      (consensusState : ConsensusState)
  | VerifyClientConsensusState (me : ClientState) (height consensusHeight : Height)
      (commitmentPrefix : MerklePrefix) (counterpartyClientIdentifier proof : String)
      (counterpartyConsensusState : CosmosConsensusState) (consensusState : ConsensusState)
  | VerifyConnectionState (me : ClientState) (height : Height) (commitmentPrefix : MerklePrefix)
      (proof connectionId : String) (connectionEnd : ConnectionEnd)
      (consensusState : ConsensusState)
  | VerifyChannelState (me : ClientState) (height : Height) (commitmentPrefix : MerklePrefix)
      (proof portId channelId : String) (channel : Channel) (consensusState : ConsensusState)
  | VerifyPacketCommitment (me : ClientState) (height : Height) (commitmentPrefix : MerklePrefix)
      (proof portId channelId : String) (delayTimePeriod delayBlockPeriod sequence : UInt64)
      (commitmentBytes : String) (consensusState : ConsensusState)
  | VerifyPacketAcknowledgement (me : ClientState) (height : Height)
      (commitmentPrefix : MerklePrefix) (proof portId channelId : String)
      (delayTimePeriod delayBlockPeriod sequence : UInt64) (acknowledgement : String)
      (consensusState : ConsensusState)
  | VerifyPacketReceiptAbsence (me : ClientState) (height : Height)
      (commitmentPrefix : MerklePrefix) (proof portId channelId : String)
      (delayTimePeriod delayBlockPeriod sequence : UInt64) (consensusState : ConsensusState)
  | VerifyNextSequenceRecv (me : ClientState) (height : Height) (commitmentPrefix : MerklePrefix)
      (proof portId channelId : String) (delayTimePeriod delayBlockPeriod nextSequenceRecv : UInt64)
      (consensusState : ConsensusState)
  | Status (me : ClientState) (consensusState : ConsensusState)
  | ProcessedTime (height : Height)

variable (H : Host)

/-! ### Delays -/

/-- Enough time and enough blocks of the host chain have passed since the consensus state at the
proof's height was recorded. -/
def verifyDelayPeriodPassed (storage : Storage) (proofHeight : Height)
    (currentHeight currentTimestamp delayTimePeriod delayBlockPeriod : UInt64) :
    Outcome StdError Unit := do
  let processedTime ← getProcessedTime H storage EMPTY_PREFIX proofHeight
  let validTime ← add processedTime delayTimePeriod
  ensure (validTime ≤ currentTimestamp) (.GenericErr ("cannot verify packet until time: " ++
    toString validTime ++ ", current time: " ++ toString currentTimestamp))
  let processedHeight ← getProcessedHeight H storage EMPTY_PREFIX proofHeight
  let validRevisionHeight ← add processedHeight.revisionHeight delayBlockPeriod
  let validHeight : Height := {
    revisionNumber := processedHeight.revisionNumber
    revisionHeight := validRevisionHeight }
  let currentHeight := getSelfHeight currentHeight
  ensure (¬ currentHeight < validHeight) (.GenericErr ("cannot verify packet until height: " ++
    validHeight.display ++ ", current height: " ++ currentHeight.display))

/-! ### Values under a path -/

/-- That a value is kept under a path, and the proof of it. The delay, the path and the value are
computed on the way, in this order, and each may fail. -/
structure Claim where
  commitmentPrefix : MerklePrefix
  proof : String
  consensusState : ConsensusState
  rootTarget : String
  delay : Outcome StdError Unit
  path : Outcome StdError Path
  value : Outcome StdError Bytes
  action : String

/-- The result that all the verifications return. -/
def successResult : Json := .obj [("result", ClientStateCallResponseResult.success.json)]

def Claim.verify (c : Claim) : Outcome StdError HandleResponse := do
  let proof ← fromBase64JsonSlice H H.fromSliceMerkleProof c.proof "msg.proof"
  let root ← fromBase64 H c.consensusState.root.hash c.rootTarget
  c.delay
  let path ← c.path
  let keys ← applyPrefix H c.commitmentPrefix [H.ibc.pathToString path]
  let value ← c.value
  let member ← verifyMembership H proof (specs H) root keys value 0
  ensure member (.GenericErr "proof membership verification failed (invalid proof)")
  wrapResponse H successResult c.action

/-- An identifier that has been parsed. -/
def parsed (id : Except String String) : Outcome StdError String :=
  mapErr toGenericErr (ofExcept id)

/-- A path below a channel of a port. -/
def channelPath (portId channelId : String) (path : String → String → Path) :
    Outcome StdError Path := do
  let portId ← parsed (H.ibc.portId portId)
  let channelId ← parsed (H.ibc.channelId channelId)
  pure (path portId channelId)

def verifyClientState (commitmentPrefix : MerklePrefix)
    (counterpartyClientIdentifier proof : String) (counterpartyClientState : CosmosClientState)
    (provingConsensusState : ConsensusState) : Claim where
  commitmentPrefix := commitmentPrefix
  proof := proof
  consensusState := provingConsensusState
  rootTarget := "msg.proving_consensus_state.root"
  delay := pure ()
  path := do
    let clientId ← parsed (H.ibc.clientId counterpartyClientIdentifier)
    pure (.ClientState clientId)
  value := pure (H.toVec counterpartyClientState.json)
  action := "verify_client_state"

def verifyClientConsensusState (consensusHeight : Height) (commitmentPrefix : MerklePrefix)
    (counterpartyClientIdentifier proof : String)
    (counterpartyConsensusState : CosmosConsensusState) (provingConsensusState : ConsensusState) :
    Claim where
  commitmentPrefix := commitmentPrefix
  proof := proof
  consensusState := provingConsensusState
  rootTarget := "msg.proving_consensus_state.root"
  delay := pure ()
  path := do
    let clientId ← parsed (H.ibc.clientId counterpartyClientIdentifier)
    pure (.ClientConsensusState clientId consensusHeight.revisionNumber
      consensusHeight.revisionHeight)
  value := pure (H.toVec counterpartyConsensusState.json)
  action := "verify_client_state"

def verifyConnectionState (commitmentPrefix : MerklePrefix) (proof connectionId : String)
    (connectionEnd : ConnectionEnd) (consensusState : ConsensusState) : Claim where
  commitmentPrefix := commitmentPrefix
  proof := proof
  consensusState := consensusState
  rootTarget := "msg.proving_consensus_state.root"
  delay := pure ()
  path := do
    let connectionId ← parsed (H.ibc.connectionId connectionId)
    pure (.Connections connectionId)
  value := pure (H.toVec connectionEnd.json)
  action := "verify_connection_state"

def verifyChannelState (commitmentPrefix : MerklePrefix) (proof portId channelId : String)
    (channel : Channel) (consensusState : ConsensusState) : Claim where
  commitmentPrefix := commitmentPrefix
  proof := proof
  consensusState := consensusState
  rootTarget := "msg.proving_consensus_state.root"
  delay := pure ()
  path := channelPath H portId channelId .ChannelEnds
  value := pure (H.toVec channel.json)
  action := "verify_channel_state"

def verifyPacketCommitment (storage : Storage) (env : Env) (height : Height)
    (commitmentPrefix : MerklePrefix) (proof portId channelId : String)
    (delayTimePeriod delayBlockPeriod sequence : UInt64) (commitmentBytes : String)
    (consensusState : ConsensusState) : Claim where
  commitmentPrefix := commitmentPrefix
  proof := proof
  consensusState := consensusState
  rootTarget := "msg.consensus_state.root"
  delay := verifyDelayPeriodPassed H storage height env.height env.time delayTimePeriod
    delayBlockPeriod
  path := channelPath H portId channelId fun port channel => .Commitments port channel sequence
  value := fromBase64 H commitmentBytes "msg.commitment_bytes"
  action := "verify_packet_commitment"

def verifyPacketAcknowledgment (storage : Storage) (env : Env) (height : Height)
    (commitmentPrefix : MerklePrefix) (proof portId channelId : String)
    (delayTimePeriod delayBlockPeriod sequence : UInt64) (acknowledgement : String)
    (consensusState : ConsensusState) : Claim where
  commitmentPrefix := commitmentPrefix
  proof := proof
  consensusState := consensusState
  rootTarget := "msg.consensus_state.root"
  delay := verifyDelayPeriodPassed H storage height env.height env.time delayTimePeriod
    delayBlockPeriod
  path := channelPath H portId channelId fun port channel => .Acks port channel sequence
  value := fromBase64 H acknowledgement "msg.acknowledgement"
  action := "verify_packet_acknowledgment"

def verifyNextSequenceRecv (storage : Storage) (env : Env) (height : Height)
    (commitmentPrefix : MerklePrefix) (proof portId channelId : String)
    (delayTimePeriod delayBlockPeriod nextSequenceRecv : UInt64)
    (consensusState : ConsensusState) : Claim where
  commitmentPrefix := commitmentPrefix
  proof := proof
  consensusState := consensusState
  rootTarget := "msg.consensus_state.root"
  delay := verifyDelayPeriodPassed H storage height env.height env.time delayTimePeriod
    delayBlockPeriod
  path := channelPath H portId channelId .SeqRecvs
  value := pure (u64ToBigEndian nextSequenceRecv)
  action := "verify_next_sequence_recv"

/-! ### The other queries -/

/-- The check that nothing is kept under the last key. -/
def absenceCheck (proof : MerkleProof H.ics23) (root : Bytes) (keys : MerklePath) :
    Outcome StdError Unit := do
  let key ← unwrap keys.keyPath.getLast?
  let first ← index proof.proofs 0
  let spec ← index (specs H) 0
  ensure (H.ics23.verifyNonMembership first spec root (utf8 key))
    (.GenericErr "proof non membership verification failed (invalid proof)")

def verifyPacketReceiptAbsence (storage : Storage) (env : Env) (height : Height)
    (commitmentPrefix : MerklePrefix) (proof portId channelId : String)
    (delayTimePeriod delayBlockPeriod sequence : UInt64) (consensusState : ConsensusState) :
    Outcome StdError HandleResponse := do
  let proof ← fromBase64JsonSlice H H.fromSliceMerkleProof proof "msg.proof"
  let root ← fromBase64 H consensusState.root.hash "msg.consensus_state.root"
  verifyDelayPeriodPassed H storage height env.height env.time delayTimePeriod delayBlockPeriod
  let path ← channelPath H portId channelId fun port channel => .Receipts port channel sequence
  let keys ← applyPrefix H commitmentPrefix [H.ibc.pathToString path]
  absenceCheck H proof root keys
  wrapResponse H successResult "verify_packet_receipt_absence"

def status (env : Env) (me : ClientState) (consensusState : ConsensusState) :
    Outcome StdError HandleResponse := do
  let currentTimestamp := env.time
  let lightClientState ← fromBase64Rlp H (LightClientState.fromRlp H.rlp) me.data
    "msg.light_client_state"
  let status ← if me.frozen then pure Status.Frozen
    else do
      let lightConsensusState ← fromBase64Rlp H (Snapshot.fromRlp H.rlp) consensusState.data
        "msg.light_consensus_state"
      let expired ← isExpired currentTimestamp lightConsensusState.timestamp lightClientState
      pure (if expired then Status.Exipred else Status.Active)
  wrapResponse H (.obj [("status", status.json)]) "status"

def processedTime (storage : Storage) (height : Height) : Outcome StdError Bytes := do
  let processedTime ← getProcessedTime H storage EMPTY_PREFIX height
  pure (H.toVec (.obj [("time", .num processedTime.toNat)]))

/-! ### Dispatch -/

/-- How a query is answered: by verifying a claim, or otherwise. -/
inductive Answer
  | claim (c : Claim)
  | other (data : Outcome StdError Bytes)

def QueryMsg.answer (storage : Storage) (env : Env) : QueryMsg → Answer
  | .VerifyClientState _ _ pre id proof clientState consensusState =>
    .claim (verifyClientState H pre id proof clientState consensusState)
  | .VerifyClientConsensusState _ _ consensusHeight pre id proof counterparty consensusState =>
    .claim (verifyClientConsensusState H consensusHeight pre id proof counterparty consensusState)
  | .VerifyConnectionState _ _ pre proof connectionId connectionEnd consensusState =>
    .claim (verifyConnectionState H pre proof connectionId connectionEnd consensusState)
  | .VerifyChannelState _ _ pre proof portId channelId channel consensusState =>
    .claim (verifyChannelState H pre proof portId channelId channel consensusState)
  | .VerifyPacketCommitment _ height pre proof portId channelId delayTime delayBlock sequence
      commitmentBytes consensusState =>
    .claim (verifyPacketCommitment H storage env height pre proof portId channelId delayTime
      delayBlock sequence commitmentBytes consensusState)
  | .VerifyPacketAcknowledgement _ height pre proof portId channelId delayTime delayBlock sequence
      acknowledgement consensusState =>
    .claim (verifyPacketAcknowledgment H storage env height pre proof portId channelId delayTime
      delayBlock sequence acknowledgement consensusState)
  | .VerifyPacketReceiptAbsence _ height pre proof portId channelId delayTime delayBlock sequence
      consensusState =>
    .other (verifyPacketReceiptAbsence H storage env height pre proof portId channelId delayTime
      delayBlock sequence consensusState >>= toBinary)
  | .VerifyNextSequenceRecv _ height pre proof portId channelId delayTime delayBlock
      nextSequenceRecv consensusState =>
    .claim (verifyNextSequenceRecv H storage env height pre proof portId channelId delayTime
      delayBlock nextSequenceRecv consensusState)
  | .ProcessedTime height => .other (processedTime H storage height)
  | .Status me consensusState => .other (status H env me consensusState >>= toBinary)

def query (storage : Storage) (env : Env) (msg : QueryMsg) : Outcome StdError Bytes :=
  match msg.answer H storage env with
  | .claim c => c.verify H >>= toBinary
  | .other data => data

end CeloLightClient.Contract

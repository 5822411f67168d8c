import CeloLightClient.Contract.Query
import CeloLightClient.Lib.Format

/-!
The messages of the contract as JSON.

The host chain is written in another language, which leaves out what is empty. So the numbers of a
height may be missing from a message, and of a client's state whether and where it is frozen, and
its latest height. The reader of the messages takes a struct from an object, never from an array.
-/

namespace CeloLightClient.Contract

open Lib Lib.Json

/-! ### The types -/

def Height.format : Format Height :=
  .struct (.orElse "revision_number" .u64 0 <| .orElse "revision_height" .u64 0 .nil)
    (fun p => ⟨p.1, p.2.1⟩) (fun h => (h.revisionNumber, h.revisionHeight, ()))
    (fun _ => rfl) (fun _ => rfl) (by decide)

lemma Height.format_write : Height.format.write = Height.json := rfl

def MerklePrefix.format : Format MerklePrefix :=
  .struct (.one "key_prefix" .string .nil) (fun p => ⟨p.1⟩) (fun m => (m.keyPrefix, ()))
    (fun _ => rfl) (fun _ => rfl) (by decide)

def MerkleRoot.format : Format MerkleRoot :=
  .struct (.one "hash" .string .nil) (fun p => ⟨p.1⟩) (fun m => (m.hash, ()))
    (fun _ => rfl) (fun _ => rfl) (by decide)

def Counterparty.format : Format Counterparty :=
  .struct (.one "client_id" .string <| .one "connection_id" .string <|
      .one "prefix" MerklePrefix.format .nil)
    (fun p => ⟨p.1, p.2.1, p.2.2.1⟩) (fun c => (c.clientId, c.connectionId, c.pre, ()))
    (fun _ => rfl) (fun _ => rfl) (by decide)

def Version.format : Format Version :=
  .struct (.one "identifier" .string <| .one "features" (.vec .string) .nil)
    (fun p => ⟨p.1, p.2.1⟩) (fun v => (v.identifier, v.features, ()))
    (fun _ => rfl) (fun _ => rfl) (by decide)

def ConnectionEnd.format : Format ConnectionEnd :=
  .struct (.one "client_id" .string <| .one "versions" (.vec Version.format) <|
      .one "state" .i32 <| .one "counterparty" Counterparty.format <|
      .one "delay_period" .u64 .nil)
    (fun p => ⟨p.1, p.2.1, p.2.2.1, p.2.2.2.1, p.2.2.2.2.1⟩)
    (fun c => (c.clientId, c.versions, c.state, c.counterparty, c.delayPeriod, ()))
    (fun _ => rfl) (fun _ => rfl) (by decide)

def Channel.format : Format Channel :=
  .struct (.one "state" .i32 <| .one "ordering" .i32 <|
      .one "counterparty" Counterparty.format <| .one "connection_hops" (.vec .string) <|
      .one "version" .string .nil)
    (fun p => ⟨p.1, p.2.1, p.2.2.1, p.2.2.2.1, p.2.2.2.2.1⟩)
    (fun c => (c.state, c.ordering, c.counterparty, c.connectionHops, c.version, ()))
    (fun _ => rfl) (fun _ => rfl) (by decide)

def CosmosConsensusState.format : Format CosmosConsensusState :=
  .struct (.one "root" MerkleRoot.format .nil) (fun p => ⟨p.1⟩) (fun c => (c.root, ()))
    (fun _ => rfl) (fun _ => rfl) (by decide)

def CosmosClientState.format : Format CosmosClientState :=
  .struct (.one "latest_height" Height.format .nil) (fun p => ⟨p.1⟩)
    (fun c => (c.latestHeight, ())) (fun _ => rfl) (fun _ => rfl) (by decide)

def ConsensusState.format : Format ConsensusState :=
  .struct (.one "code_id" .string <| .one "data" .string <| .one "timestamp" .u64 <|
      .one "root" MerkleRoot.format .nil)
    (fun p => ⟨p.1, p.2.1, p.2.2.1, p.2.2.2.1⟩)
    (fun c => (c.codeId, c.data, c.timestamp, c.root, ()))
    (fun _ => rfl) (fun _ => rfl) (by decide)

lemma Height.not_says_null (h : Height) : ¬ Height.format.Says .null h := nofun

def ClientState.format : Format ClientState :=
  .struct (.one "data" .string <| .one "code_id" .string <| .orElse "frozen" .bool false <|
      .orElse "frozen_height" (.option Height.format Height.not_says_null) none <|
      .orElse "latest_height" (.option Height.format Height.not_says_null) none .nil)
    (fun p => ⟨p.1, p.2.1, p.2.2.1, p.2.2.2.1, p.2.2.2.2.1⟩)
    (fun c => (c.data, c.codeId, c.frozen, c.frozenHeight, c.latestHeight, ()))
    (fun _ => rfl) (fun _ => rfl) (by decide)

def WasmHeader.format : Format WasmHeader :=
  .struct (.one "data" .string <| .one "height" Height.format .nil) (fun p => ⟨p.1, p.2.1⟩)
    (fun w => (w.data, w.height, ())) (fun _ => rfl) (fun _ => rfl) (by decide)

def Misbehaviour.format : Format Misbehaviour :=
  .struct (.one "code_id" .string <| .one "client_id" .string <|
      .one "header_1" WasmHeader.format <| .one "header_2" WasmHeader.format .nil)
    (fun p => ⟨p.1, p.2.1, p.2.2.1, p.2.2.2.1⟩)
    (fun m => (m.codeId, m.clientId, m.header₁, m.header₂, ()))
    (fun _ => rfl) (fun _ => rfl) (by decide)

/-! ### The messages -/

namespace HandleMsg

def initializeState : Fields (ConsensusState × ClientState × Unit) :=
  .one "consensus_state" ConsensusState.format <| .one "me" ClientState.format .nil

def checkHeaderAndUpdateState : Fields (WasmHeader × ConsensusState × ClientState × Unit) :=
  .one "header" WasmHeader.format <| .one "consensus_state" ConsensusState.format <|
    .one "me" ClientState.format .nil

def verifyUpgradeAndUpdateState : Fields (ClientState × ClientState × ConsensusState × String ×
    String × ConsensusState × Unit) :=
  .one "me" ClientState.format <| .one "new_client_state" ClientState.format <|
    .one "new_consensus_state" ConsensusState.format <| .one "client_upgrade_proof" .string <|
    .one "consensus_state_upgrade_proof" .string <|
    .one "last_height_consensus_state" ConsensusState.format .nil

def checkMisbehaviourAndUpdateState : Fields (ClientState × Misbehaviour × ConsensusState ×
    ConsensusState × Unit) :=
  .one "me" ClientState.format <| .one "misbehaviour" Misbehaviour.format <|
    .one "consensus_state_1" ConsensusState.format <|
    .one "consensus_state_2" ConsensusState.format .nil

def checkSubstituteAndUpdateState : Fields (ClientState × ClientState × ConsensusState × Height ×
    Unit) :=
  .one "me" ClientState.format <| .one "substitute_client_state" ClientState.format <|
    .one "subject_consensus_state" ConsensusState.format <|
    .one "initial_height" Height.format .nil

def zeroCustomFields : Fields (ClientState × Unit) := .one "me" ClientState.format .nil

def write : HandleMsg → String × Json
  | .InitializeState consensusState me =>
    ("initializestate", .obj (initializeState.write (consensusState, me, ())))
  | .CheckHeaderAndUpdateState header consensusState me =>
    ("checkheaderandupdatestate",
      .obj (checkHeaderAndUpdateState.write (header, consensusState, me, ())))
  | .VerifyUpgradeAndUpdateState me newClientState newConsensusState clientUpgradeProof
      consensusStateUpgradeProof lastHeightConsensusState =>
    ("verifyupgradeandupdatestate", .obj (verifyUpgradeAndUpdateState.write
      (me, newClientState, newConsensusState, clientUpgradeProof, consensusStateUpgradeProof,
        lastHeightConsensusState, ())))
  | .CheckMisbehaviourAndUpdateState me misbehaviour consensusState₁ consensusState₂ =>
    ("checkmisbehaviourandupdatestate", .obj (checkMisbehaviourAndUpdateState.write
      (me, misbehaviour, consensusState₁, consensusState₂, ())))
  | .CheckSubstituteAndUpdateState me substituteClientState subjectConsensusState
      initialHeight =>
    ("checksubstituteandupdatestate", .obj (checkSubstituteAndUpdateState.write
      (me, substituteClientState, subjectConsensusState, initialHeight, ())))
  | .ZeroCustomFields me => ("zerocustomfields", .obj (zeroCustomFields.write (me, ())))

/-- `rename_all = "lowercase"`. -/
def variants : List (Variant HandleMsg) :=
  [.struct "initializestate" initializeState
      fun (consensusState, me, ()) => .InitializeState consensusState me,
    .struct "checkheaderandupdatestate" checkHeaderAndUpdateState
      fun (header, consensusState, me, ()) => .CheckHeaderAndUpdateState header consensusState me,
    .struct "verifyupgradeandupdatestate" verifyUpgradeAndUpdateState
      fun (me, newClientState, newConsensusState, clientUpgradeProof, consensusStateUpgradeProof,
          lastHeightConsensusState, ()) =>
        .VerifyUpgradeAndUpdateState me newClientState newConsensusState clientUpgradeProof
          consensusStateUpgradeProof lastHeightConsensusState,
    .struct "checkmisbehaviourandupdatestate" checkMisbehaviourAndUpdateState
      fun (me, misbehaviour, consensusState₁, consensusState₂, ()) =>
        .CheckMisbehaviourAndUpdateState me misbehaviour consensusState₁ consensusState₂,
    .struct "checksubstituteandupdatestate" checkSubstituteAndUpdateState
      fun (me, substituteClientState, subjectConsensusState, initialHeight, ()) =>
        .CheckSubstituteAndUpdateState me substituteClientState subjectConsensusState initialHeight,
    .struct "zerocustomfields" zeroCustomFields fun (me, ()) => .ZeroCustomFields me]

end HandleMsg

namespace QueryMsg

def verifyClientState : Fields (ClientState × Height × MerklePrefix × String × String ×
    CosmosClientState × ConsensusState × Unit) :=
  .one "me" ClientState.format <| .one "height" Height.format <|
    .one "commitment_prefix" MerklePrefix.format <|
    .one "counterparty_client_identifier" .string <| .one "proof" .string <|
    .one "counterparty_client_state" CosmosClientState.format <|
    .one "consensus_state" ConsensusState.format .nil

def verifyClientConsensusState : Fields (ClientState × Height × Height × MerklePrefix × String ×
    String × CosmosConsensusState × ConsensusState × Unit) :=
  .one "me" ClientState.format <| .one "height" Height.format <|
    .one "consensus_height" Height.format <| .one "commitment_prefix" MerklePrefix.format <|
    .one "counterparty_client_identifier" .string <| .one "proof" .string <|
    .one "counterparty_consensus_state" CosmosConsensusState.format <|
    .one "consensus_state" ConsensusState.format .nil

def verifyConnectionState : Fields (ClientState × Height × MerklePrefix × String × String ×
    ConnectionEnd × ConsensusState × Unit) :=
  .one "me" ClientState.format <| .one "height" Height.format <|
    .one "commitment_prefix" MerklePrefix.format <| .one "proof" .string <|
    .one "connection_id" .string <| .one "connection_end" ConnectionEnd.format <|
    .one "consensus_state" ConsensusState.format .nil

def verifyChannelState : Fields (ClientState × Height × MerklePrefix × String × String × String ×
    Channel × ConsensusState × Unit) :=
  .one "me" ClientState.format <| .one "height" Height.format <|
    .one "commitment_prefix" MerklePrefix.format <| .one "proof" .string <|
    .one "port_id" .string <| .one "channel_id" .string <| .one "channel" Channel.format <|
    .one "consensus_state" ConsensusState.format .nil

/-- The fields that the queries about packets begin with. -/
def packet {α : Type} (rest : Fields α) : Fields (ClientState × Height × MerklePrefix × String ×
    String × String × UInt64 × UInt64 × α) :=
  .one "me" ClientState.format <| .one "height" Height.format <|
    .one "commitment_prefix" MerklePrefix.format <| .one "proof" .string <|
    .one "port_id" .string <| .one "channel_id" .string <| .one "delay_time_period" .u64 <|
    .one "delay_block_period" .u64 rest

def verifyPacketCommitment : Fields (ClientState × Height × MerklePrefix × String × String ×
    String × UInt64 × UInt64 × UInt64 × String × ConsensusState × Unit) :=
  packet <| .one "sequence" .u64 <| .one "commitment_bytes" .string <|
    .one "consensus_state" ConsensusState.format .nil

def verifyPacketAcknowledgement : Fields (ClientState × Height × MerklePrefix × String × String ×
    String × UInt64 × UInt64 × UInt64 × String × ConsensusState × Unit) :=
  packet <| .one "sequence" .u64 <| .one "acknowledgement" .string <|
    .one "consensus_state" ConsensusState.format .nil

def verifyPacketReceiptAbsence : Fields (ClientState × Height × MerklePrefix × String × String ×
    String × UInt64 × UInt64 × UInt64 × ConsensusState × Unit) :=
  packet <| .one "sequence" .u64 <| .one "consensus_state" ConsensusState.format .nil

def verifyNextSequenceRecv : Fields (ClientState × Height × MerklePrefix × String × String ×
    String × UInt64 × UInt64 × UInt64 × ConsensusState × Unit) :=
  packet <| .one "next_sequence_recv" .u64 <| .one "consensus_state" ConsensusState.format .nil

def status : Fields (ClientState × ConsensusState × Unit) :=
  .one "me" ClientState.format <| .one "consensus_state" ConsensusState.format .nil

def processedTime : Fields (Height × Unit) := .one "height" Height.format .nil

def write : QueryMsg → String × Json
  | .VerifyClientState me height commitmentPrefix counterpartyClientIdentifier proof
      counterpartyClientState consensusState =>
    ("verifyclientstate", .obj (verifyClientState.write (me, height, commitmentPrefix,
      counterpartyClientIdentifier, proof, counterpartyClientState, consensusState, ())))
  | .VerifyClientConsensusState me height consensusHeight commitmentPrefix
      counterpartyClientIdentifier proof counterpartyConsensusState consensusState =>
    ("verifyclientconsensusstate", .obj (verifyClientConsensusState.write (me, height,
      consensusHeight, commitmentPrefix, counterpartyClientIdentifier, proof,
      counterpartyConsensusState, consensusState, ())))
  | .VerifyConnectionState me height commitmentPrefix proof connectionId connectionEnd
      consensusState =>
    ("verifyconnectionstate", .obj (verifyConnectionState.write (me, height, commitmentPrefix,
      proof, connectionId, connectionEnd, consensusState, ())))
  | .VerifyChannelState me height commitmentPrefix proof portId channelId channel consensusState =>
    ("verifychannelstate", .obj (verifyChannelState.write (me, height, commitmentPrefix, proof,
      portId, channelId, channel, consensusState, ())))
  | .VerifyPacketCommitment me height commitmentPrefix proof portId channelId delayTimePeriod
      delayBlockPeriod sequence commitmentBytes consensusState =>
    ("verifypacketcommitment", .obj (verifyPacketCommitment.write (me, height, commitmentPrefix,
      proof, portId, channelId, delayTimePeriod, delayBlockPeriod, sequence, commitmentBytes,
      consensusState, ())))
  | .VerifyPacketAcknowledgement me height commitmentPrefix proof portId channelId delayTimePeriod
      delayBlockPeriod sequence acknowledgement consensusState =>
    ("verifypacketacknowledgement", .obj (verifyPacketAcknowledgement.write (me, height,
      commitmentPrefix, proof, portId, channelId, delayTimePeriod, delayBlockPeriod, sequence,
      acknowledgement, consensusState, ())))
  | .VerifyPacketReceiptAbsence me height commitmentPrefix proof portId channelId delayTimePeriod
      delayBlockPeriod sequence consensusState =>
    ("verifypacketreceiptabsence", .obj (verifyPacketReceiptAbsence.write (me, height,
      commitmentPrefix, proof, portId, channelId, delayTimePeriod, delayBlockPeriod, sequence,
      consensusState, ())))
  | .VerifyNextSequenceRecv me height commitmentPrefix proof portId channelId delayTimePeriod
      delayBlockPeriod nextSequenceRecv consensusState =>
    ("verifynextsequencerecv", .obj (verifyNextSequenceRecv.write (me, height, commitmentPrefix,
      proof, portId, channelId, delayTimePeriod, delayBlockPeriod, nextSequenceRecv,
      consensusState, ())))
  | .Status me consensusState => ("status", .obj (status.write (me, consensusState, ())))
  | .ProcessedTime height => ("processedtime", .obj (processedTime.write (height, ())))

def variants : List (Variant QueryMsg) :=
  [.struct "verifyclientstate" verifyClientState
      fun (me, height, commitmentPrefix, counterpartyClientIdentifier, proof,
          counterpartyClientState, consensusState, ()) =>
        .VerifyClientState me height commitmentPrefix counterpartyClientIdentifier proof
          counterpartyClientState consensusState,
    .struct "verifyclientconsensusstate" verifyClientConsensusState
      fun (me, height, consensusHeight, commitmentPrefix, counterpartyClientIdentifier, proof,
          counterpartyConsensusState, consensusState, ()) =>
        .VerifyClientConsensusState me height consensusHeight commitmentPrefix
          counterpartyClientIdentifier proof counterpartyConsensusState consensusState,
    .struct "verifyconnectionstate" verifyConnectionState
      fun (me, height, commitmentPrefix, proof, connectionId, connectionEnd, consensusState, ()) =>
        .VerifyConnectionState me height commitmentPrefix proof connectionId connectionEnd
          consensusState,
    .struct "verifychannelstate" verifyChannelState
      fun (me, height, commitmentPrefix, proof, portId, channelId, channel, consensusState, ()) =>
        .VerifyChannelState me height commitmentPrefix proof portId channelId channel
          consensusState,
    .struct "verifypacketcommitment" verifyPacketCommitment
      fun (me, height, commitmentPrefix, proof, portId, channelId, delayTimePeriod,
          delayBlockPeriod, sequence, commitmentBytes, consensusState, ()) =>
        .VerifyPacketCommitment me height commitmentPrefix proof portId channelId delayTimePeriod
          delayBlockPeriod sequence commitmentBytes consensusState,
    .struct "verifypacketacknowledgement" verifyPacketAcknowledgement
      fun (me, height, commitmentPrefix, proof, portId, channelId, delayTimePeriod,
          delayBlockPeriod, sequence, acknowledgement, consensusState, ()) =>
        .VerifyPacketAcknowledgement me height commitmentPrefix proof portId channelId
          delayTimePeriod delayBlockPeriod sequence acknowledgement consensusState,
    .struct "verifypacketreceiptabsence" verifyPacketReceiptAbsence
      fun (me, height, commitmentPrefix, proof, portId, channelId, delayTimePeriod,
          delayBlockPeriod, sequence, consensusState, ()) =>
        .VerifyPacketReceiptAbsence me height commitmentPrefix proof portId channelId
          delayTimePeriod delayBlockPeriod sequence consensusState,
    .struct "verifynextsequencerecv" verifyNextSequenceRecv
      fun (me, height, commitmentPrefix, proof, portId, channelId, delayTimePeriod,
          delayBlockPeriod, nextSequenceRecv, consensusState, ()) =>
        .VerifyNextSequenceRecv me height commitmentPrefix proof portId channelId delayTimePeriod
          delayBlockPeriod nextSequenceRecv consensusState,
    .struct "status" status fun (me, consensusState, ()) => .Status me consensusState,
    .struct "processedtime" processedTime fun (height, ()) => .ProcessedTime height]

end QueryMsg

/-! ### What may be left out -/

/-- The fields that may be left out, as they are written then. -/
def emptyFields : List (String × Json) :=
  [("revision_number", .num 0), ("revision_height", .num 0), ("frozen", .bool false),
    ("frozen_height", .null), ("latest_height", .null)]

lemma not_mem_emptyFields {name : String} (hname : name ∉ emptyFields.map Prod.fst) (j : Json) :
    (name, j) ∉ emptyFields := fun h => hname (List.mem_map_of_mem h)

variable {drop : String → Json → Bool}

lemma u64_mem_emptyFields {name : String} (hname : name = "revision_number" ∨
    name = "revision_height") (n : UInt64) : (name, Format.u64.write n) ∈ emptyFields ↔ n = 0 := by
  rw [← UInt64.toNat_inj]
  rcases hname with rfl | rfl <;> simp [emptyFields, Format.u64]

lemma frozen_mem_emptyFields (b : Bool) : ("frozen", Format.bool.write b) ∈ emptyFields ↔
    b = false := by
  simp [emptyFields, Format.bool]

lemma height_mem_emptyFields {name : String} (hname : name = "frozen_height" ∨
    name = "latest_height") (x : Option Height) :
    (name, (Format.option Height.format Height.not_says_null).write x) ∈ emptyFields ↔
      x = none := by
  rcases hname with rfl | rfl <;> rcases x with _ | height <;>
    simp [emptyFields, Format.option, Json.option, Height.format_write, Height.json]

lemma exact_required {α β : Type} {name : String} {F : Format α} {rest : Fields β}
    (hname : name ∉ emptyFields.map Prod.fst) (hF : F.Exact drop emptyFields)
    (hrest : rest.Exact drop emptyFields) : (Fields.one name F rest).Exact drop emptyFields :=
  Fields.Exact.one hF (fun _ => not_mem_emptyFields hname _) hrest

lemma Height.exact : Height.format.Exact drop emptyFields :=
  Format.exact_struct <|
    .orElse Format.exact_u64 (u64_mem_emptyFields (.inl rfl)) nofun <|
    .orElse Format.exact_u64 (u64_mem_emptyFields (.inr rfl)) nofun Fields.exact_nil

lemma MerklePrefix.exact : MerklePrefix.format.Exact drop emptyFields :=
  Format.exact_struct <| exact_required (by decide) Format.exact_string Fields.exact_nil

lemma MerkleRoot.exact : MerkleRoot.format.Exact drop emptyFields :=
  Format.exact_struct <| exact_required (by decide) Format.exact_string Fields.exact_nil

lemma Counterparty.exact : Counterparty.format.Exact drop emptyFields :=
  Format.exact_struct <| exact_required (by decide) Format.exact_string <|
    exact_required (by decide) Format.exact_string <|
    exact_required (by decide) MerklePrefix.exact Fields.exact_nil

lemma Version.exact : Version.format.Exact drop emptyFields :=
  Format.exact_struct <| exact_required (by decide) Format.exact_string <|
    exact_required (by decide) Format.exact_string.vec Fields.exact_nil

lemma ConnectionEnd.exact : ConnectionEnd.format.Exact drop emptyFields :=
  Format.exact_struct <| exact_required (by decide) Format.exact_string <|
    exact_required (by decide) Version.exact.vec <|
    exact_required (by decide) Format.exact_i32 <|
    exact_required (by decide) Counterparty.exact <|
    exact_required (by decide) Format.exact_u64 Fields.exact_nil

lemma Channel.exact : Channel.format.Exact drop emptyFields :=
  Format.exact_struct <| exact_required (by decide) Format.exact_i32 <|
    exact_required (by decide) Format.exact_i32 <|
    exact_required (by decide) Counterparty.exact <|
    exact_required (by decide) Format.exact_string.vec <|
    exact_required (by decide) Format.exact_string Fields.exact_nil

lemma CosmosConsensusState.exact : CosmosConsensusState.format.Exact drop emptyFields :=
  Format.exact_struct <| exact_required (by decide) MerkleRoot.exact Fields.exact_nil

lemma CosmosClientState.exact : CosmosClientState.format.Exact drop emptyFields := by
  refine Format.exact_struct <| .one Height.exact (fun height hmem => ?_) Fields.exact_nil
  simp [emptyFields, Height.format_write, Height.json] at hmem

lemma ConsensusState.exact : ConsensusState.format.Exact drop emptyFields :=
  Format.exact_struct <| exact_required (by decide) Format.exact_string <|
    exact_required (by decide) Format.exact_string <|
    exact_required (by decide) Format.exact_u64 <|
    exact_required (by decide) MerkleRoot.exact Fields.exact_nil

lemma ClientState.exact : ClientState.format.Exact drop emptyFields :=
  Format.exact_struct <| exact_required (by decide) Format.exact_string <|
    exact_required (by decide) Format.exact_string <|
    .orElse Format.exact_bool frozen_mem_emptyFields nofun <|
    .orElse Height.exact.option (height_mem_emptyFields (.inl rfl)) nofun <|
    .orElse Height.exact.option (height_mem_emptyFields (.inr rfl)) nofun Fields.exact_nil

lemma WasmHeader.exact : WasmHeader.format.Exact drop emptyFields :=
  Format.exact_struct <| exact_required (by decide) Format.exact_string <|
    exact_required (by decide) Height.exact Fields.exact_nil

lemma Misbehaviour.exact : Misbehaviour.format.Exact drop emptyFields :=
  Format.exact_struct <| exact_required (by decide) Format.exact_string <|
    exact_required (by decide) Format.exact_string <|
    exact_required (by decide) WasmHeader.exact <|
    exact_required (by decide) WasmHeader.exact Fields.exact_nil

lemma HandleMsg.exists_exact (m : HandleMsg) : ∃ v ∈ HandleMsg.variants, v.tag = m.write.1 ∧
    (v.Says (prune drop m.write.2) m ↔ DropsOnly drop emptyFields m.write.2) := by
  cases m with
  | InitializeState consensusState me =>
    refine Variant.exists_exact (l := variants) (i := 0) rfl (by decide) ?_ ?_
      (consensusState, me, ())
    · intro p p' h
      simpa [Prod.ext_iff] using h
    · exact exact_required (by decide) ConsensusState.exact <|
        exact_required (by decide) ClientState.exact Fields.exact_nil
  | CheckHeaderAndUpdateState header consensusState me =>
    refine Variant.exists_exact (l := variants) (i := 1) rfl (by decide) ?_ ?_
      (header, consensusState, me, ())
    · intro p p' h
      simpa [Prod.ext_iff] using h
    · exact exact_required (by decide) WasmHeader.exact <|
        exact_required (by decide) ConsensusState.exact <|
        exact_required (by decide) ClientState.exact Fields.exact_nil
  | VerifyUpgradeAndUpdateState me newClientState newConsensusState clientUpgradeProof
      consensusStateUpgradeProof lastHeightConsensusState =>
    refine Variant.exists_exact (l := variants) (i := 2) rfl (by decide) ?_ ?_
      (me, newClientState, newConsensusState, clientUpgradeProof, consensusStateUpgradeProof,
        lastHeightConsensusState, ())
    · intro p p' h
      simpa [Prod.ext_iff] using h
    · exact exact_required (by decide) ClientState.exact <|
        exact_required (by decide) ClientState.exact <|
        exact_required (by decide) ConsensusState.exact <|
        exact_required (by decide) Format.exact_string <|
        exact_required (by decide) Format.exact_string <|
        exact_required (by decide) ConsensusState.exact Fields.exact_nil
  | CheckMisbehaviourAndUpdateState me misbehaviour consensusState₁ consensusState₂ =>
    refine Variant.exists_exact (l := variants) (i := 3) rfl (by decide) ?_ ?_
      (me, misbehaviour, consensusState₁, consensusState₂, ())
    · intro p p' h
      simpa [Prod.ext_iff] using h
    · exact exact_required (by decide) ClientState.exact <|
        exact_required (by decide) Misbehaviour.exact <|
        exact_required (by decide) ConsensusState.exact <|
        exact_required (by decide) ConsensusState.exact Fields.exact_nil
  | CheckSubstituteAndUpdateState me substituteClientState subjectConsensusState initialHeight =>
    refine Variant.exists_exact (l := variants) (i := 4) rfl (by decide) ?_ ?_
      (me, substituteClientState, subjectConsensusState, initialHeight, ())
    · intro p p' h
      simpa [Prod.ext_iff] using h
    · exact exact_required (by decide) ClientState.exact <|
        exact_required (by decide) ClientState.exact <|
        exact_required (by decide) ConsensusState.exact <|
        exact_required (by decide) Height.exact Fields.exact_nil
  | ZeroCustomFields me =>
    refine Variant.exists_exact (l := variants) (i := 5) rfl (by decide) ?_ ?_
      (me, ())
    · intro p p' h
      simpa [Prod.ext_iff] using h
    · exact exact_required (by decide) ClientState.exact Fields.exact_nil

lemma QueryMsg.exact_packet {α : Type} {rest : Fields α} (hrest : rest.Exact drop emptyFields) :
    (QueryMsg.packet rest).Exact drop emptyFields :=
  exact_required (by decide) ClientState.exact <| exact_required (by decide) Height.exact <|
    exact_required (by decide) MerklePrefix.exact <|
    exact_required (by decide) Format.exact_string <|
    exact_required (by decide) Format.exact_string <|
    exact_required (by decide) Format.exact_string <|
    exact_required (by decide) Format.exact_u64 <|
    exact_required (by decide) Format.exact_u64 hrest

lemma QueryMsg.exists_exact (q : QueryMsg) : ∃ v ∈ QueryMsg.variants, v.tag = q.write.1 ∧
    (v.Says (prune drop q.write.2) q ↔ DropsOnly drop emptyFields q.write.2) := by
  cases q with
  | VerifyClientState me height commitmentPrefix counterpartyClientIdentifier proof
      counterpartyClientState consensusState =>
    refine Variant.exists_exact (l := variants) (i := 0) rfl (by decide) ?_ ?_
      (me, height, commitmentPrefix, counterpartyClientIdentifier, proof, counterpartyClientState,
        consensusState, ())
    · intro p p' h
      simpa [Prod.ext_iff] using h
    · exact exact_required (by decide) ClientState.exact <|
        exact_required (by decide) Height.exact <|
        exact_required (by decide) MerklePrefix.exact <|
        exact_required (by decide) Format.exact_string <|
        exact_required (by decide) Format.exact_string <|
        exact_required (by decide) CosmosClientState.exact <|
        exact_required (by decide) ConsensusState.exact Fields.exact_nil
  | VerifyClientConsensusState me height consensusHeight commitmentPrefix
      counterpartyClientIdentifier proof counterpartyConsensusState consensusState =>
    refine Variant.exists_exact (l := variants) (i := 1) rfl (by decide) ?_ ?_
      (me, height, consensusHeight, commitmentPrefix, counterpartyClientIdentifier, proof,
        counterpartyConsensusState, consensusState, ())
    · intro p p' h
      simpa [Prod.ext_iff] using h
    · exact exact_required (by decide) ClientState.exact <|
        exact_required (by decide) Height.exact <|
        exact_required (by decide) Height.exact <|
        exact_required (by decide) MerklePrefix.exact <|
        exact_required (by decide) Format.exact_string <|
        exact_required (by decide) Format.exact_string <|
        exact_required (by decide) CosmosConsensusState.exact <|
        exact_required (by decide) ConsensusState.exact Fields.exact_nil
  | VerifyConnectionState me height commitmentPrefix proof connectionId connectionEnd consensusState
      =>
    refine Variant.exists_exact (l := variants) (i := 2) rfl (by decide) ?_ ?_
      (me, height, commitmentPrefix, proof, connectionId, connectionEnd, consensusState, ())
    · intro p p' h
      simpa [Prod.ext_iff] using h
    · exact exact_required (by decide) ClientState.exact <|
        exact_required (by decide) Height.exact <|
        exact_required (by decide) MerklePrefix.exact <|
        exact_required (by decide) Format.exact_string <|
        exact_required (by decide) Format.exact_string <|
        exact_required (by decide) ConnectionEnd.exact <|
        exact_required (by decide) ConsensusState.exact Fields.exact_nil
  | VerifyChannelState me height commitmentPrefix proof portId channelId channel consensusState =>
    refine Variant.exists_exact (l := variants) (i := 3) rfl (by decide) ?_ ?_
      (me, height, commitmentPrefix, proof, portId, channelId, channel, consensusState, ())
    · intro p p' h
      simpa [Prod.ext_iff] using h
    · exact exact_required (by decide) ClientState.exact <|
        exact_required (by decide) Height.exact <|
        exact_required (by decide) MerklePrefix.exact <|
        exact_required (by decide) Format.exact_string <|
        exact_required (by decide) Format.exact_string <|
        exact_required (by decide) Format.exact_string <|
        exact_required (by decide) Channel.exact <|
        exact_required (by decide) ConsensusState.exact Fields.exact_nil
  | VerifyPacketCommitment me height commitmentPrefix proof portId channelId delayTimePeriod
      delayBlockPeriod sequence commitmentBytes consensusState =>
    refine Variant.exists_exact (l := variants) (i := 4) rfl (by decide) ?_ ?_
      (me, height, commitmentPrefix, proof, portId, channelId, delayTimePeriod, delayBlockPeriod,
        sequence, commitmentBytes, consensusState, ())
    · intro p p' h
      simpa [Prod.ext_iff] using h
    · exact exact_packet <|
        exact_required (by decide) Format.exact_u64 <|
        exact_required (by decide) Format.exact_string <|
        exact_required (by decide) ConsensusState.exact Fields.exact_nil
  | VerifyPacketAcknowledgement me height commitmentPrefix proof portId channelId delayTimePeriod
      delayBlockPeriod sequence acknowledgement consensusState =>
    refine Variant.exists_exact (l := variants) (i := 5) rfl (by decide) ?_ ?_
      (me, height, commitmentPrefix, proof, portId, channelId, delayTimePeriod, delayBlockPeriod,
        sequence, acknowledgement, consensusState, ())
    · intro p p' h
      simpa [Prod.ext_iff] using h
    · exact exact_packet <|
        exact_required (by decide) Format.exact_u64 <|
        exact_required (by decide) Format.exact_string <|
        exact_required (by decide) ConsensusState.exact Fields.exact_nil
  | VerifyPacketReceiptAbsence me height commitmentPrefix proof portId channelId delayTimePeriod
      delayBlockPeriod sequence consensusState =>
    refine Variant.exists_exact (l := variants) (i := 6) rfl (by decide) ?_ ?_
      (me, height, commitmentPrefix, proof, portId, channelId, delayTimePeriod, delayBlockPeriod,
        sequence, consensusState, ())
    · intro p p' h
      simpa [Prod.ext_iff] using h
    · exact exact_packet <|
        exact_required (by decide) Format.exact_u64 <|
        exact_required (by decide) ConsensusState.exact Fields.exact_nil
  | VerifyNextSequenceRecv me height commitmentPrefix proof portId channelId delayTimePeriod
      delayBlockPeriod nextSequenceRecv consensusState =>
    refine Variant.exists_exact (l := variants) (i := 7) rfl (by decide) ?_ ?_
      (me, height, commitmentPrefix, proof, portId, channelId, delayTimePeriod, delayBlockPeriod,
        nextSequenceRecv, consensusState, ())
    · intro p p' h
      simpa [Prod.ext_iff] using h
    · exact exact_packet <|
        exact_required (by decide) Format.exact_u64 <|
        exact_required (by decide) ConsensusState.exact Fields.exact_nil
  | Status me consensusState =>
    refine Variant.exists_exact (l := variants) (i := 8) rfl (by decide) ?_ ?_
      (me, consensusState, ())
    · intro p p' h
      simpa [Prod.ext_iff] using h
    · exact exact_required (by decide) ClientState.exact <|
        exact_required (by decide) ConsensusState.exact Fields.exact_nil
  | ProcessedTime height =>
    refine Variant.exists_exact (l := variants) (i := 9) rfl (by decide) ?_ ?_
      (height, ())
    · intro p p' h
      simpa [Prod.ext_iff] using h
    · exact exact_required (by decide) Height.exact Fields.exact_nil

/-! ### Messages -/

def HandleMsg.format : Format HandleMsg :=
  .enum HandleMsg.variants HandleMsg.write (by decide)
    fun m => Variant.exists_says m.exists_exact

def QueryMsg.format : Format QueryMsg :=
  .enum QueryMsg.variants QueryMsg.write (by decide)
    fun q => Variant.exists_says q.exists_exact

lemma HandleMsg.exact : HandleMsg.format.Exact drop emptyFields :=
  Format.exact_enum (fun m => by cases m <;> exact not_mem_emptyFields (by decide) _)
    HandleMsg.exists_exact

lemma QueryMsg.exact : QueryMsg.format.Exact drop emptyFields :=
  Format.exact_enum (fun q => by cases q <;> exact not_mem_emptyFields (by decide) _)
    QueryMsg.exists_exact

/-- **What the host chain may leave out of a message.** Whatever fields are dropped from a message,
told by their names and values and at any depth, it is still read as itself exactly if each of them
is empty: a number of a height that is 0, `frozen` where it is `false`, or the height of a client's
state where there is none. -/
theorem message_read_iff (drop : String → Json → Bool) :
    (∀ m : HandleMsg, HandleMsg.format.read (prune drop (HandleMsg.format.write m)) = .ok m ↔
      DropsOnly drop emptyFields (HandleMsg.format.write m)) ∧
    ∀ q : QueryMsg, QueryMsg.format.read (prune drop (QueryMsg.format.write q)) = .ok q ↔
      DropsOnly drop emptyFields (QueryMsg.format.write q) :=
  ⟨fun m => HandleMsg.format.read_eq_ok.trans (HandleMsg.exact m),
    fun q => QueryMsg.format.read_eq_ok.trans (QueryMsg.exact q)⟩

example : QueryMsg.format.read (.obj [("processedtime", .obj [("height", .obj [
    ("revision_height", .num 7)])])]) = .ok (.ProcessedTime ⟨0, 7⟩) := rfl

end CeloLightClient.Contract

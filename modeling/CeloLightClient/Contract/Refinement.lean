import CeloLightClient.Contract.Bootstrap
import CeloLightClient.Lib.Trace

/-!
The contract against the state machine in memory.

The contract keeps no snapshot between two calls: it is given one, as RLP in base64, and returns
the next. That makes no difference. A run of the state machine in memory is a run of the contract,
where each call is given the consensus state that the one before returned.
-/

namespace CeloLightClient.Contract

open Lib Lib.Outcome Lib.Action State

/-- A header as RLP, the height it is sent under, and the block in which it arrives. -/
structure Packet where
  env : Env
  header : Bytes
  height : Height

variable {H : Host} {me : ClientState} {consensusState : ConsensusState} {storage : Storage}
  {light : LightClientState} {s s' : Snapshot} {packet : Packet} {l : List (Packet × Snapshot)}

/-- In memory, the header is read and inserted into the snapshot. -/
def MemoryStep (H : Host) (config : StateConfig) (s : Snapshot) (packet : Packet)
    (s' : Snapshot) : Prop :=
  ∃ header, Header.fromRlp H.rlp packet.header = .ok header ∧
    exec (insertHeader H.toPlatform config header packet.env.time) s = (.ok (), s')

/-- The result of an update: the client state, and the next consensus state. -/
def updateResult (newClientState : ClientState) (newConsensusState : ConsensusState) : Json :=
  .obj [("new_client_state", newClientState.json),
    ("new_consensus_state", newConsensusState.json),
    ("result", ClientStateCallResponseResult.success.json)]

/-- On the chain, the header is sent with the consensus state, and the next one is returned. -/
def ContractStep (H : Host) (me : ClientState) (t : ConsensusState × Storage) (packet : Packet)
    (t' : ConsensusState × Storage) : Prop :=
  ∃ response, exec (handle H packet.env (.CheckHeaderAndUpdateState
      ⟨H.base64.encode packet.header, packet.height⟩ t.1 me)) t.2 = (.ok response, t'.2) ∧
    response.data = some (H.toVec (updateResult me t'.1))

/-- The consensus state says what the snapshot of the header says. -/
structure Mirrors (H : Host) (packet : Packet) (s : Snapshot) (consensusState : ConsensusState) :
    Prop where
  data_eq : ∀ target, fromBase64Rlp H (Snapshot.fromRlp H.rlp) consensusState.data target = .ok s
  timestamp_eq : consensusState.timestamp = s.timestamp
  root_eq : ∃ header, Header.fromRlp H.rlp packet.header = .ok header ∧
    consensusState.root = ⟨H.base64.encode header.root.1⟩

lemma snapshot_of_insert {config : StateConfig} {header : Header} {now : UInt64}
    (hsize : 0 < config.epochSize)
    (h : exec (insertHeader H.toPlatform config header now) s = (.ok (), s')) :
    s'.timestamp = header.time ∧ s'.aggregatedSeal.Nonneg := by
  obtain ⟨number, hash, extra, ha, rfl⟩ := (insertHeader_eq_ok hsize).mp h
  exact ⟨rfl, (IstanbulExtra.nonneg_of_fromRlp ha.extra_eq).aggregatedSeal⟩

/-- **One step**: the consensus state that holds the snapshot is taken to one that holds the
next. -/
lemma contractStep_of_memoryStep (hrlp : H.rlp.Lawful) (hbase64 : H.base64.Lawful)
    (hsize : 0 < light.epochSize)
    (hme : fromBase64Rlp H (LightClientState.fromRlp H.rlp) me.data "msg.light_client_state" =
      .ok light) (hfits : H.rlp.Fits (s'.item H.rlp))
    (hs : ∀ target, fromBase64Rlp H (Snapshot.fromRlp H.rlp) consensusState.data target = .ok s)
    (h : MemoryStep H light.config s packet s') :
    ∃ t', ContractStep H me (consensusState, storage) packet t' ∧ Mirrors H packet s' t'.1 := by
  obtain ⟨header, hheader, hinsert⟩ := h
  obtain ⟨htime, hnonneg⟩ := snapshot_of_insert hsize hinsert
  have hingest : ingest H light.config s header packet.env.time = .ok s' := by
    rw [ingest, hinsert]
  have hupdates : Updates H packet.env me consensusState
      ⟨H.base64.encode packet.header, packet.height⟩ header s s' light :=
    ⟨fromBase64Rlp_of_lawful hbase64 hheader _, hs _, hme, hingest⟩
  refine ⟨(consensusStateOf H s' consensusState.codeId header.time
    ⟨H.base64.encode header.root.1⟩, _), ⟨_, checkHeaderAndUpdateState_eq_ok.mpr
    ⟨header, s, s', light, hupdates, rfl, rfl⟩, rfl⟩, ?_, htime.symm, header, hheader, rfl⟩
  exact consensusStateOf_read hrlp hbase64 hnonneg hfits

/-- **The contract refines the state machine.** What is accepted in memory, header by header, is
accepted by the contract, and after each header the returned consensus state says what the
snapshot in memory says. -/
theorem contract_refines_memory (hrlp : H.rlp.Lawful) (hbase64 : H.base64.Lawful)
    (hsize : 1 ≤ light.epochSize)
    (hme : fromBase64Rlp H (LightClientState.fromRlp H.rlp) me.data "msg.light_client_state" =
      .ok light)
    (hs : s.aggregatedSeal.Nonneg) (hdata : consensusState.data = H.base64.encode (s.toRlp H.rlp))
    (hfits : ∀ t, t = s ∨ (∃ packet, (packet, t) ∈ l) → H.rlp.Fits (t.item H.rlp))
    (h : Trace (MemoryStep H light.config) s l) :
    ∃ m, Trace (ContractStep H me) (consensusState, storage) m ∧
      List.Forall₂ (fun x y => x.1 = y.1 ∧ Mirrors H x.1 x.2 y.2.1) l m := by
  have hstart : ∀ target, fromBase64Rlp H (Snapshot.fromRlp H.rlp) consensusState.data target =
      .ok s := fun target => by
    rw [hdata]
    exact consensusStateOf_read hrlp hbase64 hs (hfits s (.inl rfl)) target
  refine h.simulates (ContractStep H me)
    (fun s t => ∀ target, fromBase64Rlp H (Snapshot.fromRlp H.rlp) t.1.data target = .ok s)
    (fun packet s t => Mirrors H packet s t.1) ?_ hstart
  intro s t packet s' hmem hst hstep
  obtain ⟨t', ht', hmirrors⟩ := contractStep_of_memoryStep hrlp hbase64 (epochSize_pos hsize) hme
    (hfits s' (.inr ⟨packet, hmem⟩)) hst hstep
  exact ⟨t', ht', hmirrors.data_eq, hmirrors⟩

namespace Reference

def packet₁₀ : Packet := ⟨⟨1, 100⟩, Chain.lastBlock.header.toRlp Rlp.reference, ⟨0, 10⟩⟩

/-- The snapshot of block 10, where validator 4 has taken the place of validator 1. -/
def snapshot₁₀ : Snapshot :=
  (exec (insertHeader CeloLightClient.Reference.platform lightClient.config Chain.lastBlock.header
    100) sealedStart).2

-- What has to be computed, in one lemma, since each part needs the hash of the header.
set_option maxRecDepth 10000 in
lemma packet₁₀_computed :
    Header.fromRlp Rlp.reference packet₁₀.header = .ok Chain.lastBlock.header ∧
      exec (insertHeader CeloLightClient.Reference.platform lightClient.config
        Chain.lastBlock.header 100) sealedStart = (.ok (), snapshot₁₀) ∧
      (Rlp.reference.encode (snapshot₁₀.item Rlp.reference)).length < 2 ^ 64 := by
  decide +kernel

lemma packet₁₀_inserted : Trace (MemoryStep (host []) lightClient.config) sealedStart
    [(packet₁₀, snapshot₁₀)] :=
  .cons ⟨_, packet₁₀_computed.1, packet₁₀_computed.2.1⟩ (.nil _)

lemma sealedStart_fits : Rlp.reference.Fits (sealedStart.item Rlp.reference) := by
  unfold Rlp.Codec.Fits
  decide +kernel

end Reference

theorem contract_refines_memory_ten :
    ∃ m, Trace (ContractStep (Reference.host []) (Reference.client ⟨0, 7⟩))
        (Reference.trusted, fun _ => none) m ∧
      List.Forall₂ (fun x y => x.1 = y.1 ∧ Mirrors (Reference.host []) x.1 x.2 y.2.1)
        [(Reference.packet₁₀, Reference.snapshot₁₀)] m := by
  refine contract_refines_memory Rlp.reference_lawful Base64.reference_lawful (by decide)
    (Reference.lightClient_read _ _) ⟨by decide, by decide⟩ rfl ?_ Reference.packet₁₀_inserted
  rintro t (rfl | ⟨packet, hpacket⟩)
  · exact Reference.sealedStart_fits
  · cases List.mem_singleton.mp hpacket
    exact Reference.packet₁₀_computed.2.2

end CeloLightClient.Contract

import CeloLightClient.Contract.Status
import CeloLightClient.Contract.Misbehaviour

/-!
What happens when the chain forks.

Two clients that have gone different ways have each been given a header, and have found it sealed.
These two headers, with the consensus states that they were checked against, are all that it takes
to freeze any client; there is nothing else to show, and nobody else to ask. A frozen client then
is so whatever the time, and for good as far as evidence goes.
-/

namespace CeloLightClient.Contract

open Lib Lib.Outcome Lib.Action State

variable {H : Host} {me me₁ me₂ : ClientState} {t u : ConsensusState × Storage}
  {t₁ t₂ u₁ u₂ : ConsensusState × Storage} {packet packet₁ packet₂ : Packet} {height : Height}
  {codeId clientId : String} {misbehaviour : Misbehaviour}
  {consensusState₁ consensusState₂ : ConsensusState} {response : HandleResponse}

/-- The contract has accepted the header, past the genesis block, of a client that verifies every
header. -/
structure AcceptedBy (H : Host) (me : ClientState) (t : ConsensusState × Storage)
    (packet : Packet) (t' : ConsensusState × Storage) : Prop where
  step : ContractStep H me t packet t'
  verifies : ∃ light, fromBase64Rlp H (LightClientState.fromRlp H.rlp) me.data
    "msg.light_client_state" = .ok light ∧ 1 ≤ light.epochSize ∧ light.verifyEpochHeaders ∧
    light.verifyNonEpochHeaders
  nonGenesis : ∀ header, Header.fromRlp H.rlp packet.header = .ok header → header.number ≠ 0

/-- Two packets, sent as evidence for a height. -/
def evidenceOf (H : Host) (codeId clientId : String) (height : Height) (packet₁ packet₂ : Packet) :
    Misbehaviour where
  codeId := codeId
  clientId := clientId
  header₁ := ⟨H.base64.encode packet₁.header, height⟩
  header₂ := ⟨H.base64.encode packet₂.header, height⟩

/-- The client state, frozen at a height. -/
def ClientState.freeze (me : ClientState) (height : Height) : ClientState :=
  { me with frozen := true, frozenHeight := some height }

/-- The result of misbehaviour. -/
def misbehaviourResult (newClientState : ClientState) : Json :=
  .obj [("result", ClientStateCallResponseResult.success.json),
    ("new_client_state", newClientState.json)]

/-- An accepted header is sealed under the consensus state that it was sent with, and the consensus
state that is returned has its root. -/
lemma AcceptedBy.sealedUnder (hbase64 : H.base64.Lawful) (htoVec : Function.Injective H.toVec)
    (h : AcceptedBy H me t packet u) :
    ∃ header snapshot, Header.fromRlp H.rlp packet.header = .ok header ∧
      SealedUnder H t.1 header snapshot ∧ u.1.root = ⟨H.base64.encode header.root.1⟩ := by
  obtain ⟨⟨response, hexec, hdata⟩, ⟨light, hlight, hsize, hepoch, hnonEpoch⟩, hnz⟩ := h
  obtain ⟨header, snapshot, s', light', hupdates, rfl, -⟩ :=
    checkHeaderAndUpdateState_eq_ok.mp hexec
  have hheader := (readHeader_eq_ok hbase64).mp hupdates.header_eq
  obtain rfl := Except.ok.inj (hupdates.lightClientState_eq.symm.trans hlight)
  have hinsert := ingest_eq_ok.mp hupdates.inserted
  obtain ⟨number, hash, extra, ha, -⟩ := (insertHeader_eq_ok (epochSize_pos hsize)).mp hinsert
  have hv := ha.verified (verifies_of_both hepoch hnonEpoch number) (hnz header hheader)
  have hjson := htoVec (Option.some.inj hdata)
  simp only [updateResult, Json.obj.injEq, List.cons.injEq, Prod.mk.injEq, true_and,
    and_true] at hjson
  refine ⟨header, snapshot, hheader, ⟨hupdates.snapshot_eq, (sealed_of_verifyHeader hv).2⟩, ?_⟩
  rw [← ConsensusState.json_injective hjson]

/-- **When two accepted headers freeze a client**: when the consensus states that they have led to
differ in the root, and the client is not frozen yet. -/
lemma evidenceOf_freezes_iff (hbase64 : H.base64.Lawful) (htoVec : Function.Injective H.toVec)
    (h₁ : AcceptedBy H me₁ t₁ packet₁ u₁) (h₂ : AcceptedBy H me₂ t₂ packet₂ u₂)
    (hme : Configured H me) :
    checkMisbehaviour H me (evidenceOf H codeId clientId height packet₁ packet₂) t₁.1 t₂.1 =
      .ok response ↔
    (frozenBy me height = none ∧ u₁.1.root ≠ u₂.1.root) ∧
      response = frozenResponse H me height := by
  obtain ⟨header₁, snapshot₁, hread₁, hsealed₁, hroot₁⟩ := h₁.sealedUnder hbase64 htoVec
  obtain ⟨header₂, snapshot₂, hread₂, hsealed₂, hroot₂⟩ := h₂.sealedUnder hbase64 htoVec
  have hcarries₁ :
      (evidenceOf H codeId clientId height packet₁ packet₂).header₁.Carries H header₁ :=
    (readHeader_eq_ok hbase64).mpr hread₁
  have hcarries₂ :
      (evidenceOf H codeId clientId height packet₁ packet₂).header₂.Carries H header₂ :=
    (readHeader_eq_ok hbase64).mpr hread₂
  have hroots : u₁.1.root ≠ u₂.1.root ↔ header₁.root ≠ header₂.root := by
    rw [hroot₁, hroot₂, ne_eq, ne_eq, MerkleRoot.mk.injEq, hbase64.injective.eq_iff,
      Subtype.ext_iff]
  rw [checkMisbehaviour_eq_ok, hroots]
  refine and_congr_left fun _ => ⟨?_, ?_⟩
  · rintro ⟨header₁', header₂', _, _, he⟩
    have hne := he.root_ne
    rw [he.carries₁.unique hcarries₁, he.carries₂.unique hcarries₂] at hne
    exact ⟨he.notFrozen, hne⟩
  · rintro ⟨hfrozen, hne⟩
    exact ⟨_, _, _, _, rfl, hfrozen, hcarries₁, hcarries₂, hne, hsealed₁, hsealed₂, hme⟩

/-! ### What a frozen client is -/

lemma frozenBy_freeze {height' : Height} (hle : height ≤ height') :
    frozenBy (me.freeze height) height' = some height := by
  simp [frozenBy, ClientState.freeze, hle]

lemma reports_freeze (htoVec : Function.Injective H.toVec) (hme : Configured H me)
    {now : UInt64} {consensusState : ConsensusState} :
    Reports H now (me.freeze height) consensusState .Frozen := by
  obtain ⟨light, hlight⟩ := hme
  have hread : fromBase64Rlp H (LightClientState.fromRlp H.rlp) (me.freeze height).data
      "msg.light_client_state" = .ok light := hlight
  exact (reports_iff htoVec hread).mpr (.frozen rfl)

/-- **A fork does not go unpunished.** Two headers that have both been accepted, whoever has
accepted them and after whatever, and that have led to consensus states with different roots, freeze
any client that is not frozen yet. From then on it is frozen at all times, and no more evidence is
taken for that height or a later one. -/
theorem divergence_punished (hbase64 : H.base64.Lawful) (htoVec : Function.Injective H.toVec)
    (h₁ : AcceptedBy H me₁ t₁ packet₁ u₁) (h₂ : AcceptedBy H me₂ t₂ packet₂ u₂)
    (hroot : u₁.1.root ≠ u₂.1.root) (hme : Configured H me) (hfrozen : frozenBy me height = none)
    (env : Env) (storage : Storage) :
    (∃ response, exec (handle H env (.CheckMisbehaviourAndUpdateState me
        (evidenceOf H codeId clientId height packet₁ packet₂) t₁.1 t₂.1)) storage =
        (.ok response, storage) ∧
      response.data = some (H.toVec (misbehaviourResult (me.freeze height)))) ∧
    (∀ now consensusState, Reports H now (me.freeze height) consensusState .Frozen) ∧
    ∀ env' storage' misbehaviour consensusState₁ consensusState₂,
      height ≤ misbehaviour.header₁.height → ∃ fault, exec (handle H env'
        (.CheckMisbehaviourAndUpdateState (me.freeze height) misbehaviour consensusState₁
          consensusState₂)) storage' = (.error fault, storage') := by
  refine ⟨⟨frozenResponse H me height, ?_, rfl⟩, fun _ _ => reports_freeze htoVec hme, ?_⟩
  · have hok : checkMisbehaviour H me (evidenceOf H codeId clientId height packet₁ packet₂) t₁.1
        t₂.1 = .ok (frozenResponse H me height) :=
      (evidenceOf_freezes_iff hbase64 htoVec h₁ h₂ hme).mpr ⟨⟨hfrozen, hroot⟩, rfl⟩
    rw [handle, hok, exec_lift]
  · intro env' storage' misbehaviour consensusState₁ consensusState₂ hle
    rw [handle, exec_lift]
    rcases hcheck : checkMisbehaviour H (me.freeze height) misbehaviour consensusState₁
      consensusState₂ with fault | response
    · exact ⟨fault, rfl⟩
    · obtain ⟨⟨_, _, _, _, he⟩, -⟩ := checkMisbehaviour_eq_ok.mp hcheck
      have hnone := he.notFrozen
      rw [frozenBy_freeze hle] at hnone
      cases hnone

namespace Reference

/-- A packet with a header for height 8. -/
def packetOf (header : Header) : Packet := ⟨⟨1, 100⟩, header.toRlp Rlp.reference, ⟨0, 8⟩⟩

lemma packetOf_accepted {header : Header}
    (hread : Header.fromRlp Rlp.reference (header.toRlp Rlp.reference) = .ok header)
    (hinsert : (exec (insertHeader CeloLightClient.Reference.platform lightClient.config header 100)
      sealedStart).1 = .ok ()) (hnz : header.number ≠ 0) :
    ∃ u, AcceptedBy (host []) (client ⟨0, 7⟩) (trusted, fun _ => none) (packetOf header) u ∧
      u.1.root = ⟨Base64.reference.encode header.root.1⟩ := by
  rcases hexec : exec (insertHeader CeloLightClient.Reference.platform lightClient.config header
    100) sealedStart with ⟨_, s'⟩
  rw [hexec] at hinsert
  obtain rfl := hinsert
  have hupdates : Updates (host []) ⟨1, 100⟩ (client ⟨0, 7⟩) trusted (wasmHeader ⟨0, 8⟩ header)
      header sealedStart s' lightClient :=
    ⟨wasmHeader_read hread _ _, trusted_read _, lightClient_read _ _, ingest_eq_ok.mpr hexec⟩
  refine ⟨(_, _), ⟨⟨_, checkHeaderAndUpdateState_eq_ok.mpr ⟨_, _, _, _, hupdates, rfl, rfl⟩, rfl⟩,
    ⟨lightClient, lightClient_read _ _, by decide, rfl, rfl⟩, fun header' hheader' => ?_⟩, rfl⟩
  rwa [Except.ok.inj (hheader'.symm.trans hread)]

lemma header₈'_accepted :
    (exec (insertHeader CeloLightClient.Reference.platform lightClient.config header₈' 100)
        sealedStart).1 = .ok () ∧
      State.verifyHeaderSeal CeloLightClient.Reference.platform sealedStart header₈' = .ok () := by
  decide +kernel

end Reference

/-- The two headers of block 8 freeze the client. -/
theorem divergence_punished_eight :
    ∃ response, exec (handle (Reference.host []) ⟨1, 100⟩ (.CheckMisbehaviourAndUpdateState
        (Reference.client ⟨0, 7⟩) (evidenceOf (Reference.host []) "" "" ⟨0, 8⟩
          (Reference.packetOf Reference.header₈) (Reference.packetOf Reference.header₈'))
        Reference.trusted Reference.trusted)) (fun _ => none) = (.ok response, fun _ => none) ∧
      response.data = some ((Reference.host []).toVec
        (misbehaviourResult ((Reference.client ⟨0, 7⟩).freeze ⟨0, 8⟩))) := by
  obtain ⟨u₁, h₁, hroot₁⟩ := Reference.packetOf_accepted Reference.header₈_accepted.1
    Reference.header₈_accepted.2.1 (by decide +kernel)
  obtain ⟨u₂, h₂, hroot₂⟩ := Reference.packetOf_accepted Reference.header₈'_read.1
    Reference.header₈'_accepted.1 (by decide +kernel)
  have hroot : u₁.1.root ≠ u₂.1.root := by
    rw [hroot₁, hroot₂]
    decide +kernel
  have hme : Configured (Reference.host []) (Reference.client ⟨0, 7⟩) :=
    ⟨_, Reference.lightClient_read _ _⟩
  exact (divergence_punished Base64.reference_lawful Json.toVec_injective h₁ h₂ hroot hme rfl _
    _).1

end CeloLightClient.Contract

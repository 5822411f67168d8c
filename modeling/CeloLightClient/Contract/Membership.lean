import CeloLightClient.Contract.Reference

/-!
What a verified query says: which proofs were checked against which components of the path.

The proofs are taken from the last component of the path up, as many as there are, so a proof of
one entry shows the last component alone. The root of the last entry is that of the consensus
state.
-/

namespace CeloLightClient.Contract

open Lib Lib.Outcome

variable {H : Host} {c : Claim} {storage : Storage} {env : Env} {response : HandleResponse}
  {data : Bytes}

/-- What a claim is checked on. -/
structure Checked (H : Host) (c : Claim) (proof : MerkleProof H.ics23) (root : Bytes)
    (keys : MerklePath) (value : Bytes) : Prop where
  proof_eq : fromBase64JsonSlice H H.fromSliceMerkleProof c.proof "msg.proof" = .ok proof
  root_eq : fromBase64 H c.consensusState.root.hash c.rootTarget = .ok root
  delay_eq : c.delay = .ok ()
  keys_eq : ∃ path, c.path = .ok path ∧
    applyPrefix H c.commitmentPrefix [H.ibc.pathToString path] = .ok keys
  value_eq : c.value = .ok value

/-- **Verification of a claim.** -/
lemma Claim.verify_eq_ok :
    c.verify H = .ok response ↔
      ∃ proof root keys value, Checked H c proof root keys value ∧
        verifyMembership H proof (specs H) root keys value 0 = .ok true ∧
        wrapResponse H successResult c.action = .ok response := by
  simp only [Claim.verify, bind_eq_ok, ensure_eq_ok]
  constructor
  · rintro ⟨proof, hproof, root, hroot, _, hdelay, path, hpath, keys, hkeys, value, hvalue, member,
      hmember, _, rfl, hresponse⟩
    exact ⟨proof, root, keys, value, ⟨hproof, hroot, hdelay, ⟨path, hpath, hkeys⟩, hvalue⟩, hmember,
      hresponse⟩
  · rintro ⟨proof, root, keys, value, ⟨hproof, hroot, hdelay, ⟨path, hpath, hkeys⟩, hvalue⟩,
      hmember, hresponse⟩
    exact ⟨proof, hproof, root, hroot, (), hdelay, path, hpath, keys, hkeys, value, hvalue, true,
      hmember, (), rfl, hresponse⟩

lemma applyPrefix_eq_ok {pre : MerklePrefix} {path : List String} {keys : MerklePath}
    (h : applyPrefix H pre path = .ok keys) : ∃ s, keys.keyPath = s :: path := by
  unfold applyPrefix at h
  split at h
  · simp [genericErr] at h
  obtain ⟨b, -, h⟩ := bind_eq_ok.mp h
  obtain ⟨s, -, h⟩ := bind_eq_ok.mp h
  cases h
  exact ⟨s, rfl⟩

/-- The entries show, component by component from the last one up, that the value leads to the
root of the consensus state. The components before those are not shown. -/
structure Proved (H : Host) (proof : MerkleProof H.ics23) (root : Bytes) (keys : MerklePath)
    (value : Bytes) : Prop where
  atMostSpecs : proof.proofs.length ≤ 2
  atMostKeys : proof.proofs.length ≤ keys.keyPath.length
  chains : Chains H
    (proof.proofs.zip ([H.ics23.iavlSpec, H.ics23.tendermintSpec].zip keys.keyPath.reverse))
    value root

/-- The first entry shows the last component of the path to be absent from the tree of the
consensus state's root. -/
def AbsenceProved (H : Host) (proof : MerkleProof H.ics23) (root : Bytes) (key : String) : Prop :=
  ∃ first rest, proof.proofs = first :: rest ∧
    H.ics23.verifyNonMembership first H.ics23.iavlSpec root (utf8 key)

lemma absenceCheck_eq_ok {proof : MerkleProof H.ics23} {root : Bytes} {keys : MerklePath}
    {key : String} {u : Unit} (hkey : keys.keyPath.getLast? = some key)
    (h : absenceCheck H proof root keys = .ok u) : AbsenceProved H proof root key := by
  simp only [absenceCheck, hkey, unwrap_some, ok_bind, bind_eq_ok, ensure_eq_ok] at h
  obtain ⟨p, hp, spec, hspec, hv⟩ := h
  obtain rfl : H.ics23.iavlSpec = spec := by simpa [index, specs] using hspec
  rcases hproofs : proof.proofs with _ | ⟨q, rest⟩
  · simp [index, hproofs] at hp
  · obtain rfl : q = p := by simpa [index, hproofs] using hp
    exact ⟨q, rest, hproofs, hv⟩

lemma verifyPacketReceiptAbsence_eq_ok {height : Height} {pre : MerklePrefix}
    {proof portId channelId : String} {delayTime delayBlock sequence : UInt64}
    {consensusState : ConsensusState}
    (h : verifyPacketReceiptAbsence H storage env height pre proof portId channelId delayTime
      delayBlock sequence consensusState = .ok response) :
    ∃ merkleProof root path keys,
      fromBase64JsonSlice H H.fromSliceMerkleProof proof "msg.proof" = .ok merkleProof ∧
      fromBase64 H consensusState.root.hash "msg.consensus_state.root" = .ok root ∧
      channelPath H portId channelId (fun port channel => .Receipts port channel sequence) =
        .ok path ∧
      applyPrefix H pre [H.ibc.pathToString path] = .ok keys ∧
      AbsenceProved H merkleProof root (H.ibc.pathToString path) := by
  simp only [verifyPacketReceiptAbsence, bind_eq_ok] at h
  obtain ⟨merkleProof, hproof, root, hroot, _, -, path, hpath, keys, hkeys, _, hcheck, -⟩ := h
  refine ⟨merkleProof, root, path, keys, hproof, hroot, hpath, hkeys, ?_⟩
  obtain ⟨s, hs⟩ := applyPrefix_eq_ok hkeys
  exact absenceCheck_eq_ok (by rw [hs]; rfl) hcheck

/-- **What a query proves.** -/
theorem query_proved {msg : QueryMsg} (h : query H storage env msg = .ok data) :
    (∀ c, msg.answer H storage env = .claim c →
      ∃ proof root keys value, Checked H c proof root keys value ∧
        (proof.proofs ≠ [] → Proved H proof root keys value)) ∧
    ∀ me height pre proof portId channelId delayTime delayBlock sequence consensusState,
      msg = .VerifyPacketReceiptAbsence me height pre proof portId channelId delayTime delayBlock
        sequence consensusState →
      ∃ merkleProof root path keys,
        fromBase64JsonSlice H H.fromSliceMerkleProof proof "msg.proof" = .ok merkleProof ∧
        fromBase64 H consensusState.root.hash "msg.consensus_state.root" = .ok root ∧
        channelPath H portId channelId (fun port channel => .Receipts port channel sequence) =
          .ok path ∧
        applyPrefix H pre [H.ibc.pathToString path] = .ok keys ∧
        AbsenceProved H merkleProof root (H.ibc.pathToString path) := by
  constructor
  · intro c hc
    unfold query at h
    rw [hc] at h
    obtain ⟨response, hverify, -⟩ := bind_eq_ok.mp h
    obtain ⟨proof, root, keys, value, hchecked, hmember, -⟩ := Claim.verify_eq_ok.mp hverify
    obtain ⟨-, hspecs, hkeys, hchains⟩ := verifyMembership_eq_ok.mp hmember
    exact ⟨proof, root, keys, value, hchecked, fun _ => ⟨hspecs, hkeys, hchains⟩⟩
  · rintro me height pre proof portId channelId delayTime delayBlock sequence consensusState rfl
    obtain ⟨response, hverify, -⟩ := bind_eq_ok.mp h
    exact verifyPacketReceiptAbsence_eq_ok hverify

lemma query_of_claim {msg : QueryMsg} {proof : MerkleProof H.ics23} {root value : Bytes}
    {keys : MerklePath} (hc : msg.answer H storage env = .claim c)
    (hchecked : Checked H c proof root keys value)
    (hmember : verifyMembership H proof (specs H) root keys value 0 = .ok true) :
    query H storage env msg = .ok (H.toVec successResult) := by
  have hverify : c.verify H = .ok ⟨[("action", c.action)], some (H.toVec successResult)⟩ :=
    Claim.verify_eq_ok.mpr ⟨proof, root, keys, value, hchecked, hmember, rfl⟩
  unfold query
  rw [hc]
  exact bind_eq_ok.mpr ⟨_, hverify, rfl⟩

/-! ### A proof of one entry -/

namespace Reference

def counterparty : CosmosConsensusState := ⟨⟨"base64_encoded_hash"⟩⟩

/-- The counterparty's consensus state in the store of the client. -/
def entry : ExistenceProof where
  key := utf8 (pathToString (.ClientConsensusState "07-tendermint-0" 0 5))
  value := Json.toVec counterparty.json
  leaf := [0]
  path := [([0xde, 0xad, 0xbe, 0xef, 0x00, 0xca, 0xfe, 0x00], [])]

def oneEntry : MerkleProof ics23 := ⟨[.Exist entry]⟩

/-- The consensus state that has the root of the store in place of that of the stores. -/
def provingConsensusState : ConsensusState where
  codeId := ""
  data := ""
  timestamp := 123
  root := ⟨Base64.reference.encode entry.root⟩

def oneEntryClaim : Claim :=
  verifyClientConsensusState (host [oneEntry]) ⟨0, 5⟩ ⟨Base64.reference.encode (utf8 "prefix")⟩
    "07-tendermint-0" (Base64.reference.encode (proofJson oneEntry).toVec) counterparty
    provingConsensusState

def oneEntryQuery : QueryMsg :=
  .VerifyClientConsensusState ⟨"", "", false, none, some ⟨0, 5⟩⟩ ⟨0, 5⟩ ⟨0, 5⟩
    ⟨Base64.reference.encode (utf8 "prefix")⟩ "07-tendermint-0"
    (Base64.reference.encode (proofJson oneEntry).toVec) counterparty provingConsensusState

lemma oneEntry_checked :
    Checked (host [oneEntry]) oneEntryClaim oneEntry entry.root
      ⟨["prefix", pathToString (.ClientConsensusState "07-tendermint-0" 0 5)]⟩ entry.value where
  proof_eq := fromBase64JsonSlice_encode (List.mem_singleton_self oneEntry) _
  root_eq := fromBase64_encode _ _
  delay_eq := rfl
  keys_eq := ⟨_, rfl, applyPrefix_encode (by decide) _⟩
  value_eq := rfl

lemma oneEntry_member :
    verifyMembership (host [oneEntry]) oneEntry (specs (host [oneEntry])) entry.root
      ⟨["prefix", pathToString (.ClientConsensusState "07-tendermint-0" 0 5)]⟩ entry.value 0 =
      .ok true :=
  verifyMembership_entry entry ["prefix"] rfl rfl

end Reference

/-- A proof of one entry is accepted for a path of two components, of which the prefix is not
checked. -/
theorem query_one_entry :
    let H := Reference.host [Reference.oneEntry]
    query H (fun _ => none) ⟨0, 0⟩ Reference.oneEntryQuery = .ok (H.toVec successResult) ∧
      Reference.oneEntryQuery.answer H (fun _ => none) ⟨0, 0⟩ = .claim Reference.oneEntryClaim ∧
      ∃ root keys value,
        Checked H Reference.oneEntryClaim Reference.oneEntry root keys value ∧
        Reference.oneEntry.proofs.length = 1 ∧ keys.keyPath.length = 2 :=
  ⟨query_of_claim rfl Reference.oneEntry_checked Reference.oneEntry_member, rfl, _, _, _,
    Reference.oneEntry_checked, rfl, rfl⟩

theorem query_proved_one_entry :
    let H := Reference.host [Reference.oneEntry]
    ∃ proof root keys value,
      Checked H Reference.oneEntryClaim proof root keys value ∧
        (proof.proofs ≠ [] → Proved H proof root keys value) := by
  have haccepted : query (Reference.host [Reference.oneEntry]) (fun _ => none) ⟨0, 0⟩
      Reference.oneEntryQuery = .ok _ :=
    query_of_claim rfl Reference.oneEntry_checked Reference.oneEntry_member
  exact (query_proved haccepted).1 _ rfl

end CeloLightClient.Contract

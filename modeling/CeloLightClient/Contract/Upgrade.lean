import CeloLightClient.Contract.Membership

/-!
What the proofs of an upgrade prove.

An upgrade carries a proof of the new client state and one of the new consensus state. The two are
checked the wrong way round: the first against the path and the value of the consensus state, the
second against those of the client state.
-/

namespace CeloLightClient.Contract

open Lib Lib.Outcome Lib.Action

/-- The contents of a `VerifyUpgradeAndUpdateState`. -/
structure Upgrade where
  me : ClientState
  newClientState : ClientState
  newConsensusState : ConsensusState
  clientUpgradeProof : String
  consensusStateUpgradeProof : String
  lastHeightConsensusState : ConsensusState

def Upgrade.msg (u : Upgrade) : HandleMsg :=
  .VerifyUpgradeAndUpdateState u.me u.newClientState u.newConsensusState u.clientUpgradeProof
    u.consensusStateUpgradeProof u.lastHeightConsensusState

/-- What is read of an upgrade. -/
structure UpgradeData (H : Host) where
  proofClient : MerkleProof H.ics23
  proofConsensus : MerkleProof H.ics23
  root : Bytes
  light : LightClientState
  height : Height
  newHeight : Height

variable {H : Host} {env : Env} {storage storage' : Storage} {response : HandleResponse}
  {u : Upgrade} {d : UpgradeData H}

/-- Everything about the upgrade is in order but, perhaps, its proofs. -/
structure Upgradable (H : Host) (env : Env) (u : Upgrade) (d : UpgradeData H) : Prop where
  proofClient_eq : fromBase64JsonSlice H H.fromSliceMerkleProof u.clientUpgradeProof
    "msg.client_proof" = .ok d.proofClient
  proofConsensus_eq : fromBase64JsonSlice H H.fromSliceMerkleProof u.consensusStateUpgradeProof
    "msg.consensus_proof" = .ok d.proofConsensus
  root_eq : fromBase64 H u.lastHeightConsensusState.root.hash
    "msg.last_height_consensus_state.root" = .ok d.root
  light_eq : fromBase64Rlp H (LightClientState.fromRlp H.rlp) u.me.data "msg.light_client_state" =
    .ok d.light
  unexpired : isExpired env.time u.lastHeightConsensusState.timestamp d.light = .ok false
  height_eq : u.me.latestHeight = some d.height
  newHeight_eq : u.newClientState.latestHeight = some d.newHeight
  later : d.height < d.newHeight

/-- The proof shows the new client state under its path. -/
def ShowsClient (H : Host) (u : Upgrade) (d : UpgradeData H) (proof : MerkleProof H.ics23) : Prop :=
  verifyMembership H proof (specs H) d.root (constructUpgradeMerklePath H d.light.upgradePath
    (.UpgradedClientState d.height.revisionNumber)) (H.toVec u.newClientState.json) 0 = .ok true

/-- The proof shows the new consensus state under its path. -/
def ShowsConsensus (H : Host) (u : Upgrade) (d : UpgradeData H) (proof : MerkleProof H.ics23) :
    Prop :=
  verifyMembership H proof (specs H) d.root (constructUpgradeMerklePath H d.light.upgradePath
    (.UpgradedClientConsensusState d.height.revisionNumber)) (H.toVec u.newConsensusState.json) 0 =
    .ok true

/-- The result of an upgrade. -/
def upgradeResult (newClientState : ClientState) (newConsensusState : ConsensusState) : Json :=
  .obj [("result", ClientStateCallResponseResult.success.json),
    ("new_client_state", newClientState.json), ("new_consensus_state", newConsensusState.json)]

/-- **When an upgrade succeeds.** Each proof is checked as the other. -/
theorem verifyUpgradeAndUpdateState_eq_ok :
    exec (handle H env u.msg) storage = (.ok response, storage') ↔
      ∃ d : UpgradeData H, Upgradable H env u d ∧ ShowsClient H u d d.proofConsensus ∧
        ShowsConsensus H u d d.proofClient ∧
        response = ⟨[("action", "verify_client_state")],
          some (H.toVec (upgradeResult u.newClientState u.newConsensusState))⟩ ∧
        storage' = withConsensusMeta H env EMPTY_PREFIX d.newHeight storage := by
  simp only [handle, Upgrade.msg, verifyUpgradeAndUpdateState, exec_lift_bind_eq_ok, ensure_eq_ok,
    unwrap_eq_ok, exec_setConsensusMeta_bind, wrapResponse, exec_lift, Prod.mk.injEq,
    Except.ok.injEq, pure_eq_ok]
  constructor
  · rintro ⟨_, hlater, proofClient, hclient, proofConsensus, hconsensus, root, hroot, light, hlight,
      _, hexpired, _, rfl, height, hheight, member, hmember, _, rfl, member', hmember', _, rfl,
      newHeight, hnew, rfl, rfl⟩
    rw [hheight, hnew] at hlater
    exact ⟨⟨proofClient, proofConsensus, root, light, height, newHeight⟩,
      ⟨hclient, hconsensus, hroot, hlight, hexpired, hheight, hnew, of_decide_eq_true hlater⟩,
      hmember, hmember', rfl, rfl⟩
  · rintro ⟨d, ⟨hclient, hconsensus, hroot, hlight, hexpired, hheight, hnew, hlater⟩, hmember,
      hmember', rfl, rfl⟩
    refine ⟨(), ?_, _, hclient, _, hconsensus, _, hroot, _, hlight, false, hexpired, (), rfl, _,
      hheight, true, hmember, (), rfl, true, hmember', (), rfl, _, hnew, rfl, rfl⟩
    rw [hheight, hnew]
    exact decide_eq_true hlater

/-- **The proofs are bound to what they claim to prove**: the first to the client state and the
second to the consensus state. -/
structure BindsProofs (H : Host) (env : Env) (storage : Storage) (u : Upgrade) : Prop where
  sound : ∀ response storage', exec (handle H env u.msg) storage = (.ok response, storage') →
    ∃ d : UpgradeData H, Upgradable H env u d ∧ ShowsClient H u d d.proofClient ∧
      ShowsConsensus H u d d.proofConsensus
  complete : ∀ d : UpgradeData H, Upgradable H env u d → ShowsClient H u d d.proofClient →
    ShowsConsensus H u d d.proofConsensus →
    ∃ response storage', exec (handle H env u.msg) storage = (.ok response, storage')

/-- It is only the order of the proofs that decides whether the upgrade succeeds. -/
def Mispaired (H : Host) (env : Env) (u : Upgrade) : Prop :=
  ∃ d : UpgradeData H, Upgradable H env u d ∧
    ¬ (ShowsClient H u d d.proofClient ∧ ShowsConsensus H u d d.proofConsensus ↔
      ShowsClient H u d d.proofConsensus ∧ ShowsConsensus H u d d.proofClient)

lemma Upgradable.unique {d' : UpgradeData H} (h : Upgradable H env u d)
    (h' : Upgradable H env u d') : d = d' := by
  obtain ⟨h₁, h₂, h₃, h₄, -, h₅, h₆, -⟩ := h
  obtain ⟨h₁', h₂', h₃', h₄', -, h₅', h₆', -⟩ := h'
  cases d
  cases d'
  simp_all

lemma not_bindsProofs (h : Mispaired H env u) : ¬ BindsProofs H env storage u := by
  rintro ⟨hsound, hcomplete⟩
  obtain ⟨d, hd, hne⟩ := h
  refine hne ⟨fun ⟨hclient, hconsensus⟩ => ?_, fun ⟨hclient, hconsensus⟩ => ?_⟩
  · obtain ⟨response, storage', hexec⟩ := hcomplete d hd hclient hconsensus
    obtain ⟨d', hd', hclient', hconsensus', -, -⟩ := verifyUpgradeAndUpdateState_eq_ok.mp hexec
    obtain rfl := hd.unique hd'
    exact ⟨hclient', hconsensus'⟩
  · obtain ⟨d', hd', hclient', hconsensus'⟩ := hsound _ _
      (verifyUpgradeAndUpdateState_eq_ok.mpr ⟨d, hd, hclient, hconsensus, rfl, rfl⟩)
    obtain rfl := hd.unique hd'
    exact ⟨hclient', hconsensus'⟩

/-- **The proofs are bound** exactly where it makes no difference which is which. -/
theorem bindsProofs_iff (H : Host) (env : Env) (storage : Storage) (u : Upgrade) :
    BindsProofs H env storage u ↔ ¬ Mispaired H env u := by
  constructor
  · exact fun hbinds h => not_bindsProofs h hbinds
  · intro h
    have hiff (d : UpgradeData H) (hd : Upgradable H env u d) :
        ShowsClient H u d d.proofClient ∧ ShowsConsensus H u d d.proofConsensus ↔
          ShowsClient H u d d.proofConsensus ∧ ShowsConsensus H u d d.proofClient := by
      by_contra hne
      exact h ⟨d, hd, hne⟩
    constructor
    · intro response storage' hexec
      obtain ⟨d, hd, hclient, hconsensus, -, -⟩ := verifyUpgradeAndUpdateState_eq_ok.mp hexec
      exact ⟨d, hd, (hiff d hd).mpr ⟨hclient, hconsensus⟩⟩
    · intro d hd hclient hconsensus
      obtain ⟨hclient', hconsensus'⟩ := (hiff d hd).mp ⟨hclient, hconsensus⟩
      exact ⟨_, _, verifyUpgradeAndUpdateState_eq_ok.mpr ⟨d, hd, hclient', hconsensus', rfl, rfl⟩⟩

/-! ### Where the order makes a difference -/

/-- An existence proof is that of one key. -/
def OneKey (I : Ics23) : Prop :=
  ∀ proof spec root root' key key' value value', I.verifyMembership proof spec root key value →
    I.verifyMembership proof spec root' key' value' → key = key'

lemma keyPath_constructUpgradeMerklePath (upgradePath : List String) (path : ClientUpgradePath) :
    (constructUpgradeMerklePath H upgradePath path).keyPath.reverse =
      H.ibc.pathToString (.Upgrade path) :: upgradePath.reverse := by
  simp [constructUpgradeMerklePath]

lemma not_shows_both (hone : OneKey H.ics23)
    (hpath : ∀ n, H.ibc.pathToString (.Upgrade (.UpgradedClientState n)) ≠
      H.ibc.pathToString (.Upgrade (.UpgradedClientConsensusState n)))
    (hvalue : H.toVec u.newClientState.json ≠ H.toVec u.newConsensusState.json)
    {proof : MerkleProof H.ics23} (hclient : ShowsClient H u d proof) :
    ¬ ShowsConsensus H u d proof := by
  intro hconsensus
  obtain ⟨-, -, -, hchain⟩ := verifyMembership_eq_ok.mp hclient
  obtain ⟨-, -, -, hchain'⟩ := verifyMembership_eq_ok.mp hconsensus
  rw [keyPath_constructUpgradeMerklePath] at hchain hchain'
  rcases hproofs : proof.proofs with _ | ⟨first, rest⟩
  · -- without an entry, the root is the value
    rw [hproofs] at hchain hchain'
    exact hvalue (hchain.trans hchain'.symm)
  · rw [hproofs] at hchain hchain'
    obtain ⟨_, _, -, -, hverify, -⟩ := hchain
    obtain ⟨_, _, -, -, hverify', -⟩ := hchain'
    exact hpath _ (utf8_injective (hone _ _ _ _ _ _ _ _ hverify hverify'))

/-- An upgrade is mispaired wherever its proofs show the two states, either way round. -/
theorem mispaired_iff (hone : OneKey H.ics23)
    (hpath : ∀ n, H.ibc.pathToString (.Upgrade (.UpgradedClientState n)) ≠
      H.ibc.pathToString (.Upgrade (.UpgradedClientConsensusState n)))
    (hvalue : H.toVec u.newClientState.json ≠ H.toVec u.newConsensusState.json) :
    Mispaired H env u ↔ ∃ d : UpgradeData H, Upgradable H env u d ∧
      (ShowsClient H u d d.proofClient ∧ ShowsConsensus H u d d.proofConsensus ∨
        ShowsClient H u d d.proofConsensus ∧ ShowsConsensus H u d d.proofClient) := by
  refine exists_congr fun d => and_congr_right fun _ => ?_
  have hboth : ¬ (ShowsClient H u d d.proofClient ∧ ShowsConsensus H u d d.proofClient) :=
    fun h => not_shows_both hone hpath hvalue h.1 h.2
  tauto

namespace Reference

/-! ### Two proofs under one root -/

def upgraded : ClientState := client ⟨0, 9⟩

def leafOf (path : ClientUpgradePath) (value : Json) : Bytes :=
  (Keccak.keccak256 ([0] ++ utf8 (pathToString (.Upgrade path)) ++ value.toVec)).1

/-- The proof of the value, in a tree of two leaves. -/
def upgradeEntry (path : ClientUpgradePath) (value : Json) (sibling : Bytes × Bytes) :
    ExistenceProof where
  key := utf8 (pathToString (.Upgrade path))
  value := value.toVec
  leaf := [0]
  path := [sibling]

def clientEntry : ExistenceProof :=
  upgradeEntry (.UpgradedClientState 0) upgraded.json
    ([], leafOf (.UpgradedClientConsensusState 0) trusted.json)

def consensusEntry : ExistenceProof :=
  upgradeEntry (.UpgradedClientConsensusState 0) trusted.json
    (leafOf (.UpgradedClientState 0) upgraded.json, [])

lemma upgradeEntry_root (path : ClientUpgradePath) (value : Json) (sibling : Bytes × Bytes) :
    (upgradeEntry path value sibling).root =
      (Keccak.keccak256 (sibling.1 ++ leafOf path value ++ sibling.2)).1 := rfl

lemma consensusEntry_root : consensusEntry.root = clientEntry.root := by
  rw [consensusEntry, clientEntry, upgradeEntry_root, upgradeEntry_root, List.append_nil,
    List.nil_append]

def clientProof : MerkleProof ics23 := ⟨[.Exist clientEntry]⟩

def consensusProof : MerkleProof ics23 := ⟨[.Exist consensusEntry]⟩

/-- An upgrade from height 7 to height 9, with one proof as the client's and one as that of the
consensus state. -/
def upgradeWith (root : Bytes) (proofClient proofConsensus : MerkleProof ics23) : Upgrade where
  me := client ⟨0, 7⟩
  newClientState := upgraded
  newConsensusState := trusted
  clientUpgradeProof := Base64.reference.encode (proofJson proofClient).toVec
  consensusStateUpgradeProof := Base64.reference.encode (proofJson proofConsensus).toVec
  lastHeightConsensusState := { trusted with root := ⟨Base64.reference.encode root⟩ }

def upgradeData (proofs : List (MerkleProof ics23)) (root : Bytes)
    (proofClient proofConsensus : MerkleProof ics23) : UpgradeData (host proofs) :=
  ⟨proofClient, proofConsensus, root, lightClient, ⟨0, 7⟩, ⟨0, 9⟩⟩

variable {proofs : List (MerkleProof ics23)} {root : Bytes}
  {proofClient proofConsensus : MerkleProof ics23}

lemma upgradable (hclient : proofClient ∈ proofs) (hconsensus : proofConsensus ∈ proofs) :
    Upgradable (host proofs) ⟨1, 100⟩ (upgradeWith root proofClient proofConsensus)
      (upgradeData proofs root proofClient proofConsensus) where
  proofClient_eq := fromBase64JsonSlice_encode hclient _
  proofConsensus_eq := fromBase64JsonSlice_encode hconsensus _
  root_eq := fromBase64_encode _ _
  light_eq := lightClient_read _ _
  unexpired := lightClient_unexpired
  height_eq := rfl
  newHeight_eq := rfl
  later := show (⟨0, 7⟩ : Height) < ⟨0, 9⟩ by decide

lemma clientEntry_key :
    clientEntry.key = utf8 (pathToString (.Upgrade (.UpgradedClientState 0))) := rfl

lemma consensusEntry_key :
    consensusEntry.key = utf8 (pathToString (.Upgrade (.UpgradedClientConsensusState 0))) := rfl

lemma clientProof_shows :
    ShowsClient (host proofs) (upgradeWith clientEntry.root proofClient proofConsensus)
      (upgradeData proofs clientEntry.root proofClient proofConsensus) clientProof :=
  verifyMembership_entry clientEntry [] clientEntry_key rfl

lemma consensusProof_shows :
    ShowsConsensus (host proofs) (upgradeWith clientEntry.root proofClient proofConsensus)
      (upgradeData proofs clientEntry.root proofClient proofConsensus) consensusProof :=
  verifyMembership_entry consensusEntry [] consensusEntry_key consensusEntry_root

lemma oneKey : OneKey ics23 := by
  intro proof spec root root' key key' value value' h h'
  rcases proof with ex | _
  · simp only [ics23, ExistenceProof.proves, Bool.and_eq_true, beq_iff_eq] at h h'
    exact h.1.1.symm.trans h'.1.1
  · exact absurd h Bool.false_ne_true

lemma upgradePaths_ne (n : UInt64) : pathToString (.Upgrade (.UpgradedClientState n)) ≠
    pathToString (.Upgrade (.UpgradedClientConsensusState n)) := by
  intro h
  have htext : ("upgradedIBCState/" ++ toString n ++ "/upgradedClient").toList =
      ("upgradedIBCState/" ++ toString n ++ "/upgradedConsState").toList :=
    congrArg String.toList h
  simp only [String.toList_append, List.append_assoc, List.append_cancel_left_eq] at htext
  exact absurd (String.toList_injective htext) (by decide)

lemma upgradeValues_ne :
    (host proofs).toVec (upgradeWith root proofClient proofConsensus).newClientState.json ≠
      (host proofs).toVec (upgradeWith root proofClient proofConsensus).newConsensusState.json := by
  rw [host_toVec]
  refine Json.toVec_injective.ne fun h => ?_
  have hfirst : "data" = "code_id" := congrArg Prod.fst (List.cons.inj (Json.obj.inj h)).1
  exact absurd hfirst (by decide)

lemma mispaired_of_shows (hclient : proofClient ∈ proofs) (hconsensus : proofConsensus ∈ proofs)
    (h : proofClient = clientProof ∧ proofConsensus = consensusProof ∨
      proofClient = consensusProof ∧ proofConsensus = clientProof) :
    Mispaired (host proofs) ⟨1, 100⟩
      (upgradeWith clientEntry.root proofClient proofConsensus) := by
  refine (mispaired_iff oneKey upgradePaths_ne upgradeValues_ne).mpr
    ⟨_, upgradable hclient hconsensus, ?_⟩
  rcases h with ⟨rfl, rfl⟩ | ⟨rfl, rfl⟩
  · exact .inl ⟨clientProof_shows, consensusProof_shows⟩
  · exact .inr ⟨clientProof_shows, consensusProof_shows⟩

def upgradeHost : Host := host [clientProof, consensusProof]

end Reference

/-- Proofs that are sent the right way round are refused, and those that are not are accepted. -/
theorem upgrade_mispaired :
    ¬ BindsProofs Reference.upgradeHost ⟨1, 100⟩ (fun _ => none) (Reference.upgradeWith
        Reference.clientEntry.root Reference.clientProof Reference.consensusProof) ∧
      ¬ BindsProofs Reference.upgradeHost ⟨1, 100⟩ (fun _ => none) (Reference.upgradeWith
        Reference.clientEntry.root Reference.consensusProof Reference.clientProof) := by
  constructor
  · exact not_bindsProofs (Reference.mispaired_of_shows (by simp) (by simp) (.inl ⟨rfl, rfl⟩))
  · exact not_bindsProofs (Reference.mispaired_of_shows (by simp) (by simp) (.inr ⟨rfl, rfl⟩))

end CeloLightClient.Contract

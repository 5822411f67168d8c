import CeloLightClient.Contract.Reference
import CeloLightClient.Hash

/-!
When misbehaviour freezes the client.

Two headers are evidence of a fork if they are of one block, differ, and are both sealed. What is
compared is the height of the two envelopes, which whoever sends them chooses, and not the number
of the two headers.
-/

namespace CeloLightClient.Contract

open Lib Lib.Outcome State

variable {H : Host} {me : ClientState} {misbehaviour : Misbehaviour}
  {consensusState₁ consensusState₂ : ConsensusState} {header₁ header₂ : Header}
  {snapshot₁ snapshot₂ : Snapshot} {response : HandleResponse}

/-- The header that an envelope carries. -/
def WasmHeader.Carries (H : Host) (wasmHeader : WasmHeader) (header : Header) : Prop :=
  fromBase64Rlp H (Header.fromRlp H.rlp) wasmHeader.data "msg.header" = .ok header

/-- The header is sealed by the validators of the trusted state. -/
structure SealedUnder (H : Host) (consensusState : ConsensusState) (header : Header)
    (snapshot : Snapshot) : Prop where
  snapshot_eq : fromBase64Rlp H (Snapshot.fromRlp H.rlp) consensusState.data
    "msg.light_consensus_state" = .ok snapshot
  sealed : Sealed H.toPlatform snapshot.validators header

/-- The configuration of the client can be read. -/
def Configured (H : Host) (me : ClientState) : Prop :=
  ∃ lightClientState, fromBase64Rlp H (LightClientState.fromRlp H.rlp) me.data
    "msg.light_client_state" = .ok lightClientState

/-- All that is asked of misbehaviour. -/
structure Evidence (H : Host) (me : ClientState) (misbehaviour : Misbehaviour)
    (consensusState₁ consensusState₂ : ConsensusState) (header₁ header₂ : Header)
    (snapshot₁ snapshot₂ : Snapshot) : Prop where
  height_eq : misbehaviour.header₁.height = misbehaviour.header₂.height
  notFrozen : frozenBy me misbehaviour.header₁.height = none
  carries₁ : misbehaviour.header₁.Carries H header₁
  carries₂ : misbehaviour.header₂.Carries H header₂
  root_ne : header₁.root ≠ header₂.root
  sealed₁ : SealedUnder H consensusState₁ header₁ snapshot₁
  sealed₂ : SealedUnder H consensusState₂ header₂ snapshot₂
  configured : Configured H me

/-- What misbehaviour returns. -/
def frozenResponse (H : Host) (me : ClientState) (height : Height) : HandleResponse where
  attributes := [("action", "verify_misbehaviour"), ("height", height.display)]
  data := some (H.toVec (.obj [("result", ClientStateCallResponseResult.success.json),
    ("new_client_state",
      ({ me with frozen := true, frozenHeight := some height } : ClientState).json)]))

lemma WasmHeader.Carries.unique {wasmHeader : WasmHeader} {header header' : Header}
    (h : wasmHeader.Carries H header) (h' : wasmHeader.Carries H header') : header = header' := by
  unfold WasmHeader.Carries at h h'
  rw [h] at h'
  exact Except.ok.inj h'

lemma checkMisbehaviourHeader_eq_ok {num : ℕ} {consensusState : ConsensusState} {header : Header}
    {u : Unit} :
    checkMisbehaviourHeader H num me consensusState header = .ok u ↔
      (∃ snapshot, SealedUnder H consensusState header snapshot) ∧ Configured H me := by
  unfold checkMisbehaviourHeader Configured
  simp only [bind_eq_ok, mapErr_eq_ok]
  constructor
  · rintro ⟨snapshot, hsnapshot, client, hclient, hverify⟩
    have hsealed := verifyHeaderSeal_eq_ok.mp hverify
    exact ⟨⟨snapshot, hsnapshot, hsealed⟩, client, hclient⟩
  · rintro ⟨⟨snapshot, hsnapshot, hsealed⟩, client, hclient⟩
    have hverify := verifyHeaderSeal_eq_ok.mpr hsealed
    exact ⟨snapshot, hsnapshot, client, hclient, hverify⟩

/-- **When the client is frozen.** -/
theorem checkMisbehaviour_eq_ok :
    checkMisbehaviour H me misbehaviour consensusState₁ consensusState₂ = .ok response ↔
      (∃ header₁ header₂ snapshot₁ snapshot₂, Evidence H me misbehaviour consensusState₁
        consensusState₂ header₁ header₂ snapshot₁ snapshot₂) ∧
        response = frozenResponse H me misbehaviour.header₁.height := by
  unfold checkMisbehaviour
  cases hfrozen : frozenBy me misbehaviour.header₁.height with
  | some frozenHeight =>
    -- frozen already, at this height or before
    constructor
    · simp [bind_eq_ok, genericErr]
    · rintro ⟨⟨_, _, _, _, he⟩, -⟩
      have hnone := he.notFrozen
      rw [hfrozen] at hnone
      simp at hnone
  | none =>
    simp only [bind_eq_ok, ensure_eq_ok, checkMisbehaviourHeader_eq_ok, pure_eq_ok,
      Except.ok.injEq]
    constructor
    · rintro ⟨_, hheight, _, -, header₁, h₁, header₂, h₂, _, hroot, _, ⟨⟨snapshot₁, hs₁⟩, hclient⟩,
        _, ⟨⟨snapshot₂, hs₂⟩, -⟩, rfl⟩
      have he : Evidence H me misbehaviour consensusState₁ consensusState₂ header₁ header₂ snapshot₁
          snapshot₂ := ⟨hheight, hfrozen, h₁, h₂, hroot, hs₁, hs₂, hclient⟩
      exact ⟨⟨_, _, _, _, he⟩, rfl⟩
    · rintro ⟨⟨header₁, header₂, snapshot₁, snapshot₂, he⟩, rfl⟩
      exact ⟨(), he.height_eq, (), trivial, header₁, he.carries₁, header₂, he.carries₂, (),
        he.root_ne, (), ⟨⟨snapshot₁, he.sealed₁⟩, he.configured⟩, (),
        ⟨⟨snapshot₂, he.sealed₂⟩, he.configured⟩, rfl⟩

/-! ### What it should take -/

/-- Two headers of one block, each sealed by the validators of its trusted state. -/
structure Fork (H : Host) (consensusState₁ consensusState₂ : ConsensusState)
    (header₁ header₂ : Header) : Prop where
  number_eq : header₁.number = header₂.number
  hash_ne : header₁.hash H.toPlatform ≠ header₂.hash H.toPlatform
  sealed₁ : ∃ snapshot, SealedUnder H consensusState₁ header₁ snapshot
  sealed₂ : ∃ snapshot, SealedUnder H consensusState₂ header₂ snapshot

/-- The headers of a chain that does not fork. -/
def Unforked (P : Platform) (chain : Set Header) : Prop :=
  ∀ header₁ ∈ chain, ∀ header₂ ∈ chain, header₁.number = header₂.number →
    header₁.hash P = header₂.hash P

/-- Only a fork freezes the client, and so no headers of a chain that does not fork. -/
structure OnlyForksFreeze (H : Host) (me : ClientState) (misbehaviour : Misbehaviour)
    (consensusState₁ consensusState₂ : ConsensusState) : Prop where
  fork : ∀ response, checkMisbehaviour H me misbehaviour consensusState₁ consensusState₂ =
    .ok response → ∃ header₁ header₂, misbehaviour.header₁.Carries H header₁ ∧
      misbehaviour.header₂.Carries H header₂ ∧
      Fork H consensusState₁ consensusState₂ header₁ header₂
  unforked : ∀ chain header₁ header₂, Unforked H.toPlatform chain → header₁ ∈ chain →
    header₂ ∈ chain → misbehaviour.header₁.Carries H header₁ →
    misbehaviour.header₂.Carries H header₂ →
    ∀ response, checkMisbehaviour H me misbehaviour consensusState₁ consensusState₂ ≠ .ok response

/-- Evidence about two different blocks: two headers of one chain will do. -/
def DifferentBlocks (H : Host) (me : ClientState) (misbehaviour : Misbehaviour)
    (consensusState₁ consensusState₂ : ConsensusState) : Prop :=
  ∃ header₁ header₂ snapshot₁ snapshot₂, Evidence H me misbehaviour consensusState₁
    consensusState₂ header₁ header₂ snapshot₁ snapshot₂ ∧ header₁.number ≠ header₂.number

lemma not_onlyForksFreeze
    (h : DifferentBlocks H me misbehaviour consensusState₁ consensusState₂) :
    ¬ OnlyForksFreeze H me misbehaviour consensusState₁ consensusState₂ := by
  intro honly
  obtain ⟨header₁, header₂, snapshot₁, snapshot₂, he, hne⟩ := h
  have hfrozen : checkMisbehaviour H me misbehaviour consensusState₁ consensusState₂ =
      .ok (frozenResponse H me misbehaviour.header₁.height) :=
    checkMisbehaviour_eq_ok.mpr ⟨⟨_, _, _, _, he⟩, rfl⟩
  obtain ⟨header₁', header₂', h₁, h₂, hfork⟩ := honly.fork _ hfrozen
  have hnumber := hfork.number_eq
  rw [h₁.unique he.carries₁, h₂.unique he.carries₂] at hnumber
  exact hne hnumber

/-- Evidence about one block is a fork: its headers differ in the state root, to which the hash
commits. -/
lemma Evidence.fork (hrlp : H.rlp.Lawful) (hd : Distinguishes H.toPlatform header₁ header₂)
    (he : Evidence H me misbehaviour consensusState₁ consensusState₂ header₁ header₂ snapshot₁
      snapshot₂) (hnumber : header₁.number = header₂.number) :
    Fork H consensusState₁ consensusState₂ header₁ header₂ := by
  have hhash : header₁.hash H.toPlatform ≠ header₂.hash H.toPlatform := by
    intro heq
    obtain ⟨hash, -, h₁, -⟩ := he.sealed₁.sealed
    have h₂ := h₁
    rw [heq] at h₂
    exact he.root_ne (root_eq_of_hash_eq hrlp hd h₁ h₂)
  exact ⟨hnumber, hhash, ⟨_, he.sealed₁⟩, ⟨_, he.sealed₂⟩⟩

/-- **Only forks freeze the client**, exactly when the evidence is not about two blocks. -/
theorem onlyForksFreeze_iff (hrlp : H.rlp.Lawful)
    (hd : ∀ header₁ header₂, misbehaviour.header₁.Carries H header₁ →
      misbehaviour.header₂.Carries H header₂ → Distinguishes H.toPlatform header₁ header₂) :
    OnlyForksFreeze H me misbehaviour consensusState₁ consensusState₂ ↔
      ¬ DifferentBlocks H me misbehaviour consensusState₁ consensusState₂ := by
  refine ⟨fun honly h => not_onlyForksFreeze h honly, fun h => ?_⟩
  have hfork : ∀ response, checkMisbehaviour H me misbehaviour consensusState₁ consensusState₂ =
      .ok response → ∃ header₁ header₂, misbehaviour.header₁.Carries H header₁ ∧
        misbehaviour.header₂.Carries H header₂ ∧
        Fork H consensusState₁ consensusState₂ header₁ header₂ := by
    intro response hok
    obtain ⟨⟨header₁, header₂, snapshot₁, snapshot₂, he⟩, -⟩ := checkMisbehaviour_eq_ok.mp hok
    have hnumber : header₁.number = header₂.number := by
      by_contra hne
      exact h ⟨header₁, header₂, snapshot₁, snapshot₂, he, hne⟩
    have hdistinct := hd header₁ header₂ he.carries₁ he.carries₂
    exact ⟨header₁, header₂, he.carries₁, he.carries₂, he.fork hrlp hdistinct hnumber⟩
  refine ⟨hfork, ?_⟩
  intro chain header₁ header₂ hchain hmem₁ hmem₂ hc₁ hc₂ response hok
  obtain ⟨header₁', header₂', h₁, h₂, hf⟩ := hfork response hok
  rw [h₁.unique hc₁, h₂.unique hc₂] at hf
  exact hf.hash_ne (hchain _ hmem₁ _ hmem₂ hf.number_eq)

/-! ### A fork, and two blocks of one chain -/

namespace Reference

/-- Another state root. -/
def otherRoot : Hash := ⟨List.replicate HASH_LENGTH 1, List.length_replicate ..⟩

/-- The two headers, sent under one height. -/
def report (height : Height) (header₁ header₂ : Header) : Misbehaviour where
  codeId := ""
  clientId := ""
  header₁ := wasmHeader height header₁
  header₂ := wasmHeader height header₂

/-- Block 8 with another state root, and the block after it. -/
def header₈' : Header := nextHeader 8 otherRoot
def header₉ : Header := nextHeader 9 otherRoot

lemma header₈'_read :
    Header.fromRlp Rlp.reference (header₈'.toRlp Rlp.reference) = .ok header₈' ∧
      hashedHeader CeloLightClient.Reference.platform header₈' = .ok
        (CeloLightClient.Reference.headerOf 8 101 otherRoot
          (CeloLightClient.Reference.diff 0 [])) := by
  decide +kernel

lemma header₉_read :
    Header.fromRlp Rlp.reference (header₉.toRlp Rlp.reference) = .ok header₉ ∧
      State.verifyHeaderSeal CeloLightClient.Reference.platform sealedStart header₉ = .ok () ∧
      header₈.root ≠ header₉.root ∧ header₈.number ≠ header₉.number := by
  decide +kernel

lemma sealedUnder_of_verify {header : Header}
    (h : State.verifyHeaderSeal CeloLightClient.Reference.platform sealedStart header = .ok ()) :
    SealedUnder (host []) trusted header sealedStart :=
  ⟨trusted_read _, verifyHeaderSeal_eq_ok.mp h⟩

lemma distinguishes_header₈ :
    Distinguishes CeloLightClient.Reference.platform header₈ header₈' := by
  have h₁ : hashedHeader CeloLightClient.Reference.platform header₈ = .ok
    (CeloLightClient.Reference.headerOf 8 101 (zeroBytes _)
      (CeloLightClient.Reference.diff 0 [])) := by decide +kernel
  have h₂ := header₈'_read.2
  refine ⟨fun hashed h => ?_, fun hashed₁ hashed₂ h h' => ?_⟩
  · obtain rfl := Except.ok.inj (h₁.symm.trans h)
    unfold Rlp.Codec.Fits
    decide +kernel
  · obtain rfl := Except.ok.inj (h₁.symm.trans h)
    obtain rfl := Except.ok.inj (h₂.symm.trans h')
    decide +kernel

lemma twoBlocks_differ : DifferentBlocks (host []) (client ⟨0, 7⟩)
    (report ⟨0, 8⟩ header₈ header₉) trusted trusted :=
  ⟨header₈, header₉, sealedStart, sealedStart,
    ⟨by decide, rfl, wasmHeader_read header₈_accepted.1 _ _, wasmHeader_read header₉_read.1 _ _,
      header₉_read.2.2.1, sealedUnder_of_verify header₈_accepted.2.2,
      sealedUnder_of_verify header₉_read.2.1, _, lightClient_read _ _⟩,
    header₉_read.2.2.2⟩

end Reference

/-- Two headers for block 8, with different state roots. -/
theorem onlyForksFreeze_iff_fork :
    OnlyForksFreeze (Reference.host []) (Reference.client ⟨0, 7⟩)
        (Reference.report ⟨0, 8⟩ Reference.header₈ Reference.header₈') Reference.trusted
        Reference.trusted ↔
      ¬ DifferentBlocks (Reference.host []) (Reference.client ⟨0, 7⟩)
        (Reference.report ⟨0, 8⟩ Reference.header₈ Reference.header₈') Reference.trusted
        Reference.trusted :=
  onlyForksFreeze_iff Rlp.reference_lawful fun header₁ header₂ h₁ h₂ => by
    rw [h₁.unique (Reference.wasmHeader_read Reference.header₈_accepted.1 _ _),
      h₂.unique (Reference.wasmHeader_read Reference.header₈'_read.1 _ _)]
    exact Reference.distinguishes_header₈

/-- The headers of blocks 8 and 9 of one chain, sent under one height, freeze the client. -/
theorem twoBlocks_freeze :
    Unforked CeloLightClient.Reference.platform {Reference.header₈, Reference.header₉} ∧
      ¬ OnlyForksFreeze (Reference.host []) (Reference.client ⟨0, 7⟩)
        (Reference.report ⟨0, 8⟩ Reference.header₈ Reference.header₉) Reference.trusted
        Reference.trusted := by
  refine ⟨?_, not_onlyForksFreeze Reference.twoBlocks_differ⟩
  have hne := Reference.header₉_read.2.2.2
  rintro header₁ (rfl | rfl) header₂ (rfl | rfl) hnumber
  · rfl
  · exact absurd hnumber hne
  · exact absurd hnumber.symm hne
  · rfl

end CeloLightClient.Contract

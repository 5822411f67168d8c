import CeloLightClient.Hash
import CeloLightClient.Reference
import CeloLightClient.RoundTrip

/-!
The hash of a header commits to everything in it but the aggregated seal, and a seal to the hash
and the round it was given for.

A header whose extra field can be read is hashed with that field written anew, so what counts is
what was read of it. One whose extra field cannot be read is hashed as it is. The two never meet:
what is written anew can be read.
-/

namespace CeloLightClient

open Lib Lib.Rlp Lib.Outcome

variable {P : Platform} {header header₁ header₂ hashed hashed₁ hashed₂ : Header}
  {hash hash₁ hash₂ : Hash} {extra extra₁ extra₂ : IstanbulExtra}

/-- The extra field can be read, and says this. -/
def Header.Says (P : Platform) (header : Header) (extra : IstanbulExtra) : Prop :=
  IstanbulExtra.fromRlp P.rlp header.extra = .ok extra

/-- The vanity in front of the extra field. -/
def Header.vanity (header : Header) : Bytes := header.extra.take ISTANBUL_EXTRA_VANITY_LENGTH

/-- The extra field without the aggregated seal. -/
def IstanbulExtra.unsealed (extra : IstanbulExtra) : IstanbulExtra :=
  { extra with aggregatedSeal := .new }

lemma IstanbulExtra.Nonneg.unsealed (h : extra.Nonneg) : extra.unsealed.Nonneg :=
  ⟨h.removedValidators, IstanbulAggregatedSeal.nonneg_new, h.parentAggregatedSeal⟩

lemma Header.Says.unique (h₁ : header.Says P extra₁) (h₂ : header.Says P extra₂) :
    extra₁ = extra₂ := Except.ok.inj (h₁.symm.trans h₂)

/-! ### What is hashed -/

lemma fromBytes_eq_ok {n : ℕ} {data : Bytes} {b : FixedBytes n} :
    fromBytes n data = .ok b ↔ n ≤ data.length ∧ data.take n = b.1 := by
  unfold fromBytes
  by_cases h : n ≤ data.length
  · have hlen : (data.take n).length = n := List.length_take_of_le h
    rw [sliceTo_of_le h, ok_bind, sliceAsArrayRef, dif_pos hlen, Except.ok.injEq, Subtype.ext_iff]
    simp [h]
  · simp [sliceTo, h]

lemma Header.Says.length_le (h : header.Says P extra) :
    ISTANBUL_EXTRA_VANITY_LENGTH ≤ header.extra.length := by
  unfold Header.Says at h
  exact IstanbulExtra.length_le_of_fromRlp h (by simp)

lemma hashedHeader_of_says (h : header.Says P extra)
    (hhashed : hashedHeader P header = .ok hashed) :
    ∃ vanity : IstanbulExtraVanity, vanity.1 = header.vanity ∧
      hashed = { header with extra := extra.unsealed.toRlp P.rlp vanity } := by
  have hlen := h.length_le
  obtain ⟨vanity, hvanity⟩ : ∃ vanity : IstanbulExtraVanity, vanity.1 = header.vanity :=
    ⟨⟨_, List.length_take_of_le hlen⟩, rfl⟩
  have hbytes : fromBytes ISTANBUL_EXTRA_VANITY_LENGTH header.extra = .ok vanity :=
    fromBytes_eq_ok.mpr ⟨hlen, hvanity.symm⟩
  have hfiltered : istanbulFilteredHeader P header true =
      .ok { header with extra := extra.unsealed.toRlp P.rlp vanity } := by
    unfold Header.Says at h
    rw [istanbulFilteredHeader, h, ok_bind, hbytes, ok_bind]
    rfl
  rw [hashedHeader, if_pos hlen, hfiltered, attempt_ok, ok_bind, pure_eq_ok] at hhashed
  exact ⟨vanity, hvanity, (Except.ok.inj hhashed).symm⟩

lemma hashedHeader_of_not_says (h : ∀ extra, ¬ header.Says P extra)
    (hhashed : hashedHeader P header = .ok hashed) : hashed = header := by
  unfold hashedHeader at hhashed
  split at hhashed
  · obtain ⟨istanbulHeader | istanbulHeader, hattempt, hhashed⟩ := bind_eq_ok.mp hhashed <;>
      cases hhashed
    · rfl
    · obtain ⟨extra, hextra, -⟩ := bind_eq_ok.mp (attempt_eq_ok_ok.mp hattempt)
      exact absurd hextra (h extra)
  · cases hhashed
    rfl

lemma hashedHeader_number (h : hashedHeader P header = .ok hashed) :
    hashed.number = header.number := by
  obtain ⟨extra, rfl⟩ := hashedHeader_eq_ok h
  rfl

/-! ### What the hash commits to -/

/-- The extra field that is written anew fits in memory. -/
def UnsealedFits (P : Platform) (header : Header) : Prop :=
  ∀ extra, header.Says P extra → P.rlp.Fits extra.unsealed.item

/-- The headers are equal except for their aggregated seals: their other fields are, and their
extra fields say the same, or cannot be read and are the same. -/
def EqualButSeal (P : Platform) (header₁ header₂ : Header) : Prop :=
  { header₁ with extra := header₂.extra } = header₂ ∧
    ((∃ extra₁ extra₂, header₁.Says P extra₁ ∧ header₂.Says P extra₂ ∧
        header₁.vanity = header₂.vanity ∧ extra₁.unsealed = extra₂.unsealed) ∨
      (∀ extra, ¬ header₁.Says P extra) ∧ (∀ extra, ¬ header₂.Says P extra) ∧
        header₁.extra = header₂.extra)

lemma unsealed_read (hrlp : P.rlp.Lawful) (h : header.Says P extra) (hfits : UnsealedFits P header)
    (vanity : IstanbulExtraVanity) :
    IstanbulExtra.fromRlp P.rlp (extra.unsealed.toRlp P.rlp vanity) = .ok extra.unsealed :=
  (IstanbulExtra.fromRlp_toRlp hrlp (IstanbulExtra.nonneg_of_fromRlp h).unsealed (hfits extra h)
    vanity).1

/-- The two routes to a hash never meet. -/
lemma hashed_ne (hrlp : P.rlp.Lawful) (hfits : UnsealedFits P header₁)
    (hsaid : header₁.Says P extra) (hnot : ∀ extra, ¬ header₂.Says P extra)
    (h₁ : hashedHeader P header₁ = .ok hashed₁) (h₂ : hashedHeader P header₂ = .ok hashed₂) :
    hashed₁ ≠ hashed₂ := by
  obtain ⟨vanity, -, rfl⟩ := hashedHeader_of_says hsaid h₁
  obtain rfl := hashedHeader_of_not_says hnot h₂
  rintro rfl
  exact hnot _ (unsealed_read hrlp hsaid hfits vanity)

/-- **What is hashed is the same** exactly when the headers are equal but for their seals. -/
lemma hashed_eq_iff (hrlp : P.rlp.Lawful) (hfits₁ : UnsealedFits P header₁)
    (hfits₂ : UnsealedFits P header₂) (h₁ : hashedHeader P header₁ = .ok hashed₁)
    (h₂ : hashedHeader P header₂ = .ok hashed₂) :
    hashed₁ = hashed₂ ↔ EqualButSeal P header₁ header₂ := by
  by_cases hs₁ : ∃ extra, header₁.Says P extra <;> by_cases hs₂ : ∃ extra, header₂.Says P extra
  · obtain ⟨extra₁, hs₁⟩ := hs₁
    obtain ⟨extra₂, hs₂⟩ := hs₂
    obtain ⟨vanity₁, hv₁, rfl⟩ := hashedHeader_of_says hs₁ h₁
    obtain ⟨vanity₂, hv₂, rfl⟩ := hashedHeader_of_says hs₂ h₂
    constructor
    · intro heq
      have hextra : extra₁.unsealed.toRlp P.rlp vanity₁ = extra₂.unsealed.toRlp P.rlp vanity₂ :=
        congrArg Header.extra heq
      have hread := unsealed_read hrlp hs₁ hfits₁ vanity₁
      rw [hextra, unsealed_read hrlp hs₂ hfits₂ vanity₂] at hread
      have hvanity : vanity₁.1 = vanity₂.1 :=
        (List.append_inj hextra (vanity₁.2.trans vanity₂.2.symm)).1
      rw [hv₁, hv₂] at hvanity
      refine ⟨?_, .inl ⟨extra₁, extra₂, hs₁, hs₂, hvanity, (Except.ok.inj hread).symm⟩⟩
      exact congrArg (fun header : Header => { header with extra := header₂.extra }) heq
    · rintro ⟨hfields, hextras⟩
      obtain ⟨extra₁', extra₂', hs₁', hs₂', hvanity, hunsealed⟩ | ⟨hnot, -⟩ := hextras
      · obtain rfl := hs₁.unique hs₁'
        obtain rfl := hs₂.unique hs₂'
        obtain rfl : vanity₁ = vanity₂ := Subtype.ext (by rw [hv₁, hv₂, hvanity])
        rw [← hfields, hunsealed]
      · exact absurd hs₁ (hnot extra₁)
  · obtain ⟨extra₁, hs₁⟩ := hs₁
    rw [not_exists] at hs₂
    refine iff_of_false (hashed_ne hrlp hfits₁ hs₁ hs₂ h₁ h₂) ?_
    rintro ⟨-, ⟨_, extra₂, -, hs₂', -⟩ | ⟨hnot, -⟩⟩
    · exact hs₂ extra₂ hs₂'
    · exact hnot extra₁ hs₁
  · obtain ⟨extra₂, hs₂⟩ := hs₂
    rw [not_exists] at hs₁
    refine iff_of_false (hashed_ne hrlp hfits₂ hs₂ hs₁ h₂ h₁).symm ?_
    rintro ⟨-, ⟨extra₁, _, hs₁', -⟩ | ⟨-, hnot, -⟩⟩
    · exact hs₁ extra₁ hs₁'
    · exact hnot extra₂ hs₂
  · rw [not_exists] at hs₁ hs₂
    obtain rfl := hashedHeader_of_not_says hs₁ h₁
    obtain rfl := hashedHeader_of_not_says hs₂ h₂
    constructor
    · rintro rfl
      exact ⟨rfl, .inr ⟨hs₁, hs₂, rfl⟩⟩
    · rintro ⟨hfields, ⟨extra₁, _, hs₁', -⟩ | ⟨-, -, hextra⟩⟩
      · exact absurd hs₁' (hs₁ extra₁)
      · rw [← hfields, ← hextra]

lemma toRlp_inj (hrlp : P.rlp.Lawful) (hn₁ : 0 ≤ header₁.number) (hn₂ : 0 ≤ header₂.number)
    (hfits : P.rlp.Fits (header₁.item P.rlp))
    (h : header₁.toRlp P.rlp = header₂.toRlp P.rlp) : header₁ = header₂ := by
  have hfits₂ : P.rlp.Fits (header₂.item P.rlp) := by
    unfold Codec.Fits at hfits ⊢
    unfold Header.toRlp at h
    rwa [← h]
  have hread := Header.fromRlp_toRlp hrlp hn₁ hfits
  rw [h, Header.fromRlp_toRlp hrlp hn₂ hfits₂] at hread
  exact (Except.ok.inj hread).symm

lemma equalButSeal_of_reseal (hrlp : P.rlp.Lawful) {extra : IstanbulExtra}
    {aggregatedSeal : IstanbulAggregatedSeal} {vanity : IstanbulExtraVanity}
    (hsaid : header₁.Says P extra) (hvanity : vanity.1 = header₁.vanity)
    (hnonneg : aggregatedSeal.Nonneg)
    (hfits : P.rlp.Fits ({ extra with aggregatedSeal } : IstanbulExtra).item)
    (heq : header₂ = { header₁ with
      extra := ({ extra with aggregatedSeal } : IstanbulExtra).toRlp P.rlp vanity }) :
    EqualButSeal P header₁ header₂ := by
  have hextra := IstanbulExtra.nonneg_of_fromRlp hsaid
  have hread := IstanbulExtra.fromRlp_toRlp hrlp (e := { extra with aggregatedSeal })
    ⟨hextra.removedValidators, hnonneg, hextra.parentAggregatedSeal⟩ hfits vanity
  subst heq
  refine ⟨rfl, .inl ⟨extra, { extra with aggregatedSeal }, hsaid, hread.1, ?_, rfl⟩⟩
  rw [← hvanity]
  exact (fromBytes_eq_ok.mp hread.2).2.symm

lemma EqualButSeal.unsealed_eq {extra₁ extra₂ : IstanbulExtra}
    (h : EqualButSeal P header₁ header₂) (hs₁ : header₁.Says P extra₁)
    (hs₂ : header₂.Says P extra₂) : extra₁.unsealed = extra₂.unsealed := by
  obtain ⟨-, ⟨extra₁', extra₂', hs₁', hs₂', -, hunsealed⟩ | ⟨hnot, -⟩⟩ := h
  · obtain rfl := hs₁.unique hs₁'
    obtain rfl := hs₂.unique hs₂'
    exact hunsealed
  · exact absurd hs₁ (hnot extra₁)

/-- **The hash commits to everything but the aggregated seal.** So another aggregated seal leaves
it as it is, and another diff, seal of the proposer or seal of the parent changes it. -/
theorem hash_eq_iff (hrlp : P.rlp.Lawful) (hd : Distinguishes P header₁ header₂)
    (hfits₁ : UnsealedFits P header₁) (hfits₂ : UnsealedFits P header₂)
    (hn₁ : 0 ≤ header₁.number) (hn₂ : 0 ≤ header₂.number)
    (hh₁ : header₁.hash P = .ok hash₁) (hh₂ : header₂.hash P = .ok hash₂) :
    (hash₁ = hash₂ ↔ EqualButSeal P header₁ header₂) ∧
      (∀ extra aggregatedSeal (vanity : IstanbulExtraVanity), header₁.Says P extra →
        vanity.1 = header₁.vanity → aggregatedSeal.Nonneg →
        P.rlp.Fits ({ extra with aggregatedSeal } : IstanbulExtra).item →
        header₂ = { header₁ with
          extra := ({ extra with aggregatedSeal } : IstanbulExtra).toRlp P.rlp vanity } →
        hash₁ = hash₂) ∧
      ∀ extra₁ extra₂, header₁.Says P extra₁ → header₂.Says P extra₂ →
        (extra₁.addedValidators ≠ extra₂.addedValidators ∨
          extra₁.addedValidatorsPublicKeys ≠ extra₂.addedValidatorsPublicKeys ∨
          extra₁.removedValidators ≠ extra₂.removedValidators ∨
          extra₁.proposerSeal ≠ extra₂.proposerSeal ∨
          extra₁.parentAggregatedSeal ≠ extra₂.parentAggregatedSeal) →
        hash₁ ≠ hash₂ := by
  obtain ⟨hashed₁, h₁, rfl⟩ := hash_eq_ok.mp hh₁
  obtain ⟨hashed₂, h₂, rfl⟩ := hash_eq_ok.mp hh₂
  have hiff : P.keccak256 (hashed₁.toRlp P.rlp) = P.keccak256 (hashed₂.toRlp P.rlp) ↔
      EqualButSeal P header₁ header₂ := by
    rw [← hashed_eq_iff hrlp hfits₁ hfits₂ h₁ h₂]
    constructor
    · intro hkeccak
      have henc := hd.collisionFree hashed₁ hashed₂ h₁ h₂ hkeccak
      have hnonneg₁ : 0 ≤ hashed₁.number := by rwa [hashedHeader_number h₁]
      have hnonneg₂ : 0 ≤ hashed₂.number := by rwa [hashedHeader_number h₂]
      exact toRlp_inj hrlp hnonneg₁ hnonneg₂ (hd.fits hashed₁ h₁) henc
    · rintro rfl
      rfl
  refine ⟨hiff, ?_, ?_⟩
  · intro extra aggregatedSeal vanity hsaid hvanity hnonneg hfits heq
    exact hiff.mpr (equalButSeal_of_reseal hrlp hsaid hvanity hnonneg hfits heq)
  · intro extra₁ extra₂ hs₁ hs₂ hdiffer hkeccak
    have hunsealed := (hiff.mp hkeccak).unsealed_eq hs₁ hs₂
    simp only [IstanbulExtra.unsealed, IstanbulExtra.mk.injEq] at hunsealed
    tauto

/-- Block 8, and the same block before it is sealed. -/
def sealedBlock : Header := Reference.nextHeader 8 101 (Reference.diff 0 [])
def unsealedBlock : Header := Reference.headerOf 8 101 (zeroBytes _) (Reference.diff 0 [])

lemma hashedHeader_sealedBlock :
    hashedHeader Reference.platform sealedBlock = .ok unsealedBlock := by
  decide +kernel

lemma hashedHeader_unsealedBlock :
    hashedHeader Reference.platform unsealedBlock = .ok unsealedBlock := by
  decide +kernel

lemma distinguishes_sealedBlock :
    Distinguishes Reference.platform sealedBlock unsealedBlock where
  fits hashed h := by
    obtain rfl := Except.ok.inj (hashedHeader_sealedBlock.symm.trans h)
    unfold Codec.Fits
    decide +kernel
  collisionFree hashed₁ hashed₂ h₁ h₂ _ := by
    obtain rfl := Except.ok.inj (hashedHeader_sealedBlock.symm.trans h₁)
    obtain rfl := Except.ok.inj (hashedHeader_unsealedBlock.symm.trans h₂)
    rfl

lemma unsealedFits_of_diff {header : Header}
    (h : (IstanbulExtra.fromRlp Reference.platform.rlp header.extra).map IstanbulExtra.unsealed =
      .ok (Reference.diff 0 [])) : UnsealedFits Reference.platform header := by
  intro extra hsaid
  unfold Header.Says at hsaid
  rw [hsaid] at h
  rw [Except.ok.inj h]
  unfold Codec.Fits
  decide +kernel

/-- Sealing block 8 does not change its hash. -/
theorem hash_eq_iff_resealed :
    ∃ hash₁ hash₂, sealedBlock.hash Reference.platform = .ok hash₁ ∧
      unsealedBlock.hash Reference.platform = .ok hash₂ ∧
      (hash₁ = hash₂ ↔ EqualButSeal Reference.platform sealedBlock unsealedBlock) := by
  have h₁ := hash_eq_ok.mpr ⟨_, hashedHeader_sealedBlock, rfl⟩
  have h₂ := hash_eq_ok.mpr ⟨_, hashedHeader_unsealedBlock, rfl⟩
  refine ⟨_, _, h₁, h₂, (hash_eq_iff reference_lawful distinguishes_sealedBlock
    (unsealedFits_of_diff ?_) (unsealedFits_of_diff ?_) ?_ ?_ h₁ h₂).1⟩ <;> decide +kernel

/-! ### What a seal commits to -/

/-- Under the key of the validators at these positions, no signature is of two messages. -/
def SignsOneMessage (P : Platform) (validators : List Validator) (bitmap : ℤ) : Prop :=
  ∀ keys, ((signers validators bitmap).mapM
      fun validator => deserializePubKey P validator.publicKey.1) = .ok keys →
    ∀ message message' sig, P.bls.verify (P.bls.aggregate keys) message [] sig →
      P.bls.verify (P.bls.aggregate keys) message' [] sig → message = message'

lemma message_eq_of_verify {validators : List Validator} {bitmap : ℤ} {signature : Bytes}
    {round₁ round₂ : ℤ} (hone : SignsOneMessage P validators bitmap)
    (h₁ : verifyAggregatedSeal P hash₁ validators ⟨bitmap, signature, round₁⟩ = .ok ())
    (h₂ : verifyAggregatedSeal P hash₂ validators ⟨bitmap, signature, round₂⟩ = .ok ()) :
    prepareCommitedSeal hash₁ round₁ = prepareCommitedSeal hash₂ round₂ := by
  obtain ⟨-, -, keys, sig, hkeys, hsig, hverify₁⟩ := verifyAggregatedSeal_eq_ok.mp h₁
  obtain ⟨-, -, keys', sig', hkeys', hsig', hverify₂⟩ := verifyAggregatedSeal_eq_ok.mp h₂
  obtain rfl := Except.ok.inj (hkeys.symm.trans hkeys')
  obtain rfl := Except.ok.inj (hsig.symm.trans hsig')
  exact hone keys hkeys _ _ sig hverify₁ hverify₂

/-- **The signed message is unambiguous**: one message is signed for one hash and one round. So
what was signed for one is not accepted for another. -/
theorem seal_unambiguous {round₁ round₂ : ℤ} (hr₁ : 0 ≤ round₁) (hr₂ : 0 ≤ round₂) :
    (prepareCommitedSeal hash₁ round₁ = prepareCommitedSeal hash₂ round₂ →
        hash₁ = hash₂ ∧ round₁ = round₂) ∧
      ∀ (P : Platform) validators bitmap signature, SignsOneMessage P validators bitmap →
        verifyAggregatedSeal P hash₁ validators ⟨bitmap, signature, round₁⟩ = .ok () →
        verifyAggregatedSeal P hash₂ validators ⟨bitmap, signature, round₂⟩ = .ok () →
        hash₁ = hash₂ ∧ round₁ = round₂ := by
  have hinj : prepareCommitedSeal hash₁ round₁ = prepareCommitedSeal hash₂ round₂ →
      hash₁ = hash₂ ∧ round₁ = round₂ := by
    intro h
    obtain ⟨hhash, hround⟩ := prepareCommitedSeal_eq_iff.mp h
    exact ⟨hhash, by omega⟩
  refine ⟨hinj, fun P validators bitmap signature hone h₁ h₂ => ?_⟩
  exact hinj (message_eq_of_verify hone h₁ h₂)

lemma signsOneMessage_reference (validators : List Validator) (bitmap : ℤ) :
    SignsOneMessage Reference.platform validators bitmap := by
  have hverify (key message sig : Bytes) (h : Reference.bls.verify key message [] sig) :
      sig = key ++ message := by simpa [Reference.bls] using h
  intro keys _ message message' sig h h'
  have hsig := hverify _ _ _ h
  rw [hverify _ _ _ h'] at hsig
  exact (List.append_cancel_left hsig).symm

/-- What all the validators sealed for round 0 is not accepted for round 1. -/
theorem seal_unambiguous_rounds :
    prepareCommitedSeal (zeroBytes _) 0 ≠ prepareCommitedSeal (zeroBytes _) 1 ∧
      ∀ validators, validators ≠ [] →
        verifyAggregatedSeal Reference.platform (zeroBytes _) validators
          { Reference.sealOf validators (zeroBytes _) with round := 1 } ≠ .ok () := by
  have h := @seal_unambiguous (zeroBytes _) (zeroBytes _) 0 1 (by decide) (by decide)
  constructor
  · intro heq
    exact absurd (h.1 heq).2 (by decide)
  · intro validators hne hverify
    have hsealed := Reference.verifyAggregatedSeal_sealOf hne (zeroBytes _)
    exact absurd (h.2 Reference.platform validators _ _ (signsOneMessage_reference _ _) hsealed
      hverify).2 (by decide)

end CeloLightClient

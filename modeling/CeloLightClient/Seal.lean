import CeloLightClient.Istanbul
import CeloLightClient.Lib.Select

/-!
Aggregated seals: the bitmap of a seal selects validators by their position in the list, and
enough of them must have signed the hash of the block.
-/

namespace CeloLightClient

open Lib Lib.Outcome

variable (P : Platform)

/-- The message a seal signs. -/
def prepareCommitedSeal (hash : Hash) (round : ℤ) : Bytes :=
  hash.1 ++ bigIntToRlpCompatBytes round ++ [IstanbulMsg.Commit.code]

def deserializeSignature (signature : Bytes) : Outcome Error P.bls.Signature :=
  mapErr (fun e => Kind.BlsInvalidSignature.context (.bls e))
    (ofExcept (P.bls.deserializeSignature signature))

def deserializePubKey (key : Bytes) : Outcome Error P.bls.PublicKey :=
  mapErr (fun e => Kind.BlsInvalidPublicKey.context (.bls e))
    (ofExcept (P.bls.deserializePublicKey key))

/-- The validators at the positions whose bit is set. -/
def signers (validators : List Validator) (bitmap : ℤ) : List Validator :=
  selectAt (fun i => bitmap.testBit i) validators

def verifyAggregatedSeal (headerHash : Hash) (validators : List Validator)
    (aggregatedSeal : IstanbulAggregatedSeal) : Outcome Error Unit := do
  let proposalSeal := prepareCommitedSeal headerHash aggregatedSeal.round
  let expectedQuorumSize ← minQuorumSize validators.length
  let publicKeys ← (signers validators aggregatedSeal.bitmap).mapM
    fun validator => deserializePubKey P validator.publicKey.1
  ensure (expectedQuorumSize ≤ publicKeys.length)
    (Kind.MissingSeals publicKeys.length expectedQuorumSize).into
  let sig ← deserializeSignature P aggregatedSeal.signature
  let apk := P.bls.aggregate publicKeys
  ensure (P.bls.verify apk proposalSeal [] sig) Kind.BlsVerifyError.into

def Snapshot.verify (s : Snapshot) : Outcome Error Unit :=
  verifyAggregatedSeal P s.hash s.validators s.aggregatedSeal

/-! ### What a seal signs -/

lemma bigIntToRlpCompatBytes_eq (val : ℤ) : bigIntToRlpCompatBytes val = toBytesBE val.natAbs := by
  unfold bigIntToRlpCompatBytes
  split
  · next h => simp [h]
  · rfl

/-- The message tells the hash and the size of the round, but not its sign. -/
lemma prepareCommitedSeal_eq_iff {hash₁ hash₂ : Hash} {round₁ round₂ : ℤ} :
    prepareCommitedSeal hash₁ round₁ = prepareCommitedSeal hash₂ round₂ ↔
      hash₁ = hash₂ ∧ round₁.natAbs = round₂.natAbs := by
  simp only [prepareCommitedSeal, bigIntToRlpCompatBytes_eq]
  constructor
  · intro h
    -- the hash has a fixed length, the code of the message has one byte, and the round is the rest
    obtain ⟨hfront, -⟩ := List.append_inj' h rfl
    obtain ⟨hhash, hround⟩ := List.append_inj hfront (hash₁.2.trans hash₂.2.symm)
    exact ⟨Subtype.ext hhash, toBytesBE_injective hround⟩
  · rintro ⟨rfl, hround⟩
    rw [hround]

/-! ### What an accepted seal says -/

lemma length_of_mapM_ok {ε α β : Type} {f : α → Outcome ε β} {l : List α} {m : List β}
    (h : l.mapM f = .ok m) : m.length = l.length := by
  induction l generalizing m with
  | nil =>
    simp only [List.mapM_nil, pure_eq_ok, Except.ok.injEq] at h
    simp [← h]
  | cons a l ih =>
    rw [List.mapM_cons] at h
    obtain ⟨b, -, h⟩ := bind_eq_ok.mp h
    obtain ⟨bs, hbs, h⟩ := bind_eq_ok.mp h
    cases h
    simp [ih hbs]

variable {P} {hash : Hash} {validators : List Validator} {aggregatedSeal : IstanbulAggregatedSeal}

lemma verifyAggregatedSeal_eq_ok :
    verifyAggregatedSeal P hash validators aggregatedSeal = .ok () ↔
      validators ≠ [] ∧
        (2 * validators.length + 2) / 3 ≤ (signers validators aggregatedSeal.bitmap).length ∧
        ∃ keys sig, ((signers validators aggregatedSeal.bitmap).mapM
            fun validator => deserializePubKey P validator.publicKey.1) = .ok keys ∧
          deserializeSignature P aggregatedSeal.signature = .ok sig ∧
          P.bls.verify (P.bls.aggregate keys)
            (prepareCommitedSeal hash aggregatedSeal.round) [] sig := by
  simp only [verifyAggregatedSeal, bind_eq_ok, minQuorumSize_eq_ok, ensure_eq_ok]
  constructor
  · rintro ⟨_, ⟨hpos, rfl⟩, keys, hkeys, _, hlen, sig, hsig, hv⟩
    exact ⟨List.ne_nil_of_length_pos hpos, length_of_mapM_ok hkeys ▸ hlen, keys, sig, hkeys, hsig,
      hv⟩
  · rintro ⟨hne, hlen, keys, sig, hkeys, hsig, hv⟩
    exact ⟨_, ⟨List.length_pos_of_ne_nil hne, rfl⟩, keys, hkeys, (),
      (length_of_mapM_ok hkeys).symm ▸ hlen, sig, hsig, hv⟩

/-- **Quorum.** An accepted seal is that of a non-empty list, of which it selects at least two
thirds of the positions, rounded up. -/
theorem quorum_of_verify
    (h : verifyAggregatedSeal P hash validators aggregatedSeal = .ok ()) :
    validators ≠ [] ∧ ⌈(2 * validators.length : ℚ) / 3⌉₊ ≤
      (positionsAt (fun i => aggregatedSeal.bitmap.testBit i) validators.length).card := by
  obtain ⟨hne, hlen, -⟩ := verifyAggregatedSeal_eq_ok.mp h
  unfold signers at hlen
  rw [length_selectAt, quorum_eq_ceil] at hlen
  exact ⟨hne, hlen⟩

end CeloLightClient

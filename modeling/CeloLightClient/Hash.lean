import CeloLightClient.Istanbul

/-!
What the hash of a header commits to.

The hash is that of an encoding: of the header without its aggregated seal, or of the header as it
is where the extra field cannot be read. In either case the other fields are the header's own.
-/

namespace CeloLightClient

open Lib Lib.Rlp Lib.Outcome

variable (P : Platform)

/-- The header whose encoding is hashed. -/
def hashedHeader (header : Header) : Outcome Error Header :=
  if ISTANBUL_EXTRA_VANITY_LENGTH ≤ header.extra.length then do
    let istanbulHeader ← attempt (istanbulFilteredHeader P header true)
    match istanbulHeader with
    | .ok istanbulHeader => pure istanbulHeader
    | .error _ => pure header
  else pure header

variable {P} {header h₁ h₂ : Header} {hash : Hash}

lemma rlpHash_eq (header : Header) : rlpHash P header = .ok (P.keccak256 (header.toRlp P.rlp)) := by
  have hlen := (P.keccak256 (header.toRlp P.rlp)).2
  have hslice : sliceAsArrayRef HASH_LENGTH (P.keccak256 (header.toRlp P.rlp)).1 =
      .ok (P.keccak256 (header.toRlp P.rlp)) := dif_pos hlen
  rw [rlpHash, sliceTo_of_le hlen.ge, ok_bind, List.take_of_length_le hlen.le, hslice]

lemma hash_eq_ok :
    header.hash P = .ok hash ↔
      ∃ hashed, hashedHeader P header = .ok hashed ∧ P.keccak256 (hashed.toRlp P.rlp) = hash := by
  unfold Header.hash hashedHeader
  split
  · rw [bind_eq_ok]
    constructor
    · rintro ⟨istanbulHeader | istanbulHeader, hattempt, h⟩ <;>
        simp only [rlpHash_eq, Except.ok.injEq] at h
      · exact ⟨header, bind_eq_ok.mpr ⟨_, hattempt, rfl⟩, h⟩
      · exact ⟨istanbulHeader, bind_eq_ok.mpr ⟨_, hattempt, rfl⟩, h⟩
    · rintro ⟨hashed, hhashed, rfl⟩
      obtain ⟨istanbulHeader | istanbulHeader, hattempt, h⟩ := bind_eq_ok.mp hhashed <;> cases h <;>
        exact ⟨_, hattempt, rlpHash_eq _⟩
  · simp [rlpHash_eq]

lemma hashedHeader_eq_ok {hashed : Header} (h : hashedHeader P header = .ok hashed) :
    ∃ extra, hashed = { header with extra } := by
  unfold hashedHeader at h
  split at h
  · obtain ⟨istanbulHeader | istanbulHeader, hattempt, h⟩ := bind_eq_ok.mp h <;> cases h
    · exact ⟨header.extra, rfl⟩
    · rw [attempt_eq_ok_ok, istanbulFilteredHeader] at hattempt
      simp only [bind_eq_ok, pure_eq_ok, Except.ok.injEq] at hattempt
      obtain ⟨_, _, _, _, rfl⟩ := hattempt
      exact ⟨_, rfl⟩
  · cases h
    exact ⟨header.extra, rfl⟩

/-- Keccak tells the two headers apart, and what is hashed of the first fits in memory. -/
structure Distinguishes (P : Platform) (h₁ h₂ : Header) : Prop where
  fits : ∀ hashed, hashedHeader P h₁ = .ok hashed → P.rlp.Fits (hashed.item P.rlp)
  collisionFree : ∀ hashed₁ hashed₂, hashedHeader P h₁ = .ok hashed₁ →
    hashedHeader P h₂ = .ok hashed₂ →
    P.keccak256 (hashed₁.toRlp P.rlp) = P.keccak256 (hashed₂.toRlp P.rlp) →
    hashed₁.toRlp P.rlp = hashed₂.toRlp P.rlp

/-- **The hash commits to the state root.** -/
theorem root_eq_of_hash_eq (hrlp : P.rlp.Lawful) (hd : Distinguishes P h₁ h₂)
    (hh₁ : h₁.hash P = .ok hash) (hh₂ : h₂.hash P = .ok hash) : h₁.root = h₂.root := by
  obtain ⟨hashed₁, h1, rfl⟩ := hash_eq_ok.mp hh₁
  obtain ⟨hashed₂, h2, heq⟩ := hash_eq_ok.mp hh₂
  have henc := hd.collisionFree hashed₁ hashed₂ h1 h2 heq.symm
  have hfits := hd.fits hashed₁ h1
  -- the state root is the third field of the encoded list
  have hfield : P.rlp.encode (.data hashed₁.root.1) = P.rlp.encode (.data hashed₂.root.1) :=
    hrlp.list_inj hfits henc (i := 2) (by simp) (by simp)
  have hroot : hashed₁.root.1 = hashed₂.root.1 :=
    hrlp.data_inj (hrlp.fits_of_mem hfits (by simp)) hfield
  obtain ⟨extra₁, rfl⟩ := hashedHeader_eq_ok h1
  obtain ⟨extra₂, rfl⟩ := hashedHeader_eq_ok h2
  exact Subtype.ext hroot

end CeloLightClient

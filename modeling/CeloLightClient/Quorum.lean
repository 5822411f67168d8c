import CeloLightClient.Reference

/-!
Any two quorums share an honest validator.

A seal is accepted with two thirds of the positions of the list, so two seals that are accepted
against one list have a third of the positions in common, and fewer than a third are faulty.
-/

namespace CeloLightClient

open Lib Lib.Outcome

variable {P : Platform} {hash hash₁ hash₂ : Hash} {validators : List Validator}
  {seal₁ seal₂ : IstanbulAggregatedSeal}

/-- The positions of a list of `n` validators that both bitmaps select. -/
def commonPositions (bitmap₁ bitmap₂ : ℤ) (n : ℕ) : Finset ℕ :=
  positionsAt (fun i => bitmap₁.testBit i && bitmap₂.testBit i) n

lemma verifyAggregatedSeal_congr {aggregatedSeal : IstanbulAggregatedSeal} {bitmap : ℤ}
    (h : ∀ i < validators.length, bitmap.testBit i = aggregatedSeal.bitmap.testBit i) :
    verifyAggregatedSeal P hash validators { aggregatedSeal with bitmap } =
      verifyAggregatedSeal P hash validators aggregatedSeal := by
  have hsigners : signers validators bitmap = signers validators aggregatedSeal.bitmap :=
    selectAt_congr h
  unfold verifyAggregatedSeal
  rw [hsigners]

lemma third_eq_ceil (n : ℕ) : (n + 2) / 3 = ⌈(n : ℚ) / 3⌉₊ := by
  apply le_antisymm
  · have h : (n : ℚ) / 3 ≤ ⌈(n : ℚ) / 3⌉₊ := Nat.le_ceil _
    rw [div_le_iff₀ (by norm_num)] at h
    have h' : n ≤ ⌈(n : ℚ) / 3⌉₊ * 3 := by exact_mod_cast h
    omega
  · have h : n ≤ (n + 2) / 3 * 3 := by omega
    rw [Nat.ceil_le, div_le_iff₀ (by norm_num)]
    exact_mod_cast h

/-- **Quorum intersection.** Two accepted seals share a third of the positions, rounded up, which
is more than the faulty validators that the consensus tolerates; and no bit at a position past the
end of the list makes a difference. -/
theorem quorum_intersection
    (h₁ : verifyAggregatedSeal P hash₁ validators seal₁ = .ok ())
    (h₂ : verifyAggregatedSeal P hash₂ validators seal₂ = .ok ()) :
    ⌈(validators.length : ℚ) / 3⌉₊ ≤
        (commonPositions seal₁.bitmap seal₂.bitmap validators.length).card ∧
      (validators.length - 1) / 3 <
        (commonPositions seal₁.bitmap seal₂.bitmap validators.length).card ∧
      ∀ hash (aggregatedSeal : IstanbulAggregatedSeal) bitmap,
        (∀ i < validators.length, bitmap.testBit i = aggregatedSeal.bitmap.testBit i) →
        verifyAggregatedSeal P hash validators { aggregatedSeal with bitmap } =
          verifyAggregatedSeal P hash validators aggregatedSeal := by
  obtain ⟨hne, hquorum₁⟩ := quorum_of_verify h₁
  obtain ⟨-, hquorum₂⟩ := quorum_of_verify h₂
  have hpos := List.length_pos_of_ne_nil hne
  have hcommon := card_positionsAt_add_le (fun i => seal₁.bitmap.testBit i)
    (fun i => seal₂.bitmap.testBit i) validators.length
  rw [← quorum_eq_ceil] at hquorum₁ hquorum₂
  rw [← third_eq_ceil]
  unfold commonPositions
  refine ⟨by omega, by omega, fun hash aggregatedSeal bitmap h => ?_⟩
  exact verifyAggregatedSeal_congr h

/-- Two blocks that all of three validators have sealed. -/
theorem quorum_intersection_three :
    ⌈(3 : ℚ) / 3⌉₊ ≤ (commonPositions 7 7 3).card ∧ (3 - 1) / 3 < (commonPositions 7 7 3).card := by
  have hne : Reference.start.validators ≠ [] := by decide
  have h := quorum_intersection (Reference.verifyAggregatedSeal_sealOf hne (zeroBytes _))
    (Reference.verifyAggregatedSeal_sealOf hne (zeroBytes _))
  exact ⟨h.1, h.2.1⟩

end CeloLightClient

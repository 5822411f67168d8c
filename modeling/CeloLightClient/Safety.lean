import CeloLightClient.Reference
import CeloLightClient.RoundTrip

/-!
What one call of `insertHeader` guarantees: that a header which replaces the snapshot was sealed
by a quorum of the stored validators, and what is left of the snapshot when a header is refused.
-/

namespace CeloLightClient.State

open Lib Lib.Outcome Lib.Action

variable {P : Platform} {config : StateConfig} {s s' : Snapshot} {header : Header}
  {now number : UInt64}

/-! ### An accepted header -/

lemma verifies_of_both (hepoch : config.verifyEpochHeaders)
    (hnonEpoch : config.verifyNonEpochHeaders) (number : UInt64) : Verifies config number := by
  unfold Verifies
  split <;> assumption

lemma sealed_of_verifyHeader (h : verifyHeader P config s header now = .ok ()) :
    (s.number.toNat : ℤ) < header.number ∧ Sealed P s.validators header := by
  obtain ⟨⟨number, hn, hlt⟩, -, hsealed⟩ := verifyHeader_eq_ok.mp h
  refine ⟨?_, hsealed⟩
  rw [← toU64_toNat hn]
  exact_mod_cast UInt64.lt_iff_toNat_lt.mp hlt

/-- **No unverified update.** A header past the genesis block that is accepted has a greater
number than the snapshot it replaces, and the seal of a quorum of its validators. -/
theorem insertHeader_sealed (hsize : 1 ≤ config.epochSize) (hepoch : config.verifyEpochHeaders)
    (hnonEpoch : config.verifyNonEpochHeaders) (hgenesis : header.number ≠ 0)
    (h : exec (insertHeader P config header now) s = (.ok (), s')) :
    (s.number.toNat : ℤ) < header.number ∧ Sealed P s.validators header := by
  have hpos := epochSize_pos hsize
  obtain ⟨number, hash, extra, ha, -⟩ := (insertHeader_eq_ok hpos).mp h
  exact sealed_of_verifyHeader (ha.verified (verifies_of_both hepoch hnonEpoch number) hgenesis)

set_option maxRecDepth 10000 in
lemma nextHeader_accepted :
    (exec (insertHeader Reference.platform Reference.config
      (Reference.nextHeader 10 101 (Reference.diff 0 [])) 100) Reference.start).1 = .ok () := by
  decide +kernel

theorem insertHeader_sealed_next :
    (Reference.start.number.toNat : ℤ) <
        (Reference.nextHeader 10 101 (Reference.diff 0 [])).number ∧
      Sealed Reference.platform Reference.start.validators
        (Reference.nextHeader 10 101 (Reference.diff 0 [])) :=
  insertHeader_sealed (by decide) rfl rfl (by decide +kernel) (exec_of_fst nextHeader_accepted)

/-- The header of block 0 that no validator has sealed. -/
def unsealedGenesis : Header := Reference.headerOf 0 0 (zeroBytes _) (Reference.diff 0 [])

/-- The genesis block is the exception: it replaces any snapshot, sealed or not. -/
theorem insertHeader_genesis_unsealed :
    0 < Reference.start.number ∧ Reference.start.validators ≠ [] ∧
      (exec (insertHeader Reference.platform Reference.config unsealedGenesis 100)
        Reference.start).1 = .ok () ∧
      (exec (insertHeader Reference.platform Reference.config unsealedGenesis 100)
        Reference.start).2.number = 0 ∧
      ¬ (Reference.start.number.toNat : ℤ) < unsealedGenesis.number ∧
      ¬ Sealed Reference.platform Reference.start.validators unsealedGenesis := by
  refine ⟨by decide, by decide, by decide +kernel, by decide +kernel, by decide +kernel, ?_⟩
  rw [← verifyHeaderSeal_eq_ok]
  decide +kernel

/-! ### A refused header -/

/-- The header is that of an epoch's last block, nothing is wrong with it until its diff is
applied, and the diff takes validators away and then adds one that is still there. -/
def HalfApplies (P : Platform) (config : StateConfig) (s : Snapshot) (header : Header)
    (now : UInt64) : Prop :=
  ∃ number hash extra, toU64 header.number = some number ∧
    EpochEnd config.epochSize.toNat number.toNat ∧
    (config.verifyEpochHeaders → header.number ≠ 0 →
      verifyHeader P config s header now = .ok ()) ∧
    header.hash P = .ok hash ∧ IstanbulExtra.fromRlp P.rlp header.extra = .ok extra ∧
    extra.addedValidators.length = extra.addedValidatorsPublicKeys.length ∧
    extra.removedValidators ≠ 0 ∧ bits extra.removedValidators ≤ s.validators.length ∧
    Overlaps (additions extra) (survivors extra.removedValidators s.validators)

lemma storeNonEpochHeader_eq_fail {e : Error} (hn : toU64 header.number = some number)
    (h : exec (storeNonEpochHeader P config header now) s = (fail e, s')) : s' = s := by
  rcases hc : headerChecks P config s header now with e' | ⟨hash, extra⟩
  · rw [storeNonEpochHeader_of_error hc hn] at h
    cases h
    rfl
  · rw [storeNonEpochHeader_of_ok hc hn] at h
    cases h

/-- On the epoch path an addition may be refused after the removal. -/
lemma storeEpochHeader_eq_fail {e : Error} (hn : toU64 header.number = some number)
    (h : exec (storeEpochHeader P config header now) s = (fail e, s')) :
    s' = s ∨ ∃ hash extra, epochChecks P config s header now = .ok (hash, extra) ∧
      bits extra.removedValidators ≤ s.validators.length ∧
      Overlaps (additions extra) (survivors extra.removedValidators s.validators) ∧
      s' = { s with validators := survivors extra.removedValidators s.validators } := by
  rcases hc : epochChecks P config s header now with e' | ⟨hash, extra⟩
  · rw [storeEpochHeader_of_error hc] at h
    cases h
    exact .inl rfl
  rw [storeEpochHeader_of_ok hc hn] at h
  split at h
  · next hfits =>
    split at h
    · next hover =>
      cases h
      exact .inr ⟨hash, extra, rfl, hfits, hover, rfl⟩
    · cases h
  · cases h
    exact .inl rfl

/-- **Atomicity.** An error leaves the snapshot as it was, except where a removal went through
before an addition was refused. -/
theorem insertHeader_error_intact_iff (hsize : 1 ≤ config.epochSize) :
    (∀ e s', exec (insertHeader P config header now) s = (fail e, s') → s' = s) ↔
      ¬ HalfApplies P config s header now := by
  have hpos := epochSize_pos hsize
  constructor
  · rintro h ⟨number, hash, extra, hn, hend, hv, hh, hx, hlen, hne, hfits, hover⟩
    have hc := epochChecks_eq_ok.mpr ⟨hv, hh, hx, hlen⟩
    have hexec : exec (insertHeader P config header now) s =
        exec (storeEpochHeader P config header now) s :=
      (insertHeader_exec hpos hn).trans (if_pos hend)
    rw [storeEpochHeader_of_ok hc hn, if_pos hfits, if_pos hover] at hexec
    have hremoved := (IstanbulExtra.nonneg_of_fromRlp hx).removedValidators
    exact survivors_ne (by omega) hfits (congrArg Snapshot.validators (h _ _ hexec))
  · intro hnot e s' h
    rcases hn : toU64 header.number with _ | number
    · rw [insertHeader_of_none hn] at h
      cases h
    rw [insertHeader_exec hpos hn] at h
    by_cases hend : EpochEnd config.epochSize.toNat number.toNat
    · rw [if_pos hend] at h
      rcases storeEpochHeader_eq_fail hn h with rfl | ⟨hash, extra, hc, hfits, hover, rfl⟩
      · rfl
      obtain ⟨hv, hh, hx, hlen⟩ := epochChecks_eq_ok.mp hc
      -- the addition is refused, so nothing can have been removed
      by_cases hz : extra.removedValidators = 0
      · simp [hz]
      · exact absurd ⟨number, hash, extra, hn, hend, hv, hh, hx, hlen, hz, hfits, hover⟩ hnot
    · rw [if_neg hend] at h
      exact storeNonEpochHeader_eq_fail hn h

/-- The sealed header of block 10, which takes away validator 1 and adds validator 2 again. -/
def clashingHeader : Header :=
  Reference.nextHeader 10 101 (Reference.diff 1 [Reference.validator 2])

set_option maxRecDepth 10000 in
/-- The header is refused, and validator 1 is gone. -/
theorem insertHeader_error_half_applied :
    exec (insertHeader Reference.platform Reference.config clashingHeader 100) Reference.start =
      (fail (Kind.InvalidValidatorSetDiff "error in adding the header's added_validators").into,
        { Reference.start with validators := [Reference.validator 2, Reference.validator 3] }) ∧
      [Reference.validator 2, Reference.validator 3] ≠ Reference.start.validators := by
  decide +kernel

theorem insertHeader_error_intact_iff_clashing :
    (∀ e s', exec (insertHeader Reference.platform Reference.config clashingHeader 100)
      Reference.start = (fail e, s') → s' = Reference.start) ↔
      ¬ HalfApplies Reference.platform Reference.config Reference.start clashingHeader 100 :=
  insertHeader_error_intact_iff (by decide)

end CeloLightClient.State

import CeloLightClient.Chain

/-!
Whether the addresses of the validators stay distinct.

A diff removes validators, and adds some whose addresses are not among those that are left. The
addresses it adds are compared with the list, but not with each other: they go into a map, where
one that is given twice is seen once.
-/

namespace CeloLightClient.State

open Lib Lib.Outcome Lib.Action Chain

variable {P : Platform} {config : StateConfig} {s s' : Snapshot} {header : Header}
  {now : UInt64} {extra : IstanbulExtra} {validators : List Validator}

/-- No two validators have one address. -/
def Distinct (validators : List Validator) : Prop := (validators.map Validator.address).Nodup

instance (validators : List Validator) : Decidable (Distinct validators) :=
  inferInstanceAs (Decidable (List.Nodup _))

lemma Distinct.sublist {l : List Validator} (h : Distinct validators) (hl : l.Sublist validators) :
    Distinct l := List.Nodup.sublist (hl.map _) h

lemma map_address_additions
    (h : extra.addedValidators.length = extra.addedValidatorsPublicKeys.length) :
    (additions extra).map Validator.address = extra.addedValidators := by
  unfold additions
  rw [← List.map_uncurry_zip_eq_zipWith, List.map_map]
  exact List.map_fst_zip h.le

/-- **A diff keeps the addresses distinct** exactly when those it adds are. -/
lemma distinct_applyDiff (hs : Distinct validators) (hd : DiffApplies extra validators) :
    Distinct (applyDiff extra validators) ↔ extra.addedValidators.Nodup := by
  have hleft : Distinct (survivors extra.removedValidators validators) :=
    hs.sublist (selectAt_sublist _ _)
  unfold Distinct applyDiff at *
  rw [List.map_append, List.nodup_append, map_address_additions hd.lengths]
  constructor
  · rintro ⟨-, hadded, -⟩
    exact hadded
  · intro hadded
    refine ⟨hleft, hadded, ?_⟩
    intro address hold address' hnew heq
    rw [← map_address_additions hd.lengths] at hnew
    obtain ⟨v, hv, rfl⟩ := List.mem_map.mp hold
    obtain ⟨w, hw, rfl⟩ := List.mem_map.mp hnew
    exact hd.fresh ⟨v, hv, w, hw, heq.symm⟩

/-- Inserting the header keeps distinct addresses distinct. -/
def KeepsDistinct (P : Platform) (config : StateConfig) (s : Snapshot) (header : Header)
    (now : UInt64) : Prop :=
  Distinct s.validators →
    ∀ s', exec (insertHeader P config header now) s = (.ok (), s') → Distinct s'.validators

/-- The header is that of an epoch's last block, nothing is wrong with it that is looked at, and
it adds an address twice. -/
def AddsTwice (P : Platform) (config : StateConfig) (s : Snapshot) (header : Header)
    (now : UInt64) : Prop :=
  Distinct s.validators ∧ ∃ number hash extra, Accepts P config s header now number hash extra ∧
    EpochEnd config.epochSize.toNat number.toNat ∧ ¬ extra.addedValidators.Nodup

lemma keepsDistinct_iff (hsize : 0 < config.epochSize) :
    KeepsDistinct P config s header now ↔ ¬ AddsTwice P config s header now := by
  constructor
  · rintro hkeeps ⟨hs, number, hash, extra, ha, hend, htwice⟩
    have hdistinct := hkeeps hs _ ((insertHeader_eq_ok hsize).mpr ⟨number, hash, extra, ha, rfl⟩)
    simp only [snapshotOf, nextValidators, if_pos hend] at hdistinct
    exact htwice ((distinct_applyDiff hs (ha.diff hend)).mp hdistinct)
  · intro hnot hs s' h
    obtain ⟨number, hash, extra, ha, rfl⟩ := (insertHeader_eq_ok hsize).mp h
    simp only [snapshotOf, nextValidators]
    by_cases hend : EpochEnd config.epochSize.toNat number.toNat
    · rw [if_pos hend, distinct_applyDiff hs (ha.diff hend)]
      by_contra htwice
      exact hnot ⟨hs, number, hash, extra, ha, hend, htwice⟩
    · rwa [if_neg hend]

lemma run_distinct (hsize : 0 < config.epochSize) {l : List Submission}
    (hs : Distinct s.validators) (hrun : run (step P config) s l = some s')
    (honce : ∀ l₁ b l₂ t, l = l₁ ++ b :: l₂ → run (step P config) s l₁ = some t →
      ¬ AddsTwice P config t b.header b.now) : Distinct s'.validators := by
  refine run_invariant (I := fun t => Distinct t.validators) hs hrun
    fun l₁ b l₂ t t' hl hl₁ ht hb => ?_
  have hkeeps := (keepsDistinct_iff hsize).mpr (honce l₁ b l₂ t hl hl₁)
  exact hkeeps ht t' (step_eq_some.mp hb)

/-- **The addresses stay distinct** exactly when no accepted header adds one twice; and then no
validator is counted twice towards a quorum, in any run. -/
theorem distinct_iff (hsize : 1 ≤ config.epochSize) :
    (∀ s header now, KeepsDistinct P config s header now ↔ ¬ AddsTwice P config s header now) ∧
      ∀ s l s', Distinct s.validators → run (step P config) s l = some s' →
        (∀ l₁ b l₂ t, l = l₁ ++ b :: l₂ → run (step P config) s l₁ = some t →
          ¬ AddsTwice P config t b.header b.now) →
        Distinct s'.validators ∧ ∀ bitmap, Distinct (signers s'.validators bitmap) := by
  have hpos := epochSize_pos hsize
  refine ⟨fun s header now => keepsDistinct_iff hpos, fun s l s' hs hrun honce => ?_⟩
  have hdistinct := run_distinct hpos hs hrun honce
  exact ⟨hdistinct, fun bitmap => hdistinct.sublist (selectAt_sublist _ _)⟩

/-- The sealed header of block 10, which adds validator 4 twice. -/
def doublingHeader : Header :=
  Reference.nextHeader 10 101 (Reference.diff 0 [Reference.validator 4, Reference.validator 4])

/-- The header is accepted, and validator 4 is in the list twice. -/
theorem distinct_doubling :
    Distinct Reference.start.validators ∧
      (exec (insertHeader Reference.platform Reference.config doublingHeader 100)
        Reference.start).1 = .ok () ∧
      ¬ Distinct (exec (insertHeader Reference.platform Reference.config doublingHeader 100)
        Reference.start).2.validators := by
  decide +kernel

theorem distinct_iff_doubling :
    KeepsDistinct Reference.platform Reference.config Reference.start doublingHeader 100 ↔
      ¬ AddsTwice Reference.platform Reference.config Reference.start doublingHeader 100 :=
  (distinct_iff (by decide)).1 _ _ _

end CeloLightClient.State

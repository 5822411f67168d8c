import CeloLightClient.Chain

/-!
Ultralight sync: only the last header of each epoch is downloaded.

Leaving out the headers within the epochs leaves a client behind the one that has seen them all,
in number and in time but not in its validators, and a header that is accepted ahead is accepted
behind. Leaving out an epoch's last header is another matter: nothing in the client notices, so
it is up to whoever submits the headers not to.
-/

namespace CeloLightClient.Ultralight

open Lib Lib.Outcome Lib.Action State Chain

variable {P : Platform} {config : StateConfig} {s s' t : Snapshot} {b : Submission}
  {l : List Submission} {header : Header} {now number : UInt64}

/-! ### Leaving out the headers within the epochs -/

/-- `t` has the validators of `s`, and is no further than `s`. -/
structure Behind (config : StateConfig) (t s : Snapshot) : Prop where
  validators : t.validators = s.validators
  number : t.number ≤ s.number
  timestamp : config.verifyHeaderTimestamp → t.timestamp ≤ s.timestamp

lemma Behind.refl (config : StateConfig) (s : Snapshot) : Behind config s s :=
  ⟨rfl, UInt64.le_refl _, fun _ => UInt64.le_refl _⟩

lemma Behind.verifyHeader (h : Behind config t s)
    (hv : State.verifyHeader P config s header now = .ok ()) :
    State.verifyHeader P config t header now = .ok () := by
  obtain ⟨⟨number, hn, hlt⟩, htime, hsealed⟩ := verifyHeader_eq_ok.mp hv
  have hlt' : t.number < number := UInt64.lt_of_le_of_lt h.number hlt
  have htime' : config.verifyHeaderTimestamp → Timely config t header now := by
    intro hc
    obtain ⟨hnewer, hnow⟩ := htime hc
    exact ⟨UInt64.lt_of_le_of_lt (h.timestamp hc) hnewer, hnow⟩
  have hsealed' : Sealed P t.validators header := by
    rw [h.validators]
    exact hsealed
  exact verifyHeader_eq_ok.mpr ⟨⟨number, hn, hlt'⟩, htime', hsealed'⟩

lemma Behind.step (h : Behind config t s) (hsize : 0 < config.epochSize)
    (hs : Chain.step P config s b = some s') : Chain.step P config t b = some s' := by
  obtain ⟨number, hash, extra, ha, rfl⟩ := (insertHeader_eq_ok hsize).mp (step_eq_some.mp hs)
  have hverified : Verifies config number → b.header.number ≠ 0 →
      State.verifyHeader P config t b.header b.now = .ok () :=
    fun hver hnz => h.verifyHeader (ha.verified hver hnz)
  have hdiff := ha.diff
  rw [← h.validators] at hdiff
  refine step_eq_some.mpr ((insertHeader_eq_ok hsize).mpr ⟨number, hash, extra, ?_, ?_⟩)
  · exact ⟨ha.number_eq, hverified, ha.hash_eq, ha.extra_eq, hdiff⟩
  · rw [h.validators]

lemma Behind.of_unseen (h : Behind config t s) (hsize : 0 < config.epochSize)
    (hepoch : config.verifyEpochHeaders) (hnonEpoch : config.verifyNonEpochHeaders)
    (hnz : b.header.number ≠ 0) (hunseen : ¬ isEpochHeader config b.header)
    (hs : Chain.step P config s b = some s') : Behind config t s' := by
  have hv := step_verified hsize hepoch hnonEpoch hnz hs
  obtain ⟨⟨number, hn, hlt⟩, htime, -⟩ := verifyHeader_eq_ok.mp hv
  obtain ⟨n, hash, extra, ha, rfl⟩ := (insertHeader_eq_ok hsize).mp (step_eq_some.mp hs)
  obtain rfl : number = n := Option.some.inj (hn.symm.trans ha.number_eq)
  have hend := mt (isEpochHeader_iff config hn).mpr hunseen
  have hnumber : t.number < number := UInt64.lt_of_le_of_lt h.number hlt
  have htimestamp : config.verifyHeaderTimestamp → t.timestamp < b.header.time :=
    fun hc => UInt64.lt_of_le_of_lt (h.timestamp hc) (htime hc).1
  refine ⟨?_, UInt64.le_of_lt hnumber, fun hc => UInt64.le_of_lt (htimestamp hc)⟩
  unfold snapshotOf nextValidators
  rw [h.validators, if_neg hend]

/-- **Ultralight sync.** If all the headers are accepted, then so are the epochs' last headers
without the others, and they lead to the same validators. -/
theorem ultralight_sync (hsize : 1 ≤ config.epochSize) (hepoch : config.verifyEpochHeaders)
    (hnonEpoch : config.verifyNonEpochHeaders) (hnz : ∀ b ∈ l, b.header.number ≠ 0)
    (hrun : run (Chain.step P config) s l = some s') :
    ∃ t, run (Chain.step P config) s (l.filter fun b => isEpochHeader config b.header) = some t ∧
      t.validators = s'.validators := by
  have hpos := epochSize_pos hsize
  -- the client that is shown less stays behind the other, and catches up at each epoch's end
  obtain ⟨t, ht, -, hbehind⟩ := run_filter (Chain.step P config)
    (fun b => isEpochHeader config b.header)
    (fun l s t => (∀ b ∈ l, b.header.number ≠ 0) ∧ Behind config t s)
    (by
      intro b l u v u' hR _ hu
      have hrest : ∀ c ∈ l, c.header.number ≠ 0 := fun c hc => hR.1 c (by simp [hc])
      have hv : Chain.step P config v b = some u' := hR.2.step hpos hu
      exact ⟨u', hv, hrest, Behind.refl config u'⟩)
    (by
      intro b l u v u' hR hunseen hu
      have hrest : ∀ c ∈ l, c.header.number ≠ 0 := fun c hc => hR.1 c (by simp [hc])
      have hb : b.header.number ≠ 0 := hR.1 b (by simp)
      exact ⟨hrest, hR.2.of_unseen hpos hepoch hnonEpoch hb hunseen hu⟩)
    ⟨hnz, Behind.refl config s⟩ hrun
  exact ⟨t, ht, hbehind.validators⟩

theorem ultralight_sync_three :
    ∃ s' t, run (Chain.step Reference.platform Reference.config) Reference.start threeBlocks =
        some s' ∧
      run (Chain.step Reference.platform Reference.config) Reference.start
        (threeBlocks.filter fun b => isEpochHeader Reference.config b.header) = some t ∧
      t.validators = s'.validators :=
  have ⟨s', hrun⟩ := threeBlocks_accepted
  have ⟨t, ht⟩ := ultralight_sync (by decide) rfl rfl (by decide +kernel) hrun
  ⟨s', t, hrun, ht⟩

/-! ### Leaving out the last header of an epoch -/

/-- **No epoch is skipped** by a client that is shown the last header of each. If a run has led
through every epoch's end before a header's block, none lies between that block and the
snapshot's, and a header that is accepted is sealed by the validators of its own epoch: by those
of the start with the diffs of exactly the epochs that ended in between. -/
theorem no_epoch_skipped (hsize : 1 ≤ config.epochSize) (hepoch : config.verifyEpochHeaders)
    (hnonEpoch : config.verifyNonEpochHeaders) (hnz : ∀ b ∈ l, b.header.number ≠ 0)
    (hrun : run (Chain.step P config) s l = some t) (hpast : 0 < header.number)
    (hfed : ∀ m : ℕ, s.number.toNat < m → (m : ℤ) < header.number →
      EpochEnd config.epochSize.toNat m → ∃ b ∈ l, b.header.number = m)
    (haccepted : State.verifyHeader P config t header now = .ok () ∨
      ∃ t', exec (insertHeader P config header now) t = (.ok (), t')) :
    (∀ m : ℕ, t.number.toNat < m → (m : ℤ) < header.number →
      ¬ EpochEnd config.epochSize.toNat m) ∧
    SealedByQuorum P (validatorsAfter P config s.validators (l.map Submission.header)) header ∧
    ∀ m : ℕ, EpochEnd config.epochSize.toNat m →
      ((∃ b ∈ l, b.header.number = m) ↔ s.number.toNat < m ∧ (m : ℤ) < header.number) := by
  have hpos := epochSize_pos hsize
  have hst := stamped_number (P := P) hpos hepoch hnonEpoch hnz
  have hstart : s.number.toNat ≤ t.number.toNat := by exact_mod_cast run_mark_le hst hrun
  obtain ⟨hlt, hsealed⟩ : (t.number.toNat : ℤ) < header.number ∧ Sealed P t.validators header := by
    rcases haccepted with hv | ⟨t', ht'⟩
    · exact sealed_of_verifyHeader hv
    · exact insertHeader_sealed hsize hepoch hnonEpoch hpast.ne' ht'
  have hrises : ∀ b ∈ l, (s.number.toNat : ℤ) < b.header.number := fun b hb =>
    (List.pairwise_cons.mp (run_stamps_pairwise hst hrun)).1 _ (List.mem_map_of_mem hb)
  refine ⟨?_, ?_, ?_⟩
  · -- the header of such a block would have been in the run
    intro m hm hmn hend
    obtain ⟨b, hb, hbm⟩ := hfed m (by omega) hmn hend
    have hle := run_stamp_le hst hrun hb
    omega
  · rw [← run_validators hpos hrun]
    exact sealedByQuorum_of_sealed hsealed
  · intro m hend
    constructor
    · rintro ⟨b, hb, hbm⟩
      have hle := run_stamp_le hst hrun hb
      have hgt := hrises b hb
      omega
    · rintro ⟨hm, hmn⟩
      exact hfed m hm hmn hend

theorem no_epoch_skipped_ten :
    ∃ t, run (Chain.step Reference.platform Reference.config) Reference.start
        [innerBlock, lastBlock] = some t ∧
      SealedByQuorum Reference.platform (validatorsAfter Reference.platform Reference.config
        Reference.start.validators [innerBlock.header, lastBlock.header]) firstBlock.header := by
  obtain ⟨s', hrun⟩ := threeBlocks_accepted
  obtain ⟨t, t', ht, hfirst, -⟩ := run_split (l := [innerBlock, lastBlock]) (m := []) hrun
  refine ⟨t, ht, (no_epoch_skipped (by decide) rfl rfl (by decide +kernel) ht (by decide +kernel)
    (fun m hm hmn hend => ⟨lastBlock, by simp, ?_⟩)
    (Or.inr ⟨t', step_eq_some.mp hfirst⟩)).2.1⟩
  have hnumber : firstBlock.header.number = 11 := by decide +kernel
  have hlast : lastBlock.header.number = 10 := by decide +kernel
  have hm' : 7 < m := hm
  have hend' : m % 10 = 0 := hend
  omega

set_option maxRecDepth 10000 in
/-- A client that has not been shown block 10 accepts block 12 on the validators of the epoch
before. -/
theorem epoch_skipped :
    let header := Reference.nextHeader 12 101 (Reference.diff 0 [])
    State.verifyHeader Reference.platform Reference.config Reference.start header 100 = .ok () ∧
      (exec (insertHeader Reference.platform Reference.config header 100) Reference.start).1 =
        .ok () ∧
      Reference.start.number.toNat < 10 ∧ (10 : ℤ) < header.number ∧
      EpochEnd Reference.config.epochSize.toNat 10 := by
  decide +kernel

end CeloLightClient.Ultralight

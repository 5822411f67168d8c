import CeloLightClient.Commitment
import CeloLightClient.Ultralight
import CeloLightClient.Lib.SideBySide

/-!
Agreement: two clients never accept different blocks of one number.

They start from one snapshot, and may be shown different headers, as long as neither is made to
miss the end of an epoch. A block that one of them accepts is sealed by a quorum of the validators,
so if the other accepts a different block of that number, then as many validators as two quorums
share have signed both.
-/

namespace CeloLightClient.Agreement

open Lib Lib.Outcome Lib.Action State Chain

/-- The blocks there are, and what the validators have signed. -/
structure History where
  blocks : Set Header
  signed : Validator → Bytes → Prop

variable (P : Platform) (W : History)

/-- The validator has signed two blocks of one number. -/
def Equivocates (v : Validator) : Prop :=
  ∃ header₁ ∈ W.blocks, ∃ header₂ ∈ W.blocks, header₁.number = header₂.number ∧
    ∃ hash₁ hash₂ round₁ round₂, header₁.hash P = .ok hash₁ ∧ header₂.hash P = .ok hash₂ ∧
      hash₁ ≠ hash₂ ∧ W.signed v (prepareCommitedSeal hash₁ round₁) ∧
      W.signed v (prepareCommitedSeal hash₂ round₂)

open Classical in
/-- The positions of the validators that equivocate. -/
noncomputable def faultyPositions (validators : List Validator) : Finset ℕ :=
  {i ∈ Finset.range validators.length | ∃ v, validators[i]? = some v ∧ Equivocates P W v}

/-- Fewer of the validators equivocate than two quorums share. -/
def FewFaulty (validators : List Validator) : Prop :=
  validators.length + (faultyPositions P W validators).card <
    2 * ((2 * validators.length + 2) / 3)

/-- The seals of these validators are not forged: whom a seal selects that is accepted for them has
signed the block. -/
def Unforged (validators : List Validator) : Prop :=
  ∀ header ∈ W.blocks, ∀ hash extra, header.hash P = .ok hash → header.Says P extra →
    verifyAggregatedSeal P hash validators extra.aggregatedSeal = .ok () →
    ∀ v ∈ signers validators extra.aggregatedSeal.bitmap,
      W.signed v (prepareCommitedSeal hash extra.aggregatedSeal.round)

/-- Hashes tell the blocks apart. -/
structure History.Sound : Prop where
  fits : ∀ header ∈ W.blocks, UnsealedFits P header
  distinguishes : ∀ header₁ ∈ W.blocks, ∀ header₂ ∈ W.blocks, Distinguishes P header₁ header₂

variable {P W} {config : StateConfig} {s s' t t' u : Snapshot} {validators : List Validator}
  {header₁ header₂ : Header} {b c : Submission} {l m : List Submission}

/-! ### One block for each number -/

lemma mem_faultyPositions {i : ℕ} {v : Validator} (hv : validators[i]? = some v)
    (h : Equivocates P W v) : i ∈ faultyPositions P W validators := by
  have hi : i < validators.length := (List.getElem?_eq_some_iff.mp hv).1
  simp only [faultyPositions, Finset.mem_filter, Finset.mem_range]
  exact ⟨hi, v, hv, h⟩

lemma exists_honest {hash₁ hash₂ : Hash} {seal₁ seal₂ : IstanbulAggregatedSeal}
    (hfew : FewFaulty P W validators)
    (h₁ : verifyAggregatedSeal P hash₁ validators seal₁ = .ok ())
    (h₂ : verifyAggregatedSeal P hash₂ validators seal₂ = .ok ()) :
    ∃ v ∈ signers validators seal₁.bitmap, v ∈ signers validators seal₂.bitmap ∧
      ¬ Equivocates P W v := by
  obtain ⟨-, hquorum₁, -⟩ := verifyAggregatedSeal_eq_ok.mp h₁
  obtain ⟨-, hquorum₂, -⟩ := verifyAggregatedSeal_eq_ok.mp h₂
  unfold FewFaulty at hfew
  unfold signers at hquorum₁ hquorum₂
  rw [length_selectAt] at hquorum₁ hquorum₂
  have hlarge : validators.length + (faultyPositions P W validators).card <
      (positionsAt (fun i => seal₁.bitmap.testBit i) validators.length).card +
        (positionsAt (fun i => seal₂.bitmap.testBit i) validators.length).card := by omega
  obtain ⟨i, hi, hbit₁, hbit₂, hnot⟩ := exists_common hlarge
  have hv : validators[i]? = some validators[i] := List.getElem?_eq_getElem hi
  exact ⟨validators[i], mem_selectAt hv hbit₁, mem_selectAt hv hbit₂,
    fun heq => hnot (mem_faultyPositions hv heq)⟩

/-- **One block for each number.** -/
lemma hash_eq_of_sealed (hunforged : Unforged P W validators) (hfew : FewFaulty P W validators)
    (hmem₁ : header₁ ∈ W.blocks) (hmem₂ : header₂ ∈ W.blocks)
    (hnumber : header₁.number = header₂.number) (h₁ : Sealed P validators header₁)
    (h₂ : Sealed P validators header₂) :
    ∃ hash, header₁.hash P = .ok hash ∧ header₂.hash P = .ok hash := by
  obtain ⟨hash₁, extra₁, hh₁, hx₁, hv₁⟩ := h₁
  obtain ⟨hash₂, extra₂, hh₂, hx₂, hv₂⟩ := h₂
  obtain ⟨v, hmem, hmem', hhonest⟩ := exists_honest hfew hv₁ hv₂
  have hsigned₁ := hunforged _ hmem₁ _ _ hh₁ hx₁ hv₁ v hmem
  have hsigned₂ := hunforged _ hmem₂ _ _ hh₂ hx₂ hv₂ v hmem'
  obtain rfl : hash₁ = hash₂ := by
    by_contra hne
    exact hhonest ⟨_, hmem₁, _, hmem₂, hnumber, _, _, _, _, hh₁, hh₂, hne, hsigned₁, hsigned₂⟩
  exact ⟨hash₁, hh₁, hh₂⟩

lemma equalButSeal_of_hash_eq (hrlp : P.rlp.Lawful) (hsound : W.Sound P)
    (hmem₁ : header₁ ∈ W.blocks) (hmem₂ : header₂ ∈ W.blocks) (hn₁ : 0 ≤ header₁.number)
    (hn₂ : 0 ≤ header₂.number) {hash : Hash} (h₁ : header₁.hash P = .ok hash)
    (h₂ : header₂.hash P = .ok hash) : EqualButSeal P header₁ header₂ := by
  obtain ⟨hashed₁, hhashed₁, rfl⟩ := hash_eq_ok.mp h₁
  obtain ⟨hashed₂, hhashed₂, hkeccak⟩ := hash_eq_ok.mp h₂
  have hd := hsound.distinguishes _ hmem₁ _ hmem₂
  have henc := hd.collisionFree hashed₁ hashed₂ hhashed₁ hhashed₂ hkeccak.symm
  have hnonneg₁ : 0 ≤ hashed₁.number := by rwa [hashedHeader_number hhashed₁]
  have hnonneg₂ : 0 ≤ hashed₂.number := by rwa [hashedHeader_number hhashed₂]
  have hhashed := toRlp_inj hrlp hnonneg₁ hnonneg₂ (hd.fits hashed₁ hhashed₁) henc
  exact (hashed_eq_iff hrlp (hsound.fits _ hmem₁) (hsound.fits _ hmem₂) hhashed₁ hhashed₂).mp
    hhashed

lemma fields_eq (h : EqualButSeal P header₁ header₂) :
    header₁.number = header₂.number ∧ header₁.time = header₂.time := by
  obtain ⟨hfields, -⟩ := h
  rw [← hfields]
  exact ⟨rfl, rfl⟩

lemma validatorsAfter_congr (h : EqualButSeal P header₁ header₂) :
    validatorsAfter P config validators [header₁] =
      validatorsAfter P config validators [header₂] := by
  have hsame : isEpochHeader config header₁ = isEpochHeader config header₂ := by
    rw [isEpochHeader, isEpochHeader, (fields_eq h).1]
  by_cases hend : isEpochHeader config header₂
  · obtain ⟨-, ⟨extra₁, extra₂, hs₁, hs₂, -, hunsealed⟩ | ⟨-, -, hextra⟩⟩ := h
    · have hdiff : applyDiff extra₁ validators = applyDiff extra₂ validators := by
        simp only [IstanbulExtra.unsealed, IstanbulExtra.mk.injEq] at hunsealed
        obtain ⟨hadded, hkeys, hremoved, -⟩ := hunsealed
        rw [applyDiff, applyDiff, additions, additions, hadded, hkeys, hremoved]
      unfold Header.Says at hs₁ hs₂
      simp [validatorsAfter, epochDiffs, hsame, hend, hs₁, hs₂, Except.toOption, hdiff]
    · simp only [validatorsAfter, epochDiffs, List.filter_cons, List.filter_nil, hsame, hend,
        if_true, List.filterMap_cons, hextra]
  · simp [validatorsAfter, epochDiffs, hsame, hend]

/-! ### Two clients -/

variable (P W config) in
/-- What is asked of the headers that are shown to a client: they are blocks past the genesis block,
and none that ends an epoch is left out; and of the validators that the client holds when it is
shown one, few are faulty and their seals are not forged. -/
structure Faithful (s : Snapshot) (l : List Submission) : Prop where
  nonzero : ∀ b ∈ l, b.header.number ≠ 0
  mem : ∀ b ∈ l, b.header ∈ W.blocks
  skipsNone : ∀ k : ℕ, EpochEnd config.epochSize.toNat k → s.number.toNat < k →
    (∃ b ∈ l, (k : ℤ) ≤ b.header.number) → ∃ b ∈ l, b.header.number = k
  fewFaulty : ∀ l₁ b l₂, l = l₁ ++ b :: l₂ →
    FewFaulty P W (validatorsAfter P config s.validators (l₁.map Submission.header))
  unforged : ∀ l₁ b l₂, l = l₁ ++ b :: l₂ →
    Unforged P W (validatorsAfter P config s.validators (l₁.map Submission.header))

/-- The states of two clients: their validators are the same, and so is their epoch. -/
structure Abreast (P : Platform) (W : History) (config : StateConfig) (l m : List Submission)
    (t u : Snapshot) : Prop where
  validators : t.validators = u.validators
  epoch : ∀ k : ℕ, EpochEnd config.epochSize.toNat k → (k ≤ t.number.toNat ↔ k ≤ u.number.toNat)
  left : Faithful P W config t l
  right : Faithful P W config u m

lemma Abreast.symm (h : Abreast P W config l m t u) : Abreast P W config m l u t :=
  ⟨h.validators.symm, fun k hk => (h.epoch k hk).symm, h.right, h.left⟩

section

variable (hsize : 0 < config.epochSize) (hepoch : config.verifyEpochHeaders)
  (hnonEpoch : config.verifyNonEpochHeaders)

include hsize hepoch hnonEpoch

lemma Faithful.tail (h : Faithful P W config t (b :: l)) (hb : step P config t b = some t') :
    Faithful P W config t' l := by
  have hrecords := (step_spec hsize hb).1
  have hverified := step_verified hsize hepoch hnonEpoch (h.nonzero b (by simp)) hb
  have hlt := (sealed_of_verifyHeader hverified).1
  have hheld (l₁ : List Submission) :
      validatorsAfter P config t.validators ((b :: l₁).map Submission.header) =
        validatorsAfter P config t'.validators (l₁.map Submission.header) := by
    rw [List.map_cons, ← List.singleton_append, validatorsAfter_append, (step_spec hsize hb).2]
  refine ⟨fun c hc => h.nonzero c (by simp [hc]), fun c hc => h.mem c (by simp [hc]), ?_, ?_, ?_⟩
  · rintro k hend hk ⟨c, hc, hle⟩
    have hnumber := hrecords.number
    obtain ⟨d, hd, hdk⟩ := h.skipsNone k hend (by omega) ⟨c, by simp [hc], hle⟩
    rcases List.mem_cons.mp hd with rfl | hd
    · omega
    · exact ⟨d, hd, hdk⟩
  · rintro l₁ c l₂ rfl
    rw [← hheld]
    exact h.fewFaulty (b :: l₁) c l₂ rfl
  · rintro l₁ c l₂ rfl
    rw [← hheld]
    exact h.unforged (b :: l₁) c l₂ rfl

lemma Abreast.both (hrlp : P.rlp.Lawful) (hsound : W.Sound P)
    (h : Abreast P W config (b :: l) (c :: m) t u) (hnumber : b.header.number = c.header.number)
    (hb : step P config t b = some t') (hc : step P config u c = some s') :
    ((∃ hash, b.header.hash P = .ok hash ∧ c.header.hash P = .ok hash) ∧
      EqualButSeal P b.header c.header) ∧ Abreast P W config l m t' s' := by
  obtain ⟨hrecords₁, hvalidators₁⟩ := step_spec hsize hb
  obtain ⟨hrecords₂, hvalidators₂⟩ := step_spec hsize hc
  have hmem₁ := h.left.mem b (by simp)
  have hmem₂ := h.right.mem c (by simp)
  have hsealed₁ := (sealed_of_verifyHeader
    (step_verified hsize hepoch hnonEpoch (h.left.nonzero b (by simp)) hb)).2
  have hsealed₂ := (sealed_of_verifyHeader
    (step_verified hsize hepoch hnonEpoch (h.right.nonzero c (by simp)) hc)).2
  rw [← h.validators] at hsealed₂
  have hfew : FewFaulty P W t.validators := h.left.fewFaulty [] b l rfl
  have hunforged : Unforged P W t.validators := h.left.unforged [] b l rfl
  obtain ⟨hash, hh₁, hh₂⟩ :=
    hash_eq_of_sealed hunforged hfew hmem₁ hmem₂ hnumber hsealed₁ hsealed₂
  have hn₁ := hrecords₁.number
  have hn₂ := hrecords₂.number
  have hequal := equalButSeal_of_hash_eq hrlp hsound hmem₁ hmem₂ (by omega) (by omega) hh₁ hh₂
  refine ⟨⟨⟨hash, hh₁, hh₂⟩, hequal⟩, ?_, ?_, ?_, ?_⟩
  · rw [hvalidators₁, hvalidators₂, ← h.validators, validatorsAfter_congr hequal]
  · intro k _
    have heq : t'.number.toNat = s'.number.toNat := by omega
    rw [heq]
  · exact h.left.tail hsize hepoch hnonEpoch hb
  · exact h.right.tail hsize hepoch hnonEpoch hc

/-- One client is shown a block, and the other is not: the block ends no epoch. -/
lemma Abreast.one (h : Abreast P W config (b :: l) m t u)
    (hnext : Next (fun s : Snapshot => (s.number.toNat : ℤ)) (fun b => b.header.number) b m u)
    (hb : step P config t b = some t') : Abreast P W config l m t' u := by
  obtain ⟨hrecords, hvalidators⟩ := step_spec hsize hb
  have hverified := step_verified hsize hepoch hnonEpoch (h.left.nonzero b (by simp)) hb
  have hlt := (sealed_of_verifyHeader hverified).1
  have hnumber := hrecords.number
  -- the other client would have to be shown the end of an epoch that it has not reached
  have hreached : ∀ k : ℕ, EpochEnd config.epochSize.toNat k → (k : ℤ) ≤ b.header.number →
      k ≤ u.number.toNat := by
    intro k hend hk
    by_contra hku
    rcases m with _ | ⟨c, m⟩
    · have hle := hnext.2 rfl
      dsimp only at hle
      omega
    · have hc : b.header.number < c.header.number := hnext.1 c (by simp)
      obtain ⟨d, hd, hdk⟩ := h.right.skipsNone k hend (by omega) ⟨c, by simp, by omega⟩
      have hbd : b.header.number < d.header.number := hnext.1 d hd
      omega
  have hepochs : ∀ k : ℕ, EpochEnd config.epochSize.toNat k →
      (k ≤ t'.number.toNat ↔ k ≤ u.number.toNat) := by
    intro k hend
    refine ⟨fun hk => hreached k hend (by omega), fun hk => ?_⟩
    have hkt := (h.epoch k hend).mpr hk
    omega
  refine ⟨?_, hepochs, h.left.tail hsize hepoch hnonEpoch hb, h.right⟩
  have hinner : ¬ isEpochHeader config b.header := by
    rw [isEpochHeader, decide_eq_true_eq, ← hnumber, Int.natCast_dvd_natCast]
    intro hdvd
    have hend : EpochEnd config.epochSize.toNat t'.number.toNat := Nat.mod_eq_zero_of_dvd hdvd
    have hkt := (h.epoch _ hend).mpr ((hepochs _ hend).mp le_rfl)
    omega
  rw [hvalidators, ← h.validators]
  simp [validatorsAfter, epochDiffs, hinner]

end

/-- **Agreement.** Two clients that start from one snapshot, and are not made to miss the end of an
epoch, accept the same block of a number, whatever seals it is shown with; and where both have
accepted the blocks up to the same number, their snapshots are equal but for the seal. -/
theorem agreement (hrlp : P.rlp.Lawful) (hsound : W.Sound P) (hsize : 1 ≤ config.epochSize)
    (hepoch : config.verifyEpochHeaders) (hnonEpoch : config.verifyNonEpochHeaders)
    (hl : Faithful P W config s l) (hm : Faithful P W config s m)
    (ht : run (step P config) s l = some t) (hu : run (step P config) s m = some u) :
    (∀ b ∈ l, ∀ c ∈ m, b.header.number = c.header.number → EqualButSeal P b.header c.header) ∧
      (t.number = u.number → { t with aggregatedSeal := u.aggregatedSeal } = u) := by
  have hpos := epochSize_pos hsize
  have hstampl := stamped_number (P := P) hpos hepoch hnonEpoch hl.nonzero
  have hstampm := stamped_number (P := P) hpos hepoch hnonEpoch hm.nonzero
  obtain ⟨hblocks, hend⟩ := run_side_by_side (Abreast P W config)
    (fun b c => (∃ hash, b.header.hash P = .ok hash ∧ c.header.hash P = .ok hash) ∧
      EqualButSeal P b.header c.header) (fun _ _ _ _ h => h.symm)
    (fun _ _ _ _ _ _ _ _ h => h.both hpos hepoch hnonEpoch hrlp hsound)
    (fun _ _ _ _ _ _ h => h.one hpos hepoch hnonEpoch) hstampl hstampm
    ⟨rfl, fun _ _ => Iff.rfl, hl, hm⟩ ht hu
  refine ⟨fun b hb c hc hnumber => (hblocks b hb c hc hnumber).2, fun hnumber => ?_⟩
  have hmark : (t.number.toNat : ℤ) = u.number.toNat := by rw [hnumber]
  have hvalidators := (hend hmark).validators
  have hstartl := run_stamps_pairwise hstampl ht
  have hstartm := run_stamps_pairwise hstampm hu
  rcases hlast : l.getLast? with _ | b <;> rcases hlast' : m.getLast? with _ | c
  · -- neither has been shown anything
    cases List.getLast?_eq_none_iff.mp hlast
    cases List.getLast?_eq_none_iff.mp hlast'
    cases ht
    cases hu
    rfl
  · cases List.getLast?_eq_none_iff.mp hlast
    cases ht
    have habove := (List.pairwise_cons.mp hstartm).1 _
      (List.mem_map_of_mem (List.mem_of_getLast? hlast'))
    rw [← run_mark_last hstampm hu hlast'] at habove
    omega
  · cases List.getLast?_eq_none_iff.mp hlast'
    cases hu
    have habove := (List.pairwise_cons.mp hstartl).1 _
      (List.mem_map_of_mem (List.mem_of_getLast? hlast))
    rw [← run_mark_last hstampl ht hlast] at habove
    omega
  · -- the last blocks that the two have been shown are the same block
    have hrecords := run_records hpos ht hlast
    have hrecords' := run_records hpos hu hlast'
    have hsame : b.header.number = c.header.number := by
      rw [← hrecords.number, ← hrecords'.number, hmark]
    obtain ⟨⟨hash, hh, hh'⟩, hequal⟩ := hblocks b (List.mem_of_getLast? hlast) c
      (List.mem_of_getLast? hlast') hsame
    have hhash : t.hash = u.hash := by
      have hb := Except.ok.inj (hrecords.hash.symm.trans hh)
      have hc := Except.ok.inj (hrecords'.hash.symm.trans hh')
      rw [hb, hc]
    have htime : t.timestamp = u.timestamp := by
      rw [hrecords.timestamp, hrecords'.timestamp, (fields_eq hequal).2]
    rw [hnumber, htime, hvalidators, hhash]

/-! ### Three blocks, and two of them -/

/-- The blocks without their seals, which is what is hashed of them. -/
def hashedBlocks : List Header :=
  [Reference.headerOf 8 101 (zeroBytes _) (Reference.diff 0 []),
    Reference.headerOf 10 102 (zeroBytes _) (Reference.diff 1 [Reference.validator 4]),
    Reference.headerOf 11 103 (zeroBytes _) (Reference.diff 0 [])]

/-- Only these blocks have been signed. -/
def history : History where
  blocks := {header | header ∈ threeBlocks.map Submission.header}
  signed _ message := ∃ b ∈ threeBlocks, ∃ hash round, b.header.hash Reference.platform = .ok hash ∧
    message = prepareCommitedSeal hash round

lemma hashedBlocks_eq :
    threeBlocks.map (fun b => hashedHeader Reference.platform b.header) =
      hashedBlocks.map .ok := by
  decide +kernel

lemma hashedBlocks_nodup :
    (hashedBlocks.map fun hashed =>
      Keccak.keccak256 (hashed.toRlp Rlp.reference)).Nodup := by
  decide +kernel

lemma hashedBlocks_fit : ∀ hashed ∈ hashedBlocks,
    (Rlp.reference.encode (hashed.item Rlp.reference)).length < 2 ^ 64 := by
  decide +kernel

lemma unsealed_fit : ∀ b ∈ threeBlocks, ∃ extra ∈ [Reference.diff 0 [],
    Reference.diff 1 [Reference.validator 4]],
    (IstanbulExtra.fromRlp Reference.platform.rlp b.header.extra).map IstanbulExtra.unsealed =
      .ok extra ∧ (Rlp.reference.encode extra.item).length < 2 ^ 64 := by
  decide +kernel

lemma mem_hashedBlocks {header hashed : Header} (hmem : header ∈ history.blocks)
    (h : hashedHeader Reference.platform header = .ok hashed) : hashed ∈ hashedBlocks := by
  obtain ⟨b, hb, rfl⟩ := List.mem_map.mp hmem
  have hok : hashedHeader Reference.platform b.header ∈ hashedBlocks.map Except.ok := by
    rw [← hashedBlocks_eq]
    exact List.mem_map_of_mem hb
  rw [h] at hok
  simpa using hok

lemma history_sound : history.Sound Reference.platform where
  fits header hmem extra hsaid := by
    obtain ⟨b, hb, rfl⟩ := List.mem_map.mp hmem
    obtain ⟨extra', -, heq, hfits⟩ := unsealed_fit b hb
    unfold Header.Says at hsaid
    rw [hsaid] at heq
    rw [Except.ok.inj heq]
    exact hfits
  distinguishes header₁ hmem₁ header₂ hmem₂ := by
    refine ⟨fun hashed h => hashedBlocks_fit _ (mem_hashedBlocks hmem₁ h), ?_⟩
    intro hashed₁ hashed₂ h₁ h₂ hkeccak
    rw [List.inj_on_of_nodup_map hashedBlocks_nodup (mem_hashedBlocks hmem₁ h₁)
      (mem_hashedBlocks hmem₂ h₂) hkeccak]

lemma history_unforged (validators : List Validator) :
    Unforged Reference.platform history validators := by
  intro header hmem hash extra hhash _ _ v _
  obtain ⟨b, hb, rfl⟩ := List.mem_map.mp hmem
  exact ⟨b, hb, hash, _, hhash, rfl⟩

lemma threeBlocks_numbers :
    (threeBlocks.map fun b => b.header.number) = [8, 10, 11] ∧
      ∀ b ∈ threeBlocks, b.header.number = 10 → b.header = lastBlock.header := by
  decide +kernel

lemma history_fewFaulty {validators : List Validator} (hne : validators ≠ []) :
    FewFaulty Reference.platform history validators := by
  have hhonest (v : Validator) : ¬ Equivocates Reference.platform history v := by
    rintro ⟨header₁, hmem₁, header₂, hmem₂, hnumber, hash₁, hash₂, -, -, hh₁, hh₂, hne, -⟩
    have hnodup : ((threeBlocks.map Submission.header).map Header.number).Nodup := by
      decide +kernel
    obtain rfl := List.inj_on_of_nodup_map hnodup hmem₁ hmem₂ hnumber
    exact hne (Except.ok.inj (hh₁.symm.trans hh₂))
  have hempty : faultyPositions Reference.platform history validators = ∅ := by
    simp [faultyPositions, hhonest]
  have hpos := List.length_pos_of_ne_nil hne
  rw [FewFaulty, hempty, Finset.card_empty]
  omega

lemma faithful_of_sublist (hsub : l ⊆ threeBlocks) (hlast : lastBlock ∈ l)
    (hvalidators : ∀ i < l.length, validatorsAfter Reference.platform Reference.config
      Reference.start.validators ((l.take i).map Submission.header) ≠ []) :
    Faithful Reference.platform history Reference.config Reference.start l where
  nonzero b hb h0 := by
    have hmem := List.mem_map_of_mem (f := fun b : Submission => b.header.number) (hsub hb)
    rw [threeBlocks_numbers.1, h0] at hmem
    exact absurd hmem (by decide)
  mem b hb := List.mem_map_of_mem (hsub hb)
  skipsNone k hend hk hle := by
    obtain ⟨b, hb, hle⟩ := hle
    have hmem := List.mem_map_of_mem (f := fun b : Submission => b.header.number) (hsub hb)
    rw [threeBlocks_numbers.1] at hmem
    have hend' : k % 10 = 0 := hend
    have hk' : 7 < k := hk
    have hten : lastBlock.header.number = 10 := by decide +kernel
    simp only [List.mem_cons, List.not_mem_nil, or_false] at hmem
    exact ⟨lastBlock, hlast, by omega⟩
  fewFaulty l₁ b l₂ hl := by
    have htake : l₁ = l.take l₁.length := by rw [hl, List.take_left]
    rw [htake]
    refine history_fewFaulty (hvalidators _ ?_)
    rw [hl, List.length_append, List.length_cons]
    omega
  unforged _ _ _ _ := history_unforged _

def twoBlocks : List Submission := [lastBlock, firstBlock]

set_option maxRecDepth 10000 in
lemma twoBlocks_accepted :
    ∃ u, run (step Reference.platform Reference.config) Reference.start twoBlocks = some u :=
  Option.isSome_iff_exists.mp (by decide +kernel)

/-- The client that has not been shown block 8 agrees with the one that has. -/
theorem agreement_two :
    ∃ t u, run (step Reference.platform Reference.config) Reference.start threeBlocks = some t ∧
      run (step Reference.platform Reference.config) Reference.start twoBlocks = some u ∧
      (t.number = u.number → { t with aggregatedSeal := u.aggregatedSeal } = u) := by
  obtain ⟨t, ht⟩ := threeBlocks_accepted
  obtain ⟨u, hu⟩ := twoBlocks_accepted
  have hthree : Faithful Reference.platform history Reference.config Reference.start threeBlocks :=
    faithful_of_sublist (List.Subset.refl _) (by simp [threeBlocks]) (by decide +kernel)
  have htwo : Faithful Reference.platform history Reference.config Reference.start twoBlocks :=
    faithful_of_sublist (by simp [twoBlocks, threeBlocks]) (by simp [twoBlocks]) (by decide +kernel)
  exact ⟨t, u, ht, hu, (agreement Rlp.reference_lawful history_sound (by decide) rfl rfl hthree htwo
    ht hu).2⟩

end CeloLightClient.Agreement

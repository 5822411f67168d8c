import CeloLightClient.Addresses
import CeloLightClient.Hash
import CeloLightClient.Totality

/-!
Where the state machine aborts.

The quorum of an empty list of validators underflows, and the list becomes empty when the last
header of an epoch removes everyone and adds no one. Apart from that a header aborts its own
verification in three ways: its number is not a `u64`, the sum for its time overflows, or an
address or a key in its extra field is too short.
-/

namespace CeloLightClient.State

open Lib Lib.Outcome Lib.Action Chain

variable {P : Platform} {config : StateConfig} {s s' : Snapshot} {header : Header}
  {now number : UInt64} {validators : List Validator} {hash : Hash}
  {aggregatedSeal : IstanbulAggregatedSeal}

/-! ### Seals -/

lemma minQuorumSize_eq_abort {ε : Type} {n : ℕ} :
    (minQuorumSize n : Outcome ε ℕ) = abort ↔ n = 0 := by
  rcases Nat.eq_zero_or_pos n with rfl | hn
  · simp [minQuorumSize, subSize]
  · rw [minQuorumSize_eq_ok.mpr ⟨hn, rfl⟩]
    simp [hn.ne']

/-- **A seal can be checked** unless there is nobody to have made it. -/
theorem verifyAggregatedSeal_eq_abort :
    verifyAggregatedSeal P hash validators aggregatedSeal = abort ↔ validators = [] := by
  have hkeys : (signers validators aggregatedSeal.bitmap).mapM
      (fun validator => deserializePubKey P validator.publicKey.1) ≠ abort :=
    mapM_ne_abort fun v => by simp [deserializePubKey]
  simp [verifyAggregatedSeal, bind_eq_abort, minQuorumSize_eq_abort, hkeys, deserializeSignature]

/-! ### Headers -/

lemma hash_eq_abort :
    header.hash P = abort ↔ IstanbulExtra.fromRlp P.rlp header.extra = abort := by
  unfold Header.hash
  split
  · next hlen =>
    -- the vanity is there, so only the decoder is left to abort
    have hvanity : fromBytes ISTANBUL_EXTRA_VANITY_LENGTH header.extra ≠ abort := by
      rw [Ne, fromBytes_eq_abort]
      exact Nat.not_lt.mpr hlen
    have hfilter : istanbulFilteredHeader P header true = abort ↔
        IstanbulExtra.fromRlp P.rlp header.extra = abort := by
      simp [istanbulFilteredHeader, bind_eq_abort, hvanity]
    rw [bind_eq_abort, attempt_eq_abort, hfilter, or_iff_left]
    rintro ⟨_ | _, -, h⟩ <;> simp [rlpHash_eq] at h
  · next hlen =>
    rw [rlpHash_eq]
    exact iff_of_false (by simp) fun h => hlen (IstanbulExtra.length_le_of_fromRlp h (by simp))

lemma verifyHeaderSeal_eq_abort (hne : s.validators ≠ []) :
    verifyHeaderSeal P s header = abort ↔
      IstanbulExtra.fromRlp P.rlp header.extra = abort := by
  simp only [verifyHeaderSeal, bind_eq_abort, hash_eq_abort, verifyAggregatedSeal_eq_abort, hne,
    and_false, exists_false, or_false]
  constructor
  · rintro (hx | ⟨_, _, hx⟩)
    · exact hx
    · exact hx
  · exact .inl

lemma verifyTimestamp_eq_abort :
    verifyTimestamp config s header now = abort ↔
      s.timestamp < header.time ∧ 2 ^ 64 ≤ now.toNat + config.allowedClockSkew.toNat := by
  unfold verifyTimestamp
  rcases Nat.lt_or_ge (now.toNat + config.allowedClockSkew.toNat) (2 ^ 64) with hlt | hle
  · simpa [bind_eq_abort, add_of_lt hlt] using fun _ => hlt
  · simpa [bind_eq_abort, add_of_le hle] using fun _ => hle

/-- Verification of the header aborts on account of the header: its number is not a `u64`, or
verification gets as far as the sum for its time, which overflows, or as far as its extra field,
where an address or a key is too short. -/
def Uncheckable (P : Platform) (config : StateConfig) (s : Snapshot) (header : Header)
    (now : UInt64) : Prop :=
  toU64 header.number = none ∨ ∃ number, toU64 header.number = some number ∧ s.number < number ∧
    (config.verifyHeaderTimestamp ∧ s.timestamp < header.time ∧
        2 ^ 64 ≤ now.toNat + config.allowedClockSkew.toNat ∨
      (config.verifyHeaderTimestamp → Timely config s header now) ∧
        IstanbulExtra.TooShort P.rlp header.extra)

/-- **Verification aborts** only on account of the header, if there are validators. -/
theorem verifyHeader_eq_abort (hne : s.validators ≠ []) :
    verifyHeader P config s header now = abort ↔ Uncheckable P config s header now := by
  have htime : (if config.verifyHeaderTimestamp then verifyTimestamp config s header now
        else pure ()) = (abort : Outcome Error Unit) ↔
      config.verifyHeaderTimestamp ∧ s.timestamp < header.time ∧
        2 ^ 64 ≤ now.toNat + config.allowedClockSkew.toNat := by
    split <;> simp [verifyTimestamp_eq_abort, *]
  have htimely : (if config.verifyHeaderTimestamp then verifyTimestamp config s header now
        else pure ()) = (.ok () : Outcome Error Unit) ↔
      (config.verifyHeaderTimestamp → Timely config s header now) := by
    split <;> simp [verifyTimestamp_eq_ok, *]
  rcases hn : toU64 header.number with _ | number
  · simp [verifyHeader, Uncheckable, hn]
  · simp only [verifyHeader, Uncheckable, hn, bind_eq_abort, unwrap_some, ok_bind, ensure_ne_abort,
      ensure_eq_ok, htime, htimely, verifyHeaderSeal_eq_abort hne, IstanbulExtra.fromRlp_eq_abort,
      reduceCtorEq, false_or, Option.some.injEq, exists_eq_left', exists_const]

/-! ### Empty lists of validators -/

/-- The header is that of an epoch's last block, and its diff removes every validator and adds
none. -/
def Empties (P : Platform) (config : StateConfig) (s : Snapshot) (header : Header) : Prop :=
  ∃ number extra, toU64 header.number = some number ∧
    EpochEnd config.epochSize.toNat number.toNat ∧
    IstanbulExtra.fromRlp P.rlp header.extra = .ok extra ∧
    (∀ i < s.validators.length, extra.removedValidators.testBit i) ∧ extra.addedValidators = []

lemma applyDiff_eq_nil {extra : IstanbulExtra} (hd : DiffApplies extra validators) :
    applyDiff extra validators = [] ↔
      (∀ i < validators.length, extra.removedValidators.testBit i) ∧
        extra.addedValidators = [] := by
  have hadded : additions extra = [] ↔ extra.addedValidators = [] := by
    rw [← map_address_additions hd.lengths, List.map_eq_nil_iff]
  simp [applyDiff, hadded, survivors, selectAt_eq_nil]

lemma step_eq_nil (hsize : 0 < config.epochSize) (hne : s.validators ≠ []) {b : Submission}
    (h : step P config s b = some s') : s'.validators = [] ↔ Empties P config s b.header := by
  obtain ⟨number, hash, extra, ha, rfl⟩ := (insertHeader_eq_ok hsize).mp (step_eq_some.mp h)
  by_cases hend : EpochEnd config.epochSize.toNat number.toNat
  · simp only [snapshotOf, nextValidators, if_pos hend, applyDiff_eq_nil (ha.diff hend)]
    simp [Empties, ha.number_eq, ha.extra_eq, hend]
  · simp [snapshotOf, nextValidators, hend, hne, Empties, ha.number_eq]

/-- The quorum of the snapshot's validators is two thirds of them, rounded up, and checking a seal
or the snapshot does not abort. -/
structure Verifiable (P : Platform) (s : Snapshot) : Prop where
  quorum : (minQuorumSize s.validators.length : Outcome Error ℕ) =
    .ok ⌈(2 * s.validators.length : ℚ) / 3⌉₊
  aggregatedSeal : ∀ hash aggregatedSeal,
    verifyAggregatedSeal P hash s.validators aggregatedSeal ≠ abort
  snapshot : s.verify P ≠ abort

lemma verifiable_iff : Verifiable P s ↔ s.validators ≠ [] := by
  constructor
  · exact fun h hnil => h.snapshot (verifyAggregatedSeal_eq_abort.mpr hnil)
  · intro hne
    have htotal : ∀ hash aggregatedSeal,
        verifyAggregatedSeal P hash s.validators aggregatedSeal ≠ abort :=
      fun _ _ => mt verifyAggregatedSeal_eq_abort.mp hne
    refine ⟨?_, htotal, htotal s.hash s.aggregatedSeal⟩
    rw [← quorum_eq_ceil]
    exact minQuorumSize_eq_ok.mpr ⟨List.length_pos_of_ne_nil hne, rfl⟩

lemma run_ne_nil (hsize : 0 < config.epochSize) (hne : s.validators ≠ []) {l : List Submission}
    (hrun : run (step P config) s l = some s')
    (hkeeps : ∀ l₁ b l₂ t, l = l₁ ++ b :: l₂ → run (step P config) s l₁ = some t →
      ¬ Empties P config t b.header) : s'.validators ≠ [] :=
  run_invariant (I := fun t => t.validators ≠ []) hne hrun fun l₁ b l₂ t _ hl hl₁ ht hb =>
    mt (step_eq_nil hsize ht hb).mp (hkeeps l₁ b l₂ t hl hl₁)

/-- **Verification never aborts** in a run, nor does that of a further header, exactly when no
header of the run empties the list of validators and the further one can be checked at all. -/
theorem verification_total_iff (hsize : 1 ≤ config.epochSize) (hne : s.validators ≠ [])
    {l : List Submission} (hrun : run (step P config) s l = some s') :
    ((∀ l₁ l₂ t, l = l₁ ++ l₂ → run (step P config) s l₁ = some t → Verifiable P t) ∧
        verifyHeader P config s' header now ≠ abort) ↔
      (∀ l₁ b l₂ t, l = l₁ ++ b :: l₂ → run (step P config) s l₁ = some t →
          ¬ Empties P config t b.header) ∧
        ¬ Uncheckable P config s' header now := by
  have hpos := epochSize_pos hsize
  constructor
  · rintro ⟨hverifiable, htotal⟩
    have hend := verifiable_iff.mp (hverifiable l [] s' (List.append_nil l).symm hrun)
    refine ⟨fun l₁ b l₂ t hl hl₁ hempties => ?_, mt (verifyHeader_eq_abort hend).mpr htotal⟩
    -- the run goes on from the step, to a snapshot that has validators
    have ht := verifiable_iff.mp (hverifiable l₁ (b :: l₂) t hl hl₁)
    obtain ⟨t₁, t', hl₁', hb, -⟩ := run_split (hl ▸ hrun)
    obtain rfl := Option.some.inj (hl₁.symm.trans hl₁')
    have hprefix : run (step P config) s (l₁ ++ [b]) = some t' :=
      run_append_eq_some.mpr ⟨t, hl₁, run_cons_eq_some.mpr ⟨t', hb, rfl⟩⟩
    have ht' := verifiable_iff.mp (hverifiable (l₁ ++ [b]) l₂ t' (by simp [hl]) hprefix)
    exact ht' ((step_eq_nil hpos ht hb).mpr hempties)
  · rintro ⟨hkeeps, hcheckable⟩
    have hstates : ∀ l₁ l₂ t, l = l₁ ++ l₂ → run (step P config) s l₁ = some t →
        t.validators ≠ [] := fun l₁ l₂ t hl hl₁ =>
      run_ne_nil hpos hne hl₁ fun m₁ b m₂ u hm hm₁ =>
        hkeeps m₁ b (m₂ ++ l₂) u (by simp [hl, hm]) hm₁
    have hend := hstates l [] s' (List.append_nil l).symm hrun
    exact ⟨fun l₁ l₂ t hl hl₁ => verifiable_iff.mpr (hstates l₁ l₂ t hl hl₁),
      mt (verifyHeader_eq_abort hend).mp hcheckable⟩

/-- The sealed header of block 10, which removes the three validators and adds none. -/
def emptyingBlock : Submission := ⟨Reference.nextHeader 10 101 (Reference.diff 7 []), 100⟩

/-- The header is accepted, and then neither the snapshot nor any header can be verified. -/
theorem emptied_aborts :
    Reference.start.validators ≠ [] ∧ ((run (step Reference.platform Reference.config)
      Reference.start [emptyingBlock]).map fun s =>
        (s.validators, s.verify Reference.platform,
          verifyHeader Reference.platform Reference.config s innerBlock.header 100,
          verifyHeader Reference.platform Reference.config s firstBlock.header 100)) =
      some ([], abort, fail (Kind.HeaderVerificationError
        "header height should be greater than the last one stored in state").into, abort) := by
  decide +kernel

theorem verification_total_iff_three :
    ∃ s', run (step Reference.platform Reference.config) Reference.start threeBlocks = some s' ∧
      ((∀ l₁ l₂ t, threeBlocks = l₁ ++ l₂ →
          run (step Reference.platform Reference.config) Reference.start l₁ = some t →
          Verifiable Reference.platform t) ∧
        verifyHeader Reference.platform Reference.config s' innerBlock.header 100 ≠ abort ↔
      (∀ l₁ b l₂ t, threeBlocks = l₁ ++ b :: l₂ →
          run (step Reference.platform Reference.config) Reference.start l₁ = some t →
          ¬ Empties Reference.platform Reference.config t b.header) ∧
        ¬ Uncheckable Reference.platform Reference.config s' innerBlock.header 100) := by
  obtain ⟨s', hrun⟩ := threeBlocks_accepted
  exact ⟨s', hrun, verification_total_iff (by decide) (by decide) hrun⟩

/-! ### Numbers that are no `u64` -/

/-- A header is ingested without an abort: inserting it and verifying it return, and with an error
if its number is not a `u64`. -/
structure Ingests (P : Platform) (config : StateConfig) (s : Snapshot) (header : Header)
    (now : UInt64) : Prop where
  insert : (exec (insertHeader P config header now) s).1 ≠ abort
  verify : verifyHeader P config s header now ≠ abort
  insert_refuses : 2 ^ 64 ≤ header.number →
    ∃ e, (exec (insertHeader P config header now) s).1 = fail e
  verify_refuses : 2 ^ 64 ≤ header.number → ∃ e, verifyHeader P config s header now = fail e

lemma verifyUnlessGenesis_ne_abort {verify : Bool}
    (h : verifyHeader P config s header now ≠ abort) :
    verifyUnlessGenesis P config verify s header now ≠ abort := by
  unfold verifyUnlessGenesis
  split
  · exact h
  · simp

/-- **Insertion aborts** only where verification or the decoder of the extra field does. -/
theorem insertHeader_ne_abort (hsize : 0 < config.epochSize)
    (hn : toU64 header.number = some number) (hv : verifyHeader P config s header now ≠ abort)
    (hx : IstanbulExtra.fromRlp P.rlp header.extra ≠ abort) :
    (exec (insertHeader P config header now) s).1 ≠ abort := by
  have hv' : ∀ verify, verifyUnlessGenesis P config verify s header now ≠ abort :=
    fun _ => verifyUnlessGenesis_ne_abort hv
  have hh : header.hash P ≠ abort := mt hash_eq_abort.mp hx
  rw [insertHeader_exec hsize hn]
  split
  · have hne : epochChecks P config s header now ≠ abort := by
      simp [epochChecks, bind_eq_abort, hv', hh, hx]
    rcases hc : epochChecks P config s header now with e | ⟨hash, extra⟩
    · rw [hc] at hne
      rw [storeEpochHeader_of_error hc]
      simpa [abort] using hne
    · rw [storeEpochHeader_of_ok hc hn]
      split <;> [split; skip] <;> simp
  · have hne : headerChecks P config s header now ≠ abort := by
      simp [headerChecks, bind_eq_abort, hv', hh, hx]
    rcases hc : headerChecks P config s header now with e | ⟨hash, extra⟩
    · rw [hc] at hne
      rw [storeNonEpochHeader_of_error hc hn]
      simpa [abort] using hne
    · rw [storeNonEpochHeader_of_ok hc hn]
      simp

/-- **Ingestion never aborts** exactly on the decoded headers whose number is a `u64`. -/
theorem ingests_iff (hsize : 1 ≤ config.epochSize) (hne : s.validators ≠ [])
    (htime : now.toNat + config.allowedClockSkew.toNat < 2 ^ 64) {bytes : Bytes}
    (hheader : Header.fromRlp P.rlp bytes = .ok header)
    (hx : IstanbulExtra.fromRlp P.rlp header.extra ≠ abort) :
    Ingests P config s header now ↔ header.number < 2 ^ 64 := by
  have hnonneg := Header.number_nonneg_of_fromRlp hheader
  constructor
  · intro h
    by_contra hlarge
    have hn : toU64 header.number = none := if_neg fun hfits => hlarge hfits.2
    exact h.insert (by rw [insertHeader_of_none hn])
  · intro hlt
    have hn : toU64 header.number = some (UInt64.ofNat header.number.toNat) :=
      if_pos ⟨hnonneg, hlt⟩
    have hcheckable : ¬ Uncheckable P config s header now := by
      rintro (hnone | ⟨_, -, -, ⟨-, -, hover⟩ | ⟨-, habort⟩⟩)
      · exact absurd (hnone.symm.trans hn) (by simp)
      · exact absurd hover (Nat.not_le.mpr htime)
      · exact hx (IstanbulExtra.fromRlp_eq_abort.mpr habort)
    have hverify := mt (verifyHeader_eq_abort hne).mp hcheckable
    exact ⟨insertHeader_ne_abort (epochSize_pos hsize) hn hverify hx, hverify,
      fun hlarge => absurd hlarge (not_le.mpr hlt), fun hlarge => absurd hlarge (not_le.mpr hlt)⟩

/-- A header of block `2 ^ 64`. -/
def overflowingHeader : Header :=
  Reference.headerOf (2 ^ 64) 101 (zeroBytes _) (Reference.diff 0 [])

/-- The header is decoded, and aborts both insertion and verification. -/
theorem overflowing_aborts :
    Header.fromRlp Reference.platform.rlp (overflowingHeader.toRlp Reference.platform.rlp) =
        .ok overflowingHeader ∧
      (exec (insertHeader Reference.platform Reference.config overflowingHeader 100)
        Reference.start).1 = abort ∧
      verifyHeader Reference.platform Reference.config Reference.start overflowingHeader 100 =
        abort := by
  decide +kernel

theorem ingests_iff_next :
    Ingests Reference.platform Reference.config Reference.start innerBlock.header 100 ↔
      innerBlock.header.number < 2 ^ 64 := by
  have hheader : Header.fromRlp Reference.platform.rlp
      (innerBlock.header.toRlp Reference.platform.rlp) = .ok innerBlock.header := by
    decide +kernel
  exact ingests_iff (by decide) (by decide) (by decide) hheader (by decide +kernel)

end CeloLightClient.State

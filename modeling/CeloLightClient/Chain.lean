import CeloLightClient.Safety
import CeloLightClient.Lib.Run

/-!
Runs of the state machine: headers submitted one after another, all of them accepted.

The validators in the snapshot are those of the start with the diffs of the epochs since then
applied, and nothing else. So every header of a run is checked against the set that the headers
before it lead to.
-/

namespace CeloLightClient.Chain

open Lib Lib.Outcome Lib.Action State

/-- A header, and the time at which it is submitted. -/
structure Submission where
  header : Header
  now : UInt64

variable (P : Platform) (config : StateConfig)

/-- Submit a header that has to be accepted. -/
def step (s : Snapshot) (b : Submission) : Option Snapshot :=
  match exec (insertHeader P config b.header b.now) s with
  | (.ok (), s') => some s'
  | (.error _, _) => none

/-! ### The validators that a list of headers leads to -/

/-- The header is that of the last block of an epoch. -/
def isEpochHeader (header : Header) : Bool := decide ((config.epochSize.toNat : ℤ) ∣ header.number)

/-- The extra fields of the epochs' last headers. -/
def epochDiffs (headers : List Header) : List IstanbulExtra :=
  (headers.filter (isEpochHeader config)).filterMap fun header =>
    (IstanbulExtra.fromRlp P.rlp header.extra).toOption

/-- Apply the diffs of the epochs in order. -/
def validatorsAfter (validators : List Validator) (headers : List Header) : List Validator :=
  (epochDiffs P config headers).foldl (fun validators extra => applyDiff extra validators)
    validators

/-- A quorum of the validators has sealed the header's hash: the seal is accepted, and the bits
of two thirds of the positions, rounded up, are set. -/
def SealedByQuorum (validators : List Validator) (header : Header) : Prop :=
  ∃ hash extra, header.hash P = .ok hash ∧ IstanbulExtra.fromRlp P.rlp header.extra = .ok extra ∧
    verifyAggregatedSeal P hash validators extra.aggregatedSeal = .ok () ∧
    ⌈(2 * validators.length : ℚ) / 3⌉₊ ≤
      (positionsAt (fun i => extra.aggregatedSeal.bitmap.testBit i) validators.length).card

/-- The snapshot is that of the header's block. -/
structure Records (s : Snapshot) (header : Header) : Prop where
  number : (s.number.toNat : ℤ) = header.number
  timestamp : s.timestamp = header.time
  hash : header.hash P = .ok s.hash
  aggregatedSeal : ∃ extra, IstanbulExtra.fromRlp P.rlp header.extra = .ok extra ∧
    s.aggregatedSeal = extra.aggregatedSeal

variable {P config} {s s' : Snapshot} {b : Submission} {l : List Submission} {header : Header}
  {number : UInt64} {validators : List Validator}

lemma step_eq_some :
    step P config s b = some s' ↔ exec (insertHeader P config b.header b.now) s = (.ok (), s') := by
  unfold step
  rcases h : exec (insertHeader P config b.header b.now) s with ⟨_ | _, t⟩ <;> simp

variable (config) in
lemma isEpochHeader_iff (hn : toU64 header.number = some number) :
    isEpochHeader config header ↔ EpochEnd config.epochSize.toNat number.toNat := by
  rw [isEpochHeader, decide_eq_true_eq, ← toU64_toNat hn, Int.natCast_dvd_natCast, EpochEnd,
    Nat.dvd_iff_mod_eq_zero]

lemma sealedByQuorum_of_sealed (h : Sealed P validators header) :
    SealedByQuorum P validators header := by
  obtain ⟨hash, extra, hh, hx, hv⟩ := h
  have hquorum := (quorum_of_verify hv).2
  exact ⟨hash, extra, hh, hx, hv, hquorum⟩

lemma validatorsAfter_append (l m : List Header) :
    validatorsAfter P config validators (l ++ m) =
      validatorsAfter P config (validatorsAfter P config validators l) m := by
  simp [validatorsAfter, epochDiffs]

/-- **One step**, seen from outside. -/
lemma step_spec (hsize : 0 < config.epochSize) (h : step P config s b = some s') :
    Records P s' b.header ∧ s'.validators = validatorsAfter P config s.validators [b.header] := by
  obtain ⟨number, hash, extra, ha, rfl⟩ := (insertHeader_eq_ok hsize).mp (step_eq_some.mp h)
  refine ⟨⟨toU64_toNat ha.number_eq, rfl, ha.hash_eq, extra, ha.extra_eq, rfl⟩, ?_⟩
  have hiff := isEpochHeader_iff config ha.number_eq
  by_cases hend : EpochEnd config.epochSize.toNat number.toNat
  · simp [snapshotOf, nextValidators, hend, validatorsAfter, epochDiffs, hiff.mpr hend, ha.extra_eq,
      Except.toOption]
  · simp [snapshotOf, nextValidators, hend, validatorsAfter, epochDiffs, mt hiff.mp hend]

lemma run_validators (hsize : 0 < config.epochSize) (hrun : run (step P config) s l = some s') :
    s'.validators = validatorsAfter P config s.validators (l.map Submission.header) := by
  induction l generalizing s with
  | nil => cases hrun; rfl
  | cons b l ih =>
    obtain ⟨t, hb, hl⟩ := run_cons_eq_some.mp hrun
    rw [ih hl, (step_spec hsize hb).2, List.map_cons, ← validatorsAfter_append,
      List.singleton_append]

lemma step_verified (hsize : 0 < config.epochSize) (hepoch : config.verifyEpochHeaders)
    (hnonEpoch : config.verifyNonEpochHeaders) (hnz : b.header.number ≠ 0)
    (h : step P config s b = some s') : verifyHeader P config s b.header b.now = .ok () := by
  obtain ⟨number, hash, extra, ha, -⟩ := (insertHeader_eq_ok hsize).mp (step_eq_some.mp h)
  exact ha.verified (verifies_of_both hepoch hnonEpoch number) hnz

section Verified

variable (hsize : 0 < config.epochSize) (hepoch : config.verifyEpochHeaders)
  (hnonEpoch : config.verifyNonEpochHeaders) (hnz : ∀ b ∈ l, b.header.number ≠ 0)

include hsize hepoch hnonEpoch hnz

lemma stamped_number :
    Stamped (step P config) (fun s => (s.number.toNat : ℤ)) (fun b => b.header.number) l :=
  fun _ b hb _ h => by
    have hv := step_verified hsize hepoch hnonEpoch (hnz b hb) h
    exact ⟨(sealed_of_verifyHeader hv).1, (step_spec hsize h).1.number⟩

lemma stamped_time (htime : config.verifyHeaderTimestamp) :
    Stamped (step P config) (fun s => s.timestamp.toNat) (fun b => b.header.time.toNat) l :=
  fun _ b hb _ h => by
    have hv := step_verified hsize hepoch hnonEpoch (hnz b hb) h
    obtain ⟨-, htimely, -⟩ := verifyHeader_eq_ok.mp hv
    have hlt := UInt64.lt_iff_toNat_lt.mp (htimely htime).1
    have heq := (step_spec hsize h).1.timestamp
    exact ⟨hlt, congrArg UInt64.toNat heq⟩

lemma run_sealed (hrun : run (step P config) s l = some s') {l₁ l₂ : List Submission}
    (hl : l = l₁ ++ b :: l₂) :
    SealedByQuorum P (validatorsAfter P config s.validators (l₁.map Submission.header))
      b.header := by
  subst hl
  obtain ⟨t, t', hl₁, hb, -⟩ := run_split hrun
  have hv := step_verified hsize hepoch hnonEpoch (hnz b (by simp)) hb
  rw [← run_validators hsize hl₁]
  exact sealedByQuorum_of_sealed (sealed_of_verifyHeader hv).2

end Verified

lemma run_records (hsize : 0 < config.epochSize) (hrun : run (step P config) s l = some s')
    (hlast : l.getLast? = some b) : Records P s' b.header := by
  obtain ⟨l₁, rfl⟩ := List.getLast?_eq_some_iff.mp hlast
  obtain ⟨t, t', -, hb, hnil⟩ := run_split hrun
  cases hnil
  exact (step_spec hsize hb).1

/-- **The chain of trust.** The headers of a run rise in number and in time, each is sealed by a
quorum of the validators that the epochs before it lead to, and the snapshot at the end is that
of the last. -/
theorem chain_of_trust (hsize : 1 ≤ config.epochSize) (hepoch : config.verifyEpochHeaders)
    (hnonEpoch : config.verifyNonEpochHeaders) (htime : config.verifyHeaderTimestamp)
    (hnz : ∀ b ∈ l, b.header.number ≠ 0) (hrun : run (step P config) s l = some s') :
    ((s.number.toNat : ℤ) :: l.map fun b => b.header.number).Pairwise (· < ·) ∧
      (s.timestamp.toNat :: l.map fun b => b.header.time.toNat).Pairwise (· < ·) ∧
      (l.map Submission.header).Nodup ∧
      (∀ l₁ b l₂, l = l₁ ++ b :: l₂ →
        SealedByQuorum P (validatorsAfter P config s.validators (l₁.map Submission.header))
          b.header) ∧
      ∀ b, l.getLast? = some b → Records P s' b.header := by
  have hpos := epochSize_pos hsize
  have hnumbers := run_stamps_pairwise (stamped_number hpos hepoch hnonEpoch hnz) hrun
  have htimes := run_stamps_pairwise (stamped_time hpos hepoch hnonEpoch hnz htime) hrun
  -- headers whose numbers differ are different headers
  have hnodup : (l.map Submission.header).Nodup := by
    have hrise := (List.pairwise_cons.mp hnumbers).2
    rw [List.pairwise_map] at hrise
    refine List.pairwise_map.mpr (hrise.imp ?_)
    intro a b hlt heq
    rw [heq] at hlt
    exact hlt.false
  have hsealed : ∀ l₁ b l₂, l = l₁ ++ b :: l₂ →
      SealedByQuorum P (validatorsAfter P config s.validators (l₁.map Submission.header))
        b.header :=
    fun _ _ _ hl => run_sealed hpos hepoch hnonEpoch hnz hrun hl
  have hrecords : ∀ b, l.getLast? = some b → Records P s' b.header :=
    fun _ hb => run_records hpos hrun hb
  exact ⟨hnumbers, htimes, hnodup, hsealed, hrecords⟩

/-- A block within the epoch of `Reference.start`. -/
def innerBlock : Submission := ⟨Reference.nextHeader 8 101 (Reference.diff 0 []), 100⟩

/-- The last block of that epoch, where validator 4 takes the place of validator 1. -/
def lastBlock : Submission :=
  ⟨Reference.nextHeader 10 102 (Reference.diff 1 [Reference.validator 4]), 100⟩

/-- The first block of the next epoch. -/
def firstBlock : Submission :=
  ⟨Reference.sealedHeader [Reference.validator 2, Reference.validator 3, Reference.validator 4]
    11 103 (zeroBytes _) (Reference.diff 0 []), 100⟩

def threeBlocks : List Submission := [innerBlock, lastBlock, firstBlock]

set_option maxRecDepth 10000 in
lemma threeBlocks_accepted :
    ∃ s', run (step Reference.platform Reference.config) Reference.start threeBlocks = some s' :=
  Option.isSome_iff_exists.mp (by decide +kernel)

theorem chain_of_trust_three :
    ∃ s', run (step Reference.platform Reference.config) Reference.start threeBlocks = some s' ∧
      (threeBlocks.map Submission.header).Nodup ∧
      ∀ b, threeBlocks.getLast? = some b → Records Reference.platform s' b.header :=
  have ⟨s', hrun⟩ := threeBlocks_accepted
  have h := chain_of_trust (by decide) rfl rfl rfl (by decide +kernel) hrun
  ⟨s', hrun, h.2.2.1, h.2.2.2.2⟩

end CeloLightClient.Chain

import CeloLightClient.Istanbul
import Mathlib.Algebra.Order.Floor.Div

/-!
The epochs partition the block numbers.

The epoch of a block is its number divided by the size of an epoch, rounded up. Epoch 0 is block 0
alone, and each later epoch begins where the one before it ends.
-/

namespace CeloLightClient

open Lib Lib.Outcome

/-! ### Epochs of natural numbers -/

/-- Block `n` comes after the last block of the epoch before `e`, and not after that of `e`. -/
def InEpoch (s e n : ℕ) : Prop := (e - 1) * s < n ∧ n ≤ e * s

/-- **A block past the genesis block is in one epoch.** -/
theorem inEpoch_iff {s e n : ℕ} (hs : 0 < s) (hn : 0 < n) : InEpoch s e n ↔ e = n ⌈/⌉ s := by
  have hle : ∀ c, n ⌈/⌉ s ≤ c ↔ n ≤ c * s := fun c => by
    rw [ceilDiv_le_iff_le_smul hs, smul_eq_mul, Nat.mul_comm]
  have hpos : 0 < n ⌈/⌉ s := by
    rw [← not_le, hle, Nat.zero_mul]
    omega
  unfold InEpoch
  rw [← not_le, ← hle, ← hle]
  omega

lemma ceilDiv_of_epochEnd {s n : ℕ} (hs : 0 < s) (h : EpochEnd s n) : n ⌈/⌉ s = n / s := by
  obtain ⟨e, rfl⟩ := Nat.dvd_of_mod_eq_zero h
  rw [Nat.mul_div_cancel_left e hs, ← smul_eq_mul, smul_ceilDiv hs]

lemma ceilDiv_of_not_epochEnd {s n : ℕ} (hs : 0 < s) (h : ¬ EpochEnd s n) :
    n ⌈/⌉ s = n / s + 1 := by
  have hn : 0 < n := Nat.pos_of_ne_zero fun h0 => h (by rw [h0]; exact Nat.zero_mod s)
  have hdiv := Nat.div_add_mod' n s
  have hmod := Nat.mod_lt n hs
  have hpos : 0 < n % s := Nat.pos_of_ne_zero h
  refine ((inEpoch_iff hs hn).mp ⟨?_, ?_⟩).symm
  · rw [Nat.add_sub_cancel]
    omega
  · rw [Nat.succ_mul]
    omega

/-! ### Epochs of 64-bit words -/

section

variable {ε : Type} {epochSize number epochNumber first last : UInt64}

lemma getEpochNumber_eq (number : UInt64) (hsize : 0 < epochSize) :
    ∃ e, (getEpochNumber number epochSize : Outcome ε UInt64) = .ok e ∧
      e.toNat = number.toNat ⌈/⌉ epochSize.toNat := by
  have hpos : 0 < epochSize.toNat := UInt64.lt_iff_toNat_lt.mp hsize
  have hdiv : (number / epochSize).toNat = number.toNat / epochSize.toNat := UInt64.toNat_div ..
  simp only [getEpochNumber, div_of_pos hsize, isLastBlockOfEpoch_eq hsize, ok_bind, pure_eq_ok,
    decide_eq_true_eq]
  by_cases hend : EpochEnd epochSize.toNat number.toNat
  · rw [if_pos hend, ceilDiv_of_epochEnd hpos hend]
    exact ⟨_, rfl, hdiv⟩
  · -- the size is not 1 here, so there is room for one more
    have hroom : number.toNat / epochSize.toNat + 1 < 2 ^ 64 := by
      have hlt := number.toNat_lt
      have hne : epochSize.toNat ≠ 1 := fun h1 => hend (by rw [h1]; exact Nat.mod_one _)
      have hhalf : number.toNat / epochSize.toNat ≤ number.toNat / 2 :=
        Nat.div_le_div_left (by omega) (by omega)
      omega
    rw [← hdiv] at hroom
    rw [if_neg hend, ceilDiv_of_not_epochEnd hpos hend, ← hdiv, add_of_lt hroom]
    refine ⟨_, rfl, ?_⟩
    rw [UInt64.toNat_add]
    exact Nat.mod_eq_of_lt hroom

lemma exists_toNat {n : ℕ} (h : n < 2 ^ 64) : ∃ u : UInt64, u.toNat = n :=
  ⟨.ofNat n, UInt64.toNat_ofNat_of_lt' h⟩

lemma getEpochFirstBlockNumber_eq_some :
    (getEpochFirstBlockNumber epochNumber epochSize : Outcome ε _) = .ok (some first) ↔
      epochNumber ≠ 0 ∧ first.toNat = (epochNumber.toNat - 1) * epochSize.toNat + 1 := by
  unfold getEpochFirstBlockNumber
  split
  · next hz => simp [hz]
  · next hz =>
    have hpos : 1 ≤ epochNumber.toNat := Nat.pos_of_ne_zero fun h => hz (UInt64.toNat_inj.mp h)
    simp only [bind_eq_ok, sub_eq_ok, mul_eq_ok, add_eq_ok, pure_eq_ok, Except.ok.injEq,
      Option.some.injEq, UInt64.toNat_one]
    constructor
    · rintro ⟨a, ⟨-, ha⟩, b, hb, c, hc, rfl⟩
      exact ⟨hz, by rw [hc, hb, ha]⟩
    · rintro ⟨-, h⟩
      have hlt := first.toNat_lt
      have hlt' := epochNumber.toNat_lt
      obtain ⟨a, ha⟩ := exists_toNat (n := epochNumber.toNat - 1) (by omega)
      obtain ⟨b, hb⟩ := exists_toNat (n := a.toNat * epochSize.toNat) (by rw [ha]; omega)
      exact ⟨a, ⟨hpos, ha⟩, b, hb, first, by rw [h, hb, ha], rfl⟩

lemma getEpochLastBlockNumber_eq_ok :
    (getEpochLastBlockNumber epochNumber epochSize : Outcome ε _) = .ok last ↔
      last.toNat = epochNumber.toNat * epochSize.toNat := by
  unfold getEpochLastBlockNumber
  split
  · next hz =>
    subst hz
    rw [pure_eq_ok, Except.ok.injEq, ← UInt64.toNat_inj]
    simp [eq_comm]
  · exact mul_eq_ok

lemma getNumberWithinEpoch_eq (hsize : 0 < epochSize) (hn : 0 < number.toNat) :
    ∃ w, (getNumberWithinEpoch number epochSize : Outcome ε UInt64) = .ok w ∧
      w.toNat = number.toNat - (number.toNat ⌈/⌉ epochSize.toNat - 1) * epochSize.toNat := by
  have hpos : 0 < epochSize.toNat := UInt64.lt_iff_toNat_lt.mp hsize
  have hmod : (number % epochSize).toNat = number.toNat % epochSize.toNat := UInt64.toNat_mod ..
  have hdiv := Nat.div_add_mod' number.toNat epochSize.toNat
  rw [getNumberWithinEpoch, rem_of_pos hsize, ok_bind]
  by_cases hz : number % epochSize = 0
  · have hend : EpochEnd epochSize.toNat number.toNat := by
      rw [EpochEnd, ← hmod, hz, UInt64.toNat_zero]
    rw [if_pos hz, ceilDiv_of_epochEnd hpos hend]
    refine ⟨_, rfl, ?_⟩
    -- the block is the last of its epoch, which is not epoch 0
    rw [hend] at hdiv
    rcases hq : number.toNat / epochSize.toNat with _ | q
    · rw [hq] at hdiv
      omega
    · rw [hq, Nat.succ_mul] at hdiv
      rw [Nat.add_sub_cancel]
      omega
  · have hinner : ¬ EpochEnd epochSize.toNat number.toNat := fun hend =>
      hz (UInt64.toNat_inj.mp (by rw [hmod, hend, UInt64.toNat_zero]))
    rw [if_neg hz, ceilDiv_of_not_epochEnd hpos hinner, Nat.add_sub_cancel]
    refine ⟨_, rfl, ?_⟩
    rw [hmod]
    omega

variable (ε) in
/-- The blocks of the epoch are those from `first` to `last`. -/
def Spans (epochSize epochNumber first last : UInt64) : Prop :=
  getEpochFirstBlockNumber epochNumber epochSize = (.ok (some first) : Outcome ε _) ∧
    getEpochLastBlockNumber epochNumber epochSize = (.ok last : Outcome ε _)

lemma spans_iff : Spans ε epochSize epochNumber first last ↔
    (epochNumber ≠ 0 ∧ first.toNat = (epochNumber.toNat - 1) * epochSize.toNat + 1) ∧
      last.toNat = epochNumber.toNat * epochSize.toNat := by
  rw [Spans, getEpochFirstBlockNumber_eq_some, getEpochLastBlockNumber_eq_ok]

lemma Spans.inEpoch (h : Spans ε epochSize epochNumber first last) (hf : first ≤ number)
    (hl : number ≤ last) : InEpoch epochSize.toNat epochNumber.toNat number.toNat := by
  obtain ⟨⟨-, hfirst⟩, hlast⟩ := spans_iff.mp h
  rw [UInt64.le_iff_toNat_le] at hf hl
  exact ⟨by omega, by omega⟩

variable (ε) in
/-- What the program says of block `number` and its epoch. -/
structure Placed (epochSize number epochNumber first last : UInt64) : Prop where
  spans : Spans ε epochSize epochNumber first last
  first_le : first ≤ number
  le_last : number ≤ last
  unique : ∀ e f l, Spans ε epochSize e f l → f ≤ number → number ≤ l → e = epochNumber
  within : ∃ w, getNumberWithinEpoch number epochSize = (.ok w : Outcome ε _) ∧
    w.toNat = number.toNat - first.toNat + 1
  is_last : isLastBlockOfEpoch number epochSize = (.ok (decide (number = last)) : Outcome ε _)
  next : last.toNat + 1 < 2 ^ 64 → ∃ e f, add epochNumber 1 = (.ok e : Outcome ε _) ∧
    getEpochFirstBlockNumber e epochSize = (.ok (some f) : Outcome ε _) ∧
    f.toNat = last.toNat + 1

lemma isLastBlockOfEpoch_eq_last (hsize : 0 < epochSize)
    (he : epochNumber.toNat = number.toNat ⌈/⌉ epochSize.toNat)
    (hlast : last.toNat = epochNumber.toNat * epochSize.toNat) :
    isLastBlockOfEpoch number epochSize = (.ok (decide (number = last)) : Outcome ε _) := by
  have hpos : 0 < epochSize.toNat := UInt64.lt_iff_toNat_lt.mp hsize
  have hiff : EpochEnd epochSize.toNat number.toNat ↔ number = last := by
    rw [← UInt64.toNat_inj, hlast]
    constructor
    · intro hend
      rw [he, ceilDiv_of_epochEnd hpos hend]
      exact (Nat.div_mul_cancel (Nat.dvd_of_mod_eq_zero hend)).symm
    · intro heq
      rw [EpochEnd, heq, Nat.mul_mod_left]
  rw [isLastBlockOfEpoch_eq hsize, decide_eq_decide.mpr hiff]

lemma exists_next (hsize : 0 < epochSize)
    (hlast : last.toNat = epochNumber.toNat * epochSize.toNat) (hroom : last.toNat + 1 < 2 ^ 64) :
    ∃ e f, add epochNumber 1 = (.ok e : Outcome ε _) ∧
      getEpochFirstBlockNumber e epochSize = (.ok (some f) : Outcome ε _) ∧
      f.toNat = last.toNat + 1 := by
  have hle : epochNumber.toNat ≤ last.toNat := by
    rw [hlast]
    exact Nat.le_mul_of_pos_right _ (UInt64.lt_iff_toNat_lt.mp hsize)
  obtain ⟨e, hnext⟩ := exists_toNat (n := epochNumber.toNat + 1) (by omega)
  obtain ⟨f, hf⟩ := exists_toNat hroom
  refine ⟨e, f, add_eq_ok.mpr hnext, getEpochFirstBlockNumber_eq_some.mpr ⟨?_, ?_⟩, hf⟩
  · rintro rfl
    simp at hnext
  · rw [hf, hnext, hlast, Nat.add_sub_cancel]

lemma exists_placed (hsize : 0 < epochSize) (hn : 0 < number.toNat)
    (he : epochNumber.toNat = number.toNat ⌈/⌉ epochSize.toNat)
    (hfits : epochNumber.toNat * epochSize.toNat < 2 ^ 64) :
    ∃ first last, Placed ε epochSize number epochNumber first last := by
  have hpos : 0 < epochSize.toNat := UInt64.lt_iff_toNat_lt.mp hsize
  obtain ⟨hafter, hupto⟩ := (inEpoch_iff hpos hn).mpr he
  obtain ⟨last, hlast⟩ := exists_toNat hfits
  obtain ⟨first, hfirst⟩ :=
    exists_toNat (n := (epochNumber.toNat - 1) * epochSize.toNat + 1) (by omega)
  have hne : epochNumber ≠ 0 := by
    rintro rfl
    simp at hupto
    omega
  have hspans : Spans ε epochSize epochNumber first last := spans_iff.mpr ⟨⟨hne, hfirst⟩, hlast⟩
  refine ⟨first, last, {
    spans := hspans
    first_le := by rw [UInt64.le_iff_toNat_le]; omega
    le_last := by rw [UInt64.le_iff_toNat_le]; omega
    unique := fun e f l h hf hl => ?_
    within := ?_
    is_last := isLastBlockOfEpoch_eq_last hsize he hlast
    next := exists_next hsize hlast }⟩
  · have hin := (inEpoch_iff hpos hn).mp (h.inEpoch hf hl)
    exact UInt64.toNat_inj.mp (hin.trans he.symm)
  · obtain ⟨w, hw, heq⟩ := getNumberWithinEpoch_eq hsize hn
    refine ⟨w, hw, ?_⟩
    rw [heq, ← he]
    omega

/-- **The epochs partition the block numbers.** A block past the genesis block is placed in its
epoch, if the number of the epoch's last block is a `u64`; the genesis block is epoch 0. -/
theorem epochs_partition (hsize : 1 ≤ epochSize) :
    (∀ number : UInt64, 1 ≤ number → ∃ e, getEpochNumber number epochSize = (.ok e : Outcome ε _) ∧
        (e.toNat * epochSize.toNat < 2 ^ 64 →
          ∃ first last, Placed ε epochSize number e first last)) ∧
      getEpochNumber 0 epochSize = (.ok 0 : Outcome ε _) ∧
      getEpochFirstBlockNumber 0 epochSize = (.ok none : Outcome ε _) ∧
      getEpochLastBlockNumber 0 epochSize = (.ok 0 : Outcome ε _) ∧
      isLastBlockOfEpoch 0 epochSize = (.ok true : Outcome ε _) ∧
      (∀ number, getEpochNumber number epochSize = (.ok 0 : Outcome ε _) ↔ number = 0) ∧
      ∀ e f l, Spans ε epochSize e f l → 0 < f := by
  have hpos := epochSize_pos hsize
  have hs : 0 < epochSize.toNat := UInt64.lt_iff_toNat_lt.mp hpos
  refine ⟨fun number hn => ?_, ?_, rfl, rfl, ?_, fun number => ?_, fun e f l h => ?_⟩
  · have hn' : 0 < number.toNat := UInt64.le_iff_toNat_le.mp hn
    obtain ⟨e, he, heq⟩ := getEpochNumber_eq number hpos
    exact ⟨e, he, fun hfits => exists_placed hpos hn' heq hfits⟩
  · obtain ⟨e, he, heq⟩ := getEpochNumber_eq (ε := ε) 0 hpos
    rw [UInt64.toNat_zero, zero_ceilDiv] at heq
    rwa [UInt64.toNat_inj.mp (heq.trans UInt64.toNat_zero.symm)] at he
  · rw [isLastBlockOfEpoch_eq hpos]
    simp [EpochEnd]
  · obtain ⟨e, he, heq⟩ := getEpochNumber_eq (ε := ε) number hpos
    rw [he, Except.ok.injEq, ← UInt64.toNat_inj, ← UInt64.toNat_inj, heq, UInt64.toNat_zero,
      ← Nat.le_zero, ceilDiv_le_iff_le_smul hs, smul_zero, Nat.le_zero]
  · obtain ⟨⟨-, hf⟩, -⟩ := spans_iff.mp h
    rw [UInt64.lt_iff_toNat_lt, hf]
    exact Nat.succ_pos _

/-- Blocks 1 to 10 are epoch 1 of ten blocks. -/
theorem epochs_partition_ten :
    ∃ e, getEpochNumber 7 10 = (.ok e : Outcome Error _) ∧
      (e.toNat * (10 : UInt64).toNat < 2 ^ 64 → ∃ first last, Placed Error 10 7 e first last) :=
  (epochs_partition (by decide)).1 7 (by decide)

end

end CeloLightClient

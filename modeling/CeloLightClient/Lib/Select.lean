import Mathlib.Algebra.BigOperators.Group.Finset.Basic
import Mathlib.Algebra.BigOperators.Ring.Finset
import Mathlib.Data.Int.Bitwise
import Mathlib.Data.Nat.Size
import Mathlib.Tactic

/-!
Selecting the elements of a list by their positions.

A bitmap is a set of positions, and the elements it selects keep their order. How many there
are is a count of positions, which is what a quorum is about; and taking away a bitmap whose
bits all lie within the list takes away at least one element unless the bitmap is empty.
-/

namespace CeloLightClient.Lib

variable {α : Type*}

/-- `.iter().enumerate().filter(|(i, _)| p(i)).map(|(_, a)| a)`. -/
def selectAt (p : ℕ → Bool) (l : List α) : List α := (l.zipIdx.filter fun x => p x.2).map Prod.fst

/-- The positions below `n` that `p` selects. -/
def positionsAt (p : ℕ → Bool) (n : ℕ) : Finset ℕ := {i ∈ Finset.range n | p i}

lemma length_filter_zipIdx (l : List α) (p : ℕ → Bool) (k : ℕ) :
    ((l.zipIdx k).filter fun x => p x.2).length =
      (positionsAt (fun i => p (k + i)) l.length).card := by
  unfold positionsAt
  induction l generalizing k with
  | nil => simp
  | cons a l ih =>
    have hshift : ((Finset.range (l.length + 1)).filter fun i => p (k + i)).card =
        (if p k then 1 else 0) + ((Finset.range l.length).filter fun i => p (k + 1 + i)).card := by
      simp only [Finset.card_filter, Finset.sum_range_succ', Nat.add_zero]
      rw [Nat.add_comm]
      congr 1
      exact Finset.sum_congr rfl fun i _ => by rw [Nat.add_right_comm, Nat.add_assoc]
    rw [List.zipIdx_cons, List.filter_cons, List.length_cons, hshift, ← ih (k + 1)]
    by_cases hp : p k <;> simp [hp, Nat.add_comm]

lemma length_selectAt (p : ℕ → Bool) (l : List α) :
    (selectAt p l).length = (positionsAt p l.length).card := by
  have h := length_filter_zipIdx l p 0
  simpa [selectAt] using h

lemma selectAt_sublist (p : ℕ → Bool) (l : List α) : (selectAt p l).Sublist l := by
  have h := (List.filter_sublist (l := l.zipIdx) (p := fun x => p x.2)).map Prod.fst
  simpa [selectAt] using h

lemma selectAt_of_forall {p : ℕ → Bool} {l : List α} (h : ∀ i < l.length, p i) :
    selectAt p l = l := by
  refine (selectAt_sublist p l).eq_of_length ?_
  rw [length_selectAt, positionsAt, Finset.filter_true_of_mem, Finset.card_range]
  simpa using h

lemma length_selectAt_lt {p : ℕ → Bool} {l : List α} {i : ℕ} (hi : i < l.length)
    (hp : p i = false) : (selectAt p l).length < l.length := by
  rw [length_selectAt]
  calc (positionsAt p l.length).card < (Finset.range l.length).card :=
        Finset.card_lt_card (Finset.filter_ssubset.mpr ⟨i, by simpa using hi, by simp [hp]⟩)
    _ = l.length := Finset.card_range _

lemma selectAt_eq_nil {p : ℕ → Bool} {l : List α} :
    selectAt p l = [] ↔ ∀ i < l.length, p i = false := by
  rw [← List.length_eq_zero_iff, length_selectAt, Finset.card_eq_zero, positionsAt,
    Finset.filter_eq_empty_iff]
  simp

lemma selectAt_congr {p q : ℕ → Bool} {l : List α} (h : ∀ i < l.length, p i = q i) :
    selectAt p l = selectAt q l := by
  unfold selectAt
  refine congrArg (List.map Prod.fst) (List.filter_congr fun x hx => ?_)
  obtain ⟨-, hlt, -⟩ := List.mem_zipIdx hx
  exact h x.2 (by omega)

lemma card_positionsAt_add_le (p q : ℕ → Bool) (n : ℕ) :
    (positionsAt p n).card + (positionsAt q n).card ≤
      (positionsAt (fun i => p i && q i) n).card + n := by
  have hinter : positionsAt p n ∩ positionsAt q n = positionsAt (fun i => p i && q i) n := by
    simp only [positionsAt, ← Finset.filter_and, Bool.and_eq_true]
  have hunion : (positionsAt p n ∪ positionsAt q n).card ≤ n := by
    rw [positionsAt, positionsAt, ← Finset.filter_or]
    exact (Finset.card_filter_le _ _).trans_eq (Finset.card_range n)
  have hcard := Finset.card_union_add_card_inter (positionsAt p n) (positionsAt q n)
  rw [hinter] at hcard
  omega

lemma mem_selectAt {p : ℕ → Bool} {l : List α} {i : ℕ} {a : α} (ha : l[i]? = some a)
    (hp : p i) : a ∈ selectAt p l := by
  have hmem : (a, i) ∈ l.zipIdx := List.mk_mem_zipIdx_iff_getElem?.mpr ha
  exact List.mem_map.mpr ⟨(a, i), List.mem_filter.mpr ⟨hmem, hp⟩, rfl⟩

/-- **Quorums.** Two sets of positions that are too large to have nothing in common but positions
of `faulty` have another one in common. -/
lemma exists_common {p q : ℕ → Bool} {n : ℕ} {faulty : Finset ℕ}
    (h : n + faulty.card < (positionsAt p n).card + (positionsAt q n).card) :
    ∃ i < n, p i ∧ q i ∧ i ∉ faulty := by
  have hcommon := card_positionsAt_add_le p q n
  have hlt : faulty.card < (positionsAt (fun i => p i && q i) n).card := by omega
  obtain ⟨i, hi, hnot⟩ := Finset.exists_mem_notMem_of_card_lt_card hlt
  rw [positionsAt, Finset.mem_filter, Finset.mem_range, Bool.and_eq_true] at hi
  exact ⟨i, hi.1, hi.2.1, hi.2.2, hnot⟩

/-! ### Bitmaps -/

@[simp] lemma testBit_zero (i : ℕ) : (0 : ℤ).testBit i = false := by
  have h : (0 : ℤ).testBit i = Nat.testBit 0 i := rfl
  simp [h]

lemma testBit_top {n : ℤ} (h : 0 < n) : n.testBit (n.natAbs.size - 1) = true := by
  obtain ⟨m, rfl⟩ := Int.eq_ofNat_of_zero_le h.le
  have hm : 0 < m := by omega
  have hsize : 0 < m.size := Nat.size_pos.mpr hm
  change m.testBit (m.size - 1) = true
  refine Nat.testBit_of_two_pow_le_and_two_pow_add_one_gt ?_ ?_
  · exact Nat.lt_size.mp (by omega)
  · have : m.size - 1 + 1 = m.size := by omega
    rw [this]
    exact Nat.lt_size_self m

lemma testBit_allOnes {n i : ℕ} (h : i < n) : (2 ^ n - 1 : ℤ).testBit i = true := by
  have hcast : (2 ^ n - 1 : ℤ) = ((2 ^ n - 1 : ℕ) : ℤ) := by
    rw [Nat.cast_sub Nat.one_le_two_pow]; simp
  rw [hcast]
  change (2 ^ n - 1 : ℕ).testBit i = true
  simp [Nat.testBit_two_pow_sub_one, h]

/-- The bitmap of the positions of the elements for which `q` is true. -/
def bitmapAt (q : α → Bool) : List α → ℕ
  | [] => 0
  | a :: l => Nat.bit (q a) (bitmapAt q l)

lemma testBit_bitmapAt (q : α → Bool) (l : List α) {i : ℕ} (h : i < l.length) :
    (bitmapAt q l).testBit i = q l[i] := by
  induction l generalizing i with
  | nil => simp at h
  | cons a l ih =>
    cases i with
    | zero => exact Nat.testBit_bit_zero _ _
    | succ i => rw [bitmapAt, Nat.testBit_bit_succ, ih (by simpa using h), List.getElem_cons_succ]

lemma bitmapAt_lt (q : α → Bool) (l : List α) : bitmapAt q l < 2 ^ l.length := by
  induction l with
  | nil => simp [bitmapAt]
  | cons a l ih =>
    rw [bitmapAt, Nat.bit_val, List.length_cons, Nat.pow_succ]
    cases q a <;> simp <;> omega

lemma selectAt_eq_filter {p : ℕ → Bool} {q : α → Bool} {l : List α}
    (h : ∀ (i : ℕ) (hi : i < l.length), p i = q l[i]) : selectAt p l = l.filter q := by
  have hshift : ∀ (l : List α) (k : ℕ), (∀ (i : ℕ) (hi : i < l.length), p (k + i) = q l[i]) →
      ((l.zipIdx k).filter fun x => p x.2).map Prod.fst = l.filter q := by
    intro l
    induction l with
    | nil => simp
    | cons a l ih =>
      intro k hk
      have ha : p k = q a := hk 0 (by simp)
      have hl := ih (k + 1) fun i hi => by
        rw [Nat.add_assoc, Nat.add_comm 1 i]
        exact hk (i + 1) (by simpa using hi)
      rw [List.zipIdx_cons, List.filter_cons, List.filter_cons, ha]
      cases q a <;> simp [hl]
  exact hshift l 0 (by simpa using h)

lemma size_le_iff_testBit {n k : ℕ} : n.size ≤ k ↔ ∀ i, k ≤ i → n.testBit i = false := by
  rw [Nat.size_le]
  exact ⟨fun h i hi => Nat.testBit_lt_two_pow (h.trans_le (Nat.pow_le_pow_right (by omega) hi)),
    fun h => Nat.lt_pow_two_of_testBit n h⟩

end CeloLightClient.Lib

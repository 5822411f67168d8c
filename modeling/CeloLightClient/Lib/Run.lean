import Mathlib.Data.List.Pairwise
import Mathlib.Data.List.Basic
import Mathlib.Order.Basic

/-!
Runs of a partial step function over a list of inputs.

A run exists when every step is taken. Three arguments recur for such systems and are made
here once: an invariant carried along a run, inputs that are stamped with ever larger values,
and a run that loses the inputs another system does not see.
-/

namespace CeloLightClient.Lib

variable {σ τ ι κ : Type*}

/-- Take the steps of the inputs in order; `none` when one of them is refused. -/
def run (step : σ → ι → Option σ) (s : σ) (l : List ι) : Option σ := l.foldlM step s

variable {step : σ → ι → Option σ}

@[simp] lemma run_nil (s : σ) : run step s [] = some s := rfl

lemma run_cons (s : σ) (i : ι) (l : List ι) :
    run step s (i :: l) = (step s i).bind fun t => run step t l := rfl

lemma run_cons_eq_some {s u : σ} {i : ι} {l : List ι} :
    run step s (i :: l) = some u ↔ ∃ t, step s i = some t ∧ run step t l = some u := by
  rw [run_cons, Option.bind_eq_some_iff]

lemma run_append (s : σ) (l m : List ι) :
    run step s (l ++ m) = (run step s l).bind fun t => run step t m := by
  simp [run, List.foldlM_append]

lemma run_append_eq_some {s u : σ} {l m : List ι} :
    run step s (l ++ m) = some u ↔ ∃ t, run step s l = some t ∧ run step t m = some u := by
  rw [run_append, Option.bind_eq_some_iff]

lemma run_split {s u : σ} {l m : List ι} {i : ι} (h : run step s (l ++ i :: m) = some u) :
    ∃ t t', run step s l = some t ∧ step t i = some t' ∧ run step t' m = some u := by
  obtain ⟨t, hl, h⟩ := run_append_eq_some.mp h
  obtain ⟨t', hi, hm⟩ := run_cons_eq_some.mp h
  exact ⟨t, t', hl, hi, hm⟩

/-- **Invariants.** What the steps of a run preserve holds at its end. Each step may use that the
inputs before it lead to where it is taken from. -/
theorem run_invariant {I : σ → Prop} {s u : σ} {l : List ι} (hs : I s)
    (hrun : run step s l = some u)
    (hstep : ∀ l₁ i l₂ t t', l = l₁ ++ i :: l₂ → run step s l₁ = some t → I t →
      step t i = some t' → I t') : I u := by
  induction l generalizing s with
  | nil => cases hrun; exact hs
  | cons i l ih =>
    obtain ⟨t, hi, hl⟩ := run_cons_eq_some.mp hrun
    have ht := hstep [] i l s t rfl rfl hs hi
    refine ih ht hl fun l₁ j l₂ v v' hsplit hl₁ => ?_
    exact hstep (i :: l₁) j l₂ v v' (by rw [hsplit, List.cons_append])
      (run_cons_eq_some.mpr ⟨t, hi, hl₁⟩)

/-! ### Stamps -/

section Stamps

variable [Preorder κ] {mark : σ → κ} {stamp : ι → κ}

/-- The step of each input is taken from a smaller mark, and leaves the input's stamp as the
mark. -/
def Stamped (step : σ → ι → Option σ) (mark : σ → κ) (stamp : ι → κ) (l : List ι) : Prop :=
  ∀ s, ∀ i ∈ l, ∀ t, step s i = some t → mark s < stamp i ∧ mark t = stamp i

lemma Stamped.tail {i : ι} {l : List ι} (h : Stamped step mark stamp (i :: l)) :
    Stamped step mark stamp l := fun s j hj => h s j (by simp [hj])

lemma Stamped.sub {l m : List ι} (h : Stamped step mark stamp m) (hlm : l ⊆ m) :
    Stamped step mark stamp l := fun s i hi => h s i (hlm hi)

/-- **The stamps of a run increase strictly**, from above the mark it starts at. -/
theorem run_stamps_pairwise {l : List ι} (hst : Stamped step mark stamp l) {s u : σ}
    (hrun : run step s l = some u) : (mark s :: l.map stamp).Pairwise (· < ·) := by
  induction l generalizing s with
  | nil => simp
  | cons i l ih =>
    obtain ⟨t, hi, hl⟩ := run_cons_eq_some.mp hrun
    obtain ⟨hlt, heq⟩ := hst s i (by simp) t hi
    have hrest := ih hst.tail hl
    rw [heq] at hrest
    refine List.pairwise_cons.mpr ⟨fun k hk => ?_, hrest⟩
    rcases List.mem_cons.mp hk with rfl | hk
    · exact hlt
    · exact hlt.trans ((List.pairwise_cons.mp hrest).1 k hk)

lemma run_mark_last {l : List ι} (hst : Stamped step mark stamp l) {s u : σ}
    (hrun : run step s l = some u) {i : ι} (hi : l.getLast? = some i) : mark u = stamp i := by
  obtain ⟨m, rfl⟩ := List.getLast?_eq_some_iff.mp hi
  obtain ⟨t, t', -, hstep, hnil⟩ := run_split hrun
  cases hnil
  exact (hst t i (by simp) _ hstep).2

lemma run_stamp_le {l : List ι} (hst : Stamped step mark stamp l) {s u : σ}
    (hrun : run step s l = some u) {i : ι} (hi : i ∈ l) : stamp i ≤ mark u := by
  obtain ⟨m, n, rfl⟩ := List.append_of_mem hi
  obtain ⟨t, t', -, hstep, hn⟩ := run_split hrun
  have hrest : Stamped step mark stamp n := hst.sub fun j hj => by simp [hj]
  have hmark := (hst t i (by simp) t' hstep).2
  rcases hlast : n.getLast? with _ | j
  · cases List.getLast?_eq_none_iff.mp hlast
    cases hn
    exact hmark.ge
  · have hj := List.mem_of_getLast? hlast
    rw [run_mark_last hrest hn hlast, ← hmark]
    exact ((List.pairwise_cons.mp (run_stamps_pairwise hrest hn)).1 _
      (List.mem_map_of_mem hj)).le

lemma run_mark_le {l : List ι} (hst : Stamped step mark stamp l) {s u : σ}
    (hrun : run step s l = some u) : mark s ≤ mark u := by
  rcases l with _ | ⟨i, l⟩
  · cases hrun; exact le_rfl
  · exact ((List.pairwise_cons.mp (run_stamps_pairwise hst hrun)).1 _ (by simp)).le.trans
      (run_stamp_le hst hrun (List.mem_cons_self ..))

end Stamps

/-! ### Leaving inputs out -/

/-- **A run without the unseen inputs.** `R` relates a state of the full run to a state of the
reduced one. If a seen input steps from related states to related states, and an unseen one
keeps the full run's state related, then the run of the seen inputs exists and ends related.
Each step may use what is known of its input and of the inputs after it. -/
theorem run_filter (step' : τ → ι → Option τ) (seen : ι → Bool) (R : List ι → σ → τ → Prop)
    (hseen : ∀ i l s t s', R (i :: l) s t → seen i → step s i = some s' →
      ∃ t', step' t i = some t' ∧ R l s' t')
    (hunseen : ∀ i l s t s', R (i :: l) s t → ¬ seen i → step s i = some s' → R l s' t)
    {l : List ι} {s s' : σ} {t : τ} (hst : R l s t) (hrun : run step s l = some s') :
    ∃ t', run step' t (l.filter seen) = some t' ∧ R [] s' t' := by
  induction l generalizing s t with
  | nil => cases hrun; exact ⟨t, rfl, hst⟩
  | cons i l ih =>
    obtain ⟨u, hi, hl⟩ := run_cons_eq_some.mp hrun
    by_cases hs : seen i
    · obtain ⟨v, hv, huv⟩ := hseen i l s t u hst hs hi
      obtain ⟨t', ht', hR⟩ := ih huv hl
      refine ⟨t', ?_, hR⟩
      rw [List.filter_cons_of_pos hs]
      exact run_cons_eq_some.mpr ⟨v, hv, ht'⟩
    · obtain ⟨t', ht', hR⟩ := ih (hunseen i l s t u hst hs hi) hl
      exact ⟨t', by rwa [List.filter_cons_of_neg hs], hR⟩

end CeloLightClient.Lib

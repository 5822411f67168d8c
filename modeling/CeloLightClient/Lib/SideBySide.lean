import Mathlib.Order.Lattice
import CeloLightClient.Lib.Run

/-!
Two runs side by side.

The inputs of both are stamped, and are taken in the order of their stamps: two inputs with one
stamp together, and any other alone, when nothing before it is left of either run.
-/

namespace CeloLightClient.Lib

variable {σ ι κ : Type*} [LinearOrder κ] {step : σ → ι → Option σ} {mark : σ → κ} {stamp : ι → κ}

/-- An input that is taken next, when `m` is left of the other run, which stands at `t`. -/
def Next (mark : σ → κ) (stamp : ι → κ) (i : ι) (m : List ι) (t : σ) : Prop :=
  (∀ j ∈ m, stamp i < stamp j) ∧ (m = [] → stamp i ≤ mark t)

lemma stamp_lt_of_run {l : List ι} {i : ι} (hst : Stamped step mark stamp (i :: l)) {s u : σ}
    (hrun : run step s (i :: l) = some u) : ∀ j ∈ l, stamp i < stamp j := by
  have hpairs := (List.pairwise_cons.mp (run_stamps_pairwise hst hrun)).2
  rw [List.map_cons] at hpairs
  exact fun j hj => (List.pairwise_cons.mp hpairs).1 _ (List.mem_map_of_mem hj)

/-- **Two runs side by side.** `R` relates the states of the two runs, and what is left of them.
If it is kept by the steps of two inputs with one stamp, which are then related by `Q`, and by the
step of an input that is next, then all inputs with one stamp are related; and so are the states
at the end, if their marks are equal. -/
theorem run_side_by_side (R : List ι → List ι → σ → σ → Prop) (Q : ι → ι → Prop)
    (hsymm : ∀ l m s t, R l m s t → R m l t s)
    (hboth : ∀ i l j m s t s' t', R (i :: l) (j :: m) s t → stamp i = stamp j →
      step s i = some s' → step t j = some t' → Q i j ∧ R l m s' t')
    (hone : ∀ i l m s t s', R (i :: l) m s t → Next mark stamp i m t → step s i = some s' →
      R l m s' t)
    {l m : List ι} (hl : Stamped step mark stamp l) (hm : Stamped step mark stamp m)
    {s t s' t' : σ} (hst : R l m s t) (hs : run step s l = some s')
    (ht : run step t m = some t') :
    (∀ i ∈ l, ∀ j ∈ m, stamp i = stamp j → Q i j) ∧ (mark s' = mark t' → R [] [] s' t') := by
  induction l generalizing s t m with
  | nil =>
    induction m generalizing t with
    | nil =>
      cases hs
      cases ht
      exact ⟨by simp, fun _ => hst⟩
    | cons j m ih =>
      refine ⟨by simp, fun heq => ?_⟩
      have hle : stamp j ≤ mark s := by
        have hmark := run_stamp_le hm ht (List.mem_cons_self (a := j))
        cases hs
        rwa [heq]
      obtain ⟨u, hj, hrest⟩ := run_cons_eq_some.mp ht
      have hu := hone j m [] t s u (hsymm _ _ _ _ hst) ⟨by simp, fun _ => hle⟩ hj
      exact (ih hm.tail (hsymm _ _ _ _ hu) hrest).2 heq
  | cons i l ihl =>
    obtain ⟨u, hi, hrest⟩ := run_cons_eq_some.mp hs
    induction m generalizing t with
    | nil =>
      refine ⟨by simp, fun heq => ?_⟩
      have hle : stamp i ≤ mark t := by
        have hmark := run_stamp_le hl hs (List.mem_cons_self (a := i))
        cases ht
        rwa [← heq]
      have hu := hone i l [] s t u hst ⟨by simp, fun _ => hle⟩ hi
      exact (ihl hl.tail hm hu hrest ht).2 heq
    | cons j m ihm =>
      obtain ⟨v, hj, hrest'⟩ := run_cons_eq_some.mp ht
      have habove := stamp_lt_of_run hl hs
      have habove' := stamp_lt_of_run hm ht
      rcases lt_trichotomy (stamp i) (stamp j) with hlt | heq | hgt
      · -- the first run goes ahead
        have hall : ∀ k ∈ j :: m, stamp i < stamp k := by
          intro k hk
          rcases List.mem_cons.mp hk with rfl | hk
          · exact hlt
          · exact hlt.trans (habove' k hk)
        have hu := hone i l (j :: m) s t u hst ⟨hall, by simp⟩ hi
        obtain ⟨hq, hend⟩ := ihl hl.tail hm hu hrest ht
        refine ⟨fun a ha b hb hab => ?_, hend⟩
        rcases List.mem_cons.mp ha with rfl | ha
        · exact absurd hab (hall b hb).ne
        · exact hq a ha b hb hab
      · obtain ⟨hij, hu⟩ := hboth i l j m s t u v hst heq hi hj
        obtain ⟨hq, hend⟩ := ihl hl.tail hm.tail hu hrest hrest'
        refine ⟨fun a ha b hb hab => ?_, hend⟩
        rcases List.mem_cons.mp ha with rfl | ha <;> rcases List.mem_cons.mp hb with rfl | hb
        · exact hij
        · exact absurd (heq.symm.trans hab) (habove' b hb).ne
        · exact absurd (hab.trans heq.symm) (habove a ha).ne'
        · exact hq a ha b hb hab
      · -- the second run goes ahead
        have hall : ∀ k ∈ i :: l, stamp j < stamp k := by
          intro k hk
          rcases List.mem_cons.mp hk with rfl | hk
          · exact hgt
          · exact hgt.trans (habove k hk)
        have hv := hone j m (i :: l) t s v (hsymm _ _ _ _ hst) ⟨hall, by simp⟩ hj
        obtain ⟨hq, hend⟩ := ihm hm.tail (hsymm _ _ _ _ hv) hrest'
        refine ⟨fun a ha b hb hab => ?_, hend⟩
        rcases List.mem_cons.mp hb with rfl | hb
        · exact absurd hab (hall a ha).ne'
        · exact hq a ha b hb hab

end CeloLightClient.Lib

import Mathlib.Data.List.Forall2
import Mathlib.Tactic

/-!
Runs of a transition relation, with the states they pass through.

A trace lists each input with the state after it. What is proved of one step is carried along a
trace in three ways: as an invariant, as a simulation of one relation by another, and back from
the end to the last step that mattered.
-/

namespace CeloLightClient.Lib

variable {σ τ ι : Type*}

/-- From `s` the inputs are taken one after another, each to the state it is listed with. -/
inductive Trace (step : σ → ι → σ → Prop) : σ → List (ι × σ) → Prop
  | nil (s : σ) : Trace step s []
  | cons {s t : σ} {i : ι} {l : List (ι × σ)} :
      step s i t → Trace step t l → Trace step s ((i, t) :: l)

/-- The state that a trace ends in. -/
def final (s : σ) (l : List (ι × σ)) : σ := l.foldl (fun _ x => x.2) s

@[simp] lemma final_nil (s : σ) : final s ([] : List (ι × σ)) = s := rfl

@[simp] lemma final_cons (s : σ) (x : ι × σ) (l : List (ι × σ)) :
    final s (x :: l) = final x.2 l := rfl

@[simp] lemma final_append (s : σ) (l m : List (ι × σ)) :
    final s (l ++ m) = final (final s l) m := List.foldl_append

namespace Trace

variable {step : σ → ι → σ → Prop} {s : σ} {l m : List (ι × σ)}

lemma cons_iff {x : ι × σ} : Trace step s (x :: l) ↔ step s x.1 x.2 ∧ Trace step x.2 l := by
  constructor
  · rintro ⟨⟩
    exact ⟨‹_›, ‹_›⟩
  · rintro ⟨hx, hl⟩
    exact .cons hx hl

lemma append_iff : Trace step s (l ++ m) ↔ Trace step s l ∧ Trace step (final s l) m := by
  induction l generalizing s with
  | nil => exact ⟨fun h => ⟨.nil s, h⟩, fun h => h.2⟩
  | cons x l ih => rw [List.cons_append, cons_iff, cons_iff, ih, final_cons, and_assoc]

/-- **Invariants.** What every step preserves holds at the end of a trace. -/
theorem invariant {I : σ → Prop} (h : Trace step s l) (hs : I s)
    (hstep : ∀ s i t, I s → step s i t → I t) : I (final s l) := by
  induction h with
  | nil s => exact hs
  | cons hi _ ih => exact ih (hstep _ _ _ hs hi)

/-- **Invariants with a history.** What holds of the empty history and the first state, and is
carried on by each step of the trace, holds of every beginning of the trace and the state it ends
in. -/
theorem invariant_history {I : List (ι × σ) → σ → Prop} (h : Trace step s l) (hs : I [] s)
    (hstep : ∀ l₁ x l₂, l = l₁ ++ x :: l₂ → step (final s l₁) x.1 x.2 → I l₁ (final s l₁) →
      I (l₁ ++ [x]) x.2) (l₁ l₂ : List (ι × σ)) (hl : l = l₁ ++ l₂) : I l₁ (final s l₁) := by
  induction l₁ using List.reverseRecOn generalizing l₂ with
  | nil => exact hs
  | append_singleton l₁ x ih =>
    rw [List.append_assoc, List.singleton_append] at hl
    have hx := (cons_iff.mp (append_iff.mp (hl ▸ h)).2).1
    rw [final_append]
    exact hstep l₁ x l₂ hl hx (ih (x :: l₂) hl)

/-- **Simulation.** If each step of one relation is matched by a step of the other with the same
input, from related states to related ones, then so is a trace, step by step. -/
theorem simulates (h : Trace step s l) (step' : τ → ι → τ → Prop) (R : σ → τ → Prop)
    (Q : ι → σ → τ → Prop)
    (hstep : ∀ s t i s', (i, s') ∈ l → R s t → step s i s' →
      ∃ t', step' t i t' ∧ R s' t' ∧ Q i s' t') {t : τ} (hst : R s t) :
    ∃ m, Trace step' t m ∧ List.Forall₂ (fun x y => x.1 = y.1 ∧ Q x.1 x.2 y.2) l m := by
  induction h generalizing t with
  | nil s => exact ⟨[], .nil t, .nil⟩
  | @cons s s' i l hi hl ih =>
    obtain ⟨t', ht, hR, hQ⟩ := hstep s t i s' (by simp) hst hi
    obtain ⟨m, hm, hall⟩ := ih (fun s t i s' hmem => hstep s t i s' (by simp [hmem])) hR
    exact ⟨(i, t') :: m, .cons ht hm, .cons ⟨rfl, hQ⟩ hall⟩

/-- **Simulation with stutters.** If each step with an input that is kept is matched by a step of
the other relation, and the others leave related what is related, then a trace without the others
is matched, step by step. -/
theorem simulates_filter (h : Trace step s l) (step' : τ → ι → τ → Prop) (kept : ι → Bool)
    (R : σ → τ → Prop)
    (hkept : ∀ s t i s', (i, s') ∈ l → kept i → R s t → step s i s' →
      ∃ t', step' t i t' ∧ R s' t')
    (hother : ∀ s t i s', kept i = false → R s t → step s i s' → R s' t) {t : τ} (hst : R s t) :
    ∃ m, Trace step' t m ∧ List.Forall₂ (fun x y => x.1 = y.1 ∧ R x.2 y.2)
      (l.filter fun x => kept x.1) m ∧ R (final s l) (final t m) := by
  induction h generalizing t with
  | nil s => exact ⟨[], .nil t, .nil, hst⟩
  | @cons s s' i l hi _ ih =>
    cases hk : kept i with
    | true =>
      obtain ⟨t', ht, hR⟩ := hkept s t i s' (by simp) hk hst hi
      obtain ⟨m, hm, hall, hend⟩ := ih (fun s t i s' hmem => hkept s t i s' (by simp [hmem])) hR
      refine ⟨(i, t') :: m, .cons ht hm, ?_, hend⟩
      rw [List.filter_cons_of_pos (by simpa using hk)]
      exact .cons ⟨rfl, hR⟩ hall
    | false =>
      obtain ⟨m, hm, hall, hend⟩ := ih (fun s t i s' hmem => hkept s t i s' (by simp [hmem]))
        (hother s t i s' hk hst hi)
      refine ⟨m, hm, ?_, hend⟩
      rwa [List.filter_cons_of_neg (by simp [hk])]

lemma inputs_eq {m : List (ι × τ)} {Q : ι × σ → ι × τ → Prop}
    (h : List.Forall₂ (fun x y => x.1 = y.1 ∧ Q x y) l m) :
    l.map Prod.fst = m.map Prod.fst := by
  induction h with
  | nil => rfl
  | cons hx _ ih => rw [List.map_cons, List.map_cons, hx.1, ih]

/-- **The last write.** `seen` is what can be seen of a state. If a step either leaves that as it
is or is a write, then what is seen at the end is what the last write left, or what was there at
the start. -/
theorem last_write {α : Type*} (h : Trace step s l) (seen : σ → α) (Write : ι → Prop)
    (hstep : ∀ s i t, step s i t → ¬ Write i → seen t = seen s) :
    (seen (final s l) = seen s ∧ ∀ x ∈ l, ¬ Write x.1) ∨
      ∃ l₁ x l₂, l = l₁ ++ x :: l₂ ∧ Write x.1 ∧ step (final s l₁) x.1 x.2 ∧
        (∀ y ∈ l₂, ¬ Write y.1) ∧ seen (final s l) = seen x.2 := by
  induction h with
  | nil s => exact .inl ⟨rfl, by simp⟩
  | @cons s t i l hi hl ih =>
    rcases ih with ⟨hseen, hnone⟩ | ⟨l₁, x, l₂, rfl, hx, hstepx, hnone, hseen⟩
    · by_cases hw : Write i
      · exact .inr ⟨[], (i, t), l, rfl, hw, hi, hnone, hseen⟩
      · refine .inl ⟨hseen.trans (hstep s i t hi hw), ?_⟩
        rintro y hy
        rcases List.mem_cons.mp hy with rfl | hy
        · exact hw
        · exact hnone y hy
    · exact .inr ⟨(i, t) :: l₁, x, l₂, rfl, hx, hstepx, hnone, hseen⟩

end Trace

end CeloLightClient.Lib

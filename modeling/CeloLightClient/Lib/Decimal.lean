import Mathlib.Tactic

/-!
Numbers within a text.

A number is written with digits only, so where it ends can be told as long as what follows it does
not begin with a digit.
-/

namespace CeloLightClient.Lib

/-- The text does not begin with a digit. -/
def EndsNumber (text : List Char) : Prop := ∀ c ∈ text.head?, c.isDigit = false

@[simp] lemma endsNumber_nil : EndsNumber [] := by simp [EndsNumber]

@[simp] lemma endsNumber_cons {c : Char} {text : List Char} :
    EndsNumber (c :: text) ↔ c.isDigit = false := by
  simp [EndsNumber]

lemma takeWhile_repr (n : ℕ) {text : List Char} (h : EndsNumber text) :
    (n.repr.toList ++ text).takeWhile Char.isDigit = n.repr.toList := by
  have hdigits : ∀ c ∈ n.repr.toList, c.isDigit = true := fun c hc =>
    Nat.isDigit_of_mem_toDigits (by omega) le_rfl (Nat.toList_repr ▸ hc)
  rw [List.takeWhile_append_of_pos hdigits]
  cases text with
  | nil => simp
  | cons c text => simp [endsNumber_cons.mp h]

lemma repr_eq_cons (n : ℕ) : ∃ c text, n.repr.toList = c :: text ∧ c.isDigit = true := by
  rcases hrepr : n.repr.toList with _ | ⟨c, text⟩
  · exact absurd (Nat.toList_repr ▸ hrepr) Nat.toDigits_ne_nil
  · have hmem : c ∈ Nat.toDigits 10 n := by
      rw [← Nat.toList_repr, hrepr]
      exact List.mem_cons_self
    exact ⟨c, text, rfl, Nat.isDigit_of_mem_toDigits (by omega) le_rfl hmem⟩

/-- **A number can be read off a text**, and so can what follows it. -/
theorem repr_append_inj {m n : ℕ} {s t : List Char} (hs : EndsNumber s) (ht : EndsNumber t)
    (h : m.repr.toList ++ s = n.repr.toList ++ t) : m = n ∧ s = t := by
  have hrepr : m.repr.toList = n.repr.toList := by
    rw [← takeWhile_repr m hs, ← takeWhile_repr n ht, h]
  constructor
  · simp only [Nat.toList_repr] at hrepr
    simpa using congrArg (fun digits => Nat.ofDigitChars 10 digits 0) hrepr
  · rwa [hrepr, List.append_cancel_left_eq] at h

end CeloLightClient.Lib

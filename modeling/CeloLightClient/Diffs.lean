import CeloLightClient.Addresses

/-!
Validator set diffs as operations on sets.

A diff names the validators it removes by their positions in the list, which shrinks and grows with
each diff. Seen from outside it removes a set of addresses and adds another: a sequence of diffs
leads to the set that the same differences and unions lead to.
-/

namespace CeloLightClient.State

open Lib Lib.Outcome Lib.Action

/-- A diff by address: who leaves, and who joins. -/
structure SetDiff where
  removed : Finset Address
  added : List Validator

def addresses (validators : List Validator) : Finset Address :=
  (validators.map Validator.address).toFinset

/-- The diff on a list: those that stay keep their order, and the new ones come after them. -/
def SetDiff.apply (validators : List Validator) (d : SetDiff) : List Validator :=
  validators.filter (fun v => v.address ∉ d.removed) ++ d.added

/-- The diff on a set of addresses. -/
def SetDiff.applySet (S : Finset Address) (d : SetDiff) : Finset Address :=
  S \ d.removed ∪ addresses d.added

/-- The diff removes only who is there, and adds addresses that are distinct from each other and
from those that stay. -/
structure SetDiff.Fits (validators : List Validator) (d : SetDiff) : Prop where
  removed : d.removed ⊆ addresses validators
  distinct : Distinct d.added
  fresh : ∀ v ∈ validators, v.address ∉ d.removed → ∀ w ∈ d.added, w.address ≠ v.address

/-- Each diff of the sequence fits the list that those before it lead to. -/
def FitsAll : List Validator → List SetDiff → Prop
  | _, [] => True
  | validators, d :: ds => d.Fits validators ∧ FitsAll (d.apply validators) ds

/-- The bitmap of the positions of the addresses in `S`. -/
def bitmapOf (S : Finset Address) (validators : List Validator) : ℤ :=
  bitmapAt (fun v => decide (v.address ∈ S)) validators

/-- One diff as the program makes it: a call that removes by position, and one that adds. Both have
to return true. -/
def diffStep (s : Snapshot) (d : SetDiff) : Option Snapshot :=
  match exec (removeValidators (bitmapOf d.removed s.validators)) s with
  | (.ok true, s) =>
    match exec (addValidators d.added) s with
    | (.ok true, s) => some s
    | _ => none
  | _ => none

/-- Who of those added was the last with the address. -/
def lastAdded (history : List Validator) (address : Address) : Option Validator :=
  history.reverse.find? fun v => v.address == address

variable {s s' : Snapshot} {validators history : List Validator} {d : SetDiff} {ds : List SetDiff}

/-! ### One diff -/

lemma bits_bitmapOf_le (S : Finset Address) (validators : List Validator) :
    bits (bitmapOf S validators) ≤ validators.length :=
  Nat.size_le.mpr (bitmapAt_lt _ _)

lemma survivors_bitmapOf (S : Finset Address) (validators : List Validator) :
    survivors (bitmapOf S validators) validators =
      validators.filter fun v => v.address ∉ S := by
  refine selectAt_eq_filter fun i hi => ?_
  have hbit : (bitmapOf S validators).testBit i = decide (validators[i].address ∈ S) :=
    testBit_bitmapAt _ _ hi
  rw [hbit]
  by_cases h : validators[i].address ∈ S <;> simp [h]

lemma addresses_append (l m : List Validator) :
    addresses (l ++ m) = addresses l ∪ addresses m := by
  simp [addresses]

lemma mem_addresses {address : Address} :
    address ∈ addresses validators ↔ ∃ v ∈ validators, v.address = address := by
  simp [addresses]

lemma SetDiff.addresses_apply :
    addresses (d.apply validators) = d.applySet (addresses validators) := by
  rw [SetDiff.apply, addresses_append, SetDiff.applySet]
  congr 1
  ext address
  simp only [mem_addresses, List.mem_filter, Finset.mem_sdiff, decide_eq_true_eq]
  constructor
  · rintro ⟨v, ⟨hv, hstays⟩, rfl⟩
    exact ⟨⟨v, hv, rfl⟩, hstays⟩
  · rintro ⟨⟨v, hv, rfl⟩, hstays⟩
    exact ⟨v, ⟨hv, hstays⟩, rfl⟩

lemma SetDiff.Fits.distinct_apply (h : d.Fits validators) (hdistinct : Distinct validators) :
    Distinct (d.apply validators) := by
  have hold : Distinct (validators.filter fun v => v.address ∉ d.removed) :=
    hdistinct.sublist List.filter_sublist
  unfold Distinct SetDiff.apply at *
  rw [List.map_append, List.nodup_append]
  refine ⟨hold, h.distinct, ?_⟩
  rintro _ hold _ hnew heq
  obtain ⟨v, hleft, rfl⟩ := List.mem_map.mp hold
  obtain ⟨w, hw, rfl⟩ := List.mem_map.mp hnew
  obtain ⟨hv, hstays⟩ := List.mem_filter.mp hleft
  exact h.fresh v hv (of_decide_eq_true hstays) w hw heq.symm

/-- **Both calls return true**, and the list is changed as the diff says. -/
lemma diffStep_eq (h : d.Fits s.validators) :
    diffStep s d = some { s with validators := d.apply s.validators } := by
  have hfresh : ¬ Overlaps d.added (s.validators.filter fun v => v.address ∉ d.removed) := by
    rintro ⟨v, hv, w, hw, heq⟩
    obtain ⟨hv, hstays⟩ := List.mem_filter.mp hv
    exact h.fresh v hv (of_decide_eq_true hstays) w hw heq
  rw [diffStep, removeValidators_exec, if_pos (bits_bitmapOf_le _ _), survivors_bitmapOf]
  simp only [addValidators_exec, if_neg hfresh, SetDiff.apply]

/-! ### Sequences of diffs -/

/-- Everyone in the list is the last with their address to have been added. -/
def Latest (history validators : List Validator) : Prop :=
  ∀ v ∈ validators, lastAdded history v.address = some v

lemma find?_address (hdistinct : Distinct validators) {v : Validator} (hv : v ∈ validators) :
    validators.find? (fun w => w.address == v.address) = some v := by
  obtain ⟨w, hw⟩ := Option.isSome_iff_exists.mp
    (List.find?_isSome (p := fun w : Validator => w.address == v.address).mpr
      ⟨v, hv, beq_self_eq_true _⟩)
  have heq : w.address = v.address :=
    eq_of_beq (List.find?_some (p := fun w : Validator => w.address == v.address) hw)
  rw [hw, List.inj_on_of_nodup_map hdistinct (List.mem_of_find?_eq_some hw) hv heq]

lemma Distinct.reverse (hdistinct : Distinct validators) : Distinct validators.reverse := by
  unfold Distinct at *
  rwa [List.map_reverse, List.nodup_reverse]

lemma latest_self (hdistinct : Distinct validators) : Latest validators validators :=
  fun _ hv => find?_address hdistinct.reverse (List.mem_reverse.mpr hv)

lemma SetDiff.Fits.latest (h : d.Fits validators) (hlatest : Latest history validators) :
    Latest (history ++ d.added) (d.apply validators) := by
  intro v hv
  rw [lastAdded, List.reverse_append, List.find?_append]
  rcases List.mem_append.mp hv with hold | hnew
  · -- no address that is added is that of a survivor
    obtain ⟨hv, hstays⟩ := List.mem_filter.mp hold
    have hnone : d.added.reverse.find? (fun w => w.address == v.address) = none := by
      refine List.find?_eq_none.mpr fun w hw => ?_
      rw [beq_iff_eq]
      exact h.fresh v hv (of_decide_eq_true hstays) w (List.mem_reverse.mp hw)
    rw [hnone, Option.none_or]
    exact hlatest v hv
  · rw [find?_address h.distinct.reverse (List.mem_reverse.mpr hnew), Option.some_or]

/-- What a sequence of diffs has made of a list of validators. -/
structure Outcomes (history validators : List Validator) (ds : List SetDiff)
    (final : List Validator) : Prop where
  order : final = ds.foldl SetDiff.apply validators
  distinct : Distinct final
  set : addresses final = ds.foldl SetDiff.applySet (addresses validators)
  keys : Latest (history ++ ds.flatMap SetDiff.added) final

lemma run_diffs (hdistinct : Distinct s.validators) (hlatest : Latest history s.validators)
    (hfits : FitsAll s.validators ds) :
    ∃ s', run diffStep s ds = some s' ∧ Outcomes history s.validators ds s'.validators := by
  induction ds generalizing s history with
  | nil => exact ⟨s, rfl, rfl, hdistinct, rfl, by simpa using hlatest⟩
  | cons d ds ih =>
    obtain ⟨hd, hds⟩ := hfits
    obtain ⟨s', hrun, horder, hdistinct', hset, hkeys⟩ :=
      ih (s := { s with validators := d.apply s.validators }) (hd.distinct_apply hdistinct)
        (hd.latest hlatest) hds
    refine ⟨s', run_cons_eq_some.mpr ⟨_, diffStep_eq hd, hrun⟩, horder, hdistinct', ?_, ?_⟩
    · rw [hset, SetDiff.addresses_apply, List.foldl_cons]
    · rwa [List.append_assoc, ← List.flatMap_cons] at hkeys

/-! ### When a call returns false -/

/-- The call returns false where `c` is true, and has changed nothing; elsewhere it returns true. -/
def RefusesWhere (call : Action Snapshot Error Bool) (s : Snapshot) (c : Prop) : Prop :=
  (c → exec call s = (.ok false, s)) ∧ (¬ c → (exec call s).1 = .ok true)

lemma removeValidators_refuses {bitmap : ℤ} (h : 0 ≤ bitmap) :
    RefusesWhere (removeValidators bitmap) s
      (∃ i, s.validators.length ≤ i ∧ bitmap.testBit i = true) := by
  have hbits : bits bitmap ≤ s.validators.length ↔
      ¬ ∃ i, s.validators.length ≤ i ∧ bitmap.testBit i = true := by
    obtain ⟨n, rfl⟩ := Int.eq_ofNat_of_zero_le h
    simp only [not_exists, not_and, Bool.not_eq_true]
    exact size_le_iff_testBit
  unfold RefusesWhere
  rw [removeValidators_exec]
  by_cases hfits : bits bitmap ≤ s.validators.length
  · rw [if_pos hfits]
    exact ⟨fun hpast => absurd hpast (hbits.mp hfits), fun _ => rfl⟩
  · rw [if_neg hfits]
    exact ⟨fun _ => rfl, fun hnone => absurd (hbits.mpr hnone) hfits⟩

lemma addValidators_refuses {added : List Validator} :
    RefusesWhere (addValidators added) s (∃ w ∈ added, w.address ∈ addresses s.validators) := by
  have hiff : Overlaps added s.validators ↔ ∃ w ∈ added, w.address ∈ addresses s.validators := by
    simp only [Overlaps, mem_addresses]
    constructor
    · rintro ⟨v, hv, w, hw, heq⟩
      exact ⟨w, hw, v, hv, heq.symm⟩
    · rintro ⟨w, hw, v, hv, heq⟩
      exact ⟨v, hv, w, hw, heq.symm⟩
  rw [← hiff, RefusesWhere, addValidators_exec]
  exact ⟨fun hover => if_pos hover, fun hfresh => by rw [if_neg hfresh]⟩

/-- **Diffs are set difference and union.** A sequence of diffs that fit goes through, and leads to
the addresses that the differences and unions lead to, in the order of arrival, each with the key
it was last added with; and a call is refused only for a position past the end of the list, or an
address that is there already. -/
theorem diffs_are_set_operations (hdistinct : Distinct s.validators)
    (hfits : FitsAll s.validators ds) :
    (∃ s', run diffStep s ds = some s' ∧
        Outcomes s.validators s.validators ds s'.validators) ∧
      (∀ t (bitmap : ℤ), 0 ≤ bitmap → RefusesWhere (removeValidators bitmap) t
        (∃ i, t.validators.length ≤ i ∧ bitmap.testBit i = true)) ∧
      ∀ t added, RefusesWhere (addValidators added) t
        (∃ w ∈ added, w.address ∈ addresses t.validators) :=
  ⟨run_diffs hdistinct (latest_self hdistinct) hfits, fun _ _ h => removeValidators_refuses h,
    fun _ _ => addValidators_refuses⟩

/-- Validator 4 takes the place of validator 1, and then everyone leaves and validator 1 is back
with another key. -/
def twoDiffs : List SetDiff :=
  [⟨{(Reference.validator 1).address}, [Reference.validator 4]⟩,
    ⟨addresses [Reference.validator 2, Reference.validator 3, Reference.validator 4],
      [{ Reference.validator 1 with publicKey := (Reference.validator 5).publicKey }]⟩]

theorem diffs_are_set_operations_two :
    ∃ s', run diffStep Reference.start twoDiffs = some s' ∧
      Outcomes Reference.start.validators Reference.start.validators twoDiffs s'.validators := by
  have hfits : FitsAll Reference.start.validators twoDiffs :=
    ⟨⟨by decide +kernel, by decide +kernel, by decide +kernel⟩,
      ⟨by decide +kernel, by decide +kernel, by decide +kernel⟩, trivial⟩
  exact (diffs_are_set_operations (by decide) hfits).1

end CeloLightClient.State

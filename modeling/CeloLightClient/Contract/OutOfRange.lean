import CeloLightClient.Contract.Membership
import CeloLightClient.Contract.Binding

/-!
Where the verification of a proof goes out of range.

The entries of a proof, the specs and the components of the path are three lists, and the index of
an entry is used for all of them. An entry too many is looked at before it is missed: if it is an
existence proof whose root can be calculated, the index of its key or of its spec is out of range.
The check for absence takes the first entry of a proof that may have none.
-/

namespace CeloLightClient.Contract

open Lib Lib.Outcome

section

variable {H : Host} {l : List (H.ics23.ProofSpec × String)} {p : H.ics23.CommitmentProof}
  {proofs : List H.ics23.CommitmentProof} {specs : List H.ics23.ProofSpec} {keys : MerklePath}
  {root value : Bytes}

/-- The entry is an existence proof whose root can be calculated. -/
def HasRoot (H : Host) (p : H.ics23.CommitmentProof) : Prop :=
  ∃ ex subroot, getExistProof H p = some ex ∧ H.ics23.calculateExistenceRoot ex = .ok subroot

/-- The entries lead from the value through all of `l`, the specs and the keys there are, and there
is one more that has a root. -/
def Overruns (H : Host) (l : List (H.ics23.ProofSpec × String))
    (proofs : List H.ics23.CommitmentProof) (value : Bytes) : Prop :=
  ∃ first p rest r, proofs = first ++ p :: rest ∧ first.length = l.length ∧
    Chains H (first.zip l) value r ∧ HasRoot H p

lemma not_overruns_nil : ¬ Overruns H l [] value := by
  rintro ⟨first, p, rest, r, h, -⟩
  simp at h

lemma overruns_nil_cons : Overruns H [] (p :: proofs) value ↔ HasRoot H p := by
  constructor
  · rintro ⟨first, q, rest, r, heq, hlen, -, hroot⟩
    obtain rfl := List.length_eq_zero_iff.mp hlen
    obtain ⟨rfl, rfl⟩ := List.cons.inj heq
    exact hroot
  · exact fun hroot => ⟨[], p, proofs, value, rfl, rfl, rfl, hroot⟩

lemma overruns_cons {spec : H.ics23.ProofSpec} {key : String} :
    Overruns H ((spec, key) :: l) (p :: proofs) value ↔
      ∃ ex subroot, getExistProof H p = some ex ∧ H.ics23.calculateExistenceRoot ex = .ok subroot ∧
        H.ics23.verifyMembership p spec subroot (utf8 key) value ∧ Overruns H l proofs subroot := by
  constructor
  · rintro ⟨_ | ⟨q, first⟩, p', rest, r, heq, hlen, hchains, hroot⟩
    · simp at hlen
    obtain ⟨rfl, rfl⟩ := List.cons.inj heq
    obtain ⟨ex, subroot, hex, hcalc, hv, hchains⟩ := hchains
    exact ⟨ex, subroot, hex, hcalc, hv, first, p', rest, r, rfl, Nat.succ.inj hlen, hchains, hroot⟩
  · rintro ⟨ex, subroot, hex, hcalc, hv, first, p', rest, r, rfl, hlen, hchains, hroot⟩
    exact ⟨p :: first, p', rest, r, rfl, congrArg Nat.succ hlen, ⟨ex, subroot, hex, hcalc, hv,
      hchains⟩, hroot⟩

/-- **One turn of the loop** aborts if there is no key or no spec for the entry, or if the loop
aborts after it. -/
lemma membershipLoop_cons_eq_abort {i : ℕ} {subroot : Bytes} :
    membershipLoop H specs keys i (p :: proofs) value subroot = abort ↔
      ∃ ex subroot, getExistProof H p = some ex ∧ H.ics23.calculateExistenceRoot ex = .ok subroot ∧
        (keys.keyPath.length ≤ i ∨ specs.length ≤ i ∨ ∃ key spec,
          keys.keyPath.reverse[i]? = some key ∧ specs[i]? = some spec ∧
            H.ics23.verifyMembership p spec subroot (utf8 key) value ∧
            membershipLoop H specs keys (i + 1) proofs subroot subroot = abort) := by
  rw [membershipLoop]
  rcases hex : getExistProof H p with _ | ex
  · simp [genericErr]
  simp only [bind_eq_abort, mapErr_eq_abort, ofExcept_ne_abort, mapErr_eq_ok, ofExcept_eq_ok,
    subSize_eq_abort, subSize_eq_ok, okOr_ne_abort, okOr_eq_ok, index, unwrap_eq_abort,
    unwrap_eq_ok, ensure_ne_abort, ensure_eq_ok, false_or, List.getElem?_eq_none_iff]
  constructor
  · rintro ⟨subroot, hroot, hbad⟩
    refine ⟨ex, subroot, rfl, hroot, ?_⟩
    rcases hbad with hempty | ⟨last, ⟨hlen, rfl⟩, hlast | ⟨j, ⟨hi, rfl⟩, key, hkey, hbad⟩⟩
    · exact .inl (by omega)
    · exact .inl (by omega)
    rw [← List.getElem?_reverse (by omega)] at hkey
    rcases hbad with hspecs | ⟨spec, hspec, _, hv, hrest⟩
    · exact .inr (.inl hspecs)
    · exact .inr (.inr ⟨key, spec, hkey, hspec, hv, hrest⟩)
  · rintro ⟨_, subroot, ⟨⟩, hroot, hbad⟩
    refine ⟨subroot, hroot, ?_⟩
    rcases Nat.lt_or_ge i keys.keyPath.length with hi | hi
    · -- there is a key, so it is the spec or what comes after the entry
      obtain ⟨key, hkey⟩ : ∃ key, keys.keyPath.reverse[i]? = some key :=
        ⟨_, List.getElem?_eq_getElem (by rwa [List.length_reverse])⟩
      have hrest : specs.length ≤ i ∨ ∃ spec, specs[i]? = some spec ∧ ∃ _ : Unit,
          H.ics23.verifyMembership p spec subroot (utf8 key) value ∧
            membershipLoop H specs keys (i + 1) proofs subroot subroot = abort := by
        refine (hbad.resolve_left (Nat.not_le.mpr hi)).imp_right ?_
        rintro ⟨key', spec, hkey', hspec, hv, hrest⟩
        obtain rfl := Option.some.inj (hkey.symm.trans hkey')
        exact ⟨spec, hspec, (), hv, hrest⟩
      rw [List.getElem?_reverse hi] at hkey
      exact .inr ⟨_, ⟨by omega, rfl⟩, .inr ⟨_, ⟨by omega, rfl⟩, key, hkey, hrest⟩⟩
    · rcases Nat.eq_zero_or_pos keys.keyPath.length with hempty | hpos
      · exact .inl (by omega)
      · exact .inr ⟨_, ⟨hpos, rfl⟩, .inl (by omega)⟩

/-- **The loop aborts** exactly when the proofs run over the specs or the keys. -/
lemma membershipLoop_eq_abort {i : ℕ} {subroot : Bytes} :
    membershipLoop H specs keys i proofs value subroot = abort ↔
      Overruns H ((specs.drop i).zip (keys.keyPath.reverse.drop i)) proofs value := by
  induction proofs generalizing i value subroot with
  | nil => exact iff_of_false (by simp [membershipLoop]) not_overruns_nil
  | cons p proofs ih =>
    rw [membershipLoop_cons_eq_abort]
    by_cases h : i < specs.length ∧ i < keys.keyPath.reverse.length
    · obtain ⟨hspecs, hkeys⟩ := h
      rw [List.drop_eq_getElem_cons hspecs, List.drop_eq_getElem_cons hkeys, List.zip_cons_cons,
        overruns_cons]
      refine exists₂_congr fun ex subroot => and_congr_right fun _ => and_congr_right fun _ => ?_
      rw [List.length_reverse] at hkeys
      simp [ih, hspecs, hkeys, Nat.not_le.mpr]
    · -- there is no spec or no component of the path for the entry
      have hmissing : keys.keyPath.length ≤ i ∨ specs.length ≤ i := by
        rw [List.length_reverse] at h
        omega
      have hzip : (specs.drop i).zip (keys.keyPath.reverse.drop i) = [] := by
        rw [List.zip_eq_nil_iff, List.drop_eq_nil_iff, List.drop_eq_nil_iff, List.length_reverse]
        exact hmissing.symm
      rw [hzip, overruns_nil_cons]
      exact exists₂_congr fun ex subroot => and_congr_right fun _ =>
        and_iff_left (hmissing.imp_right .inl)

/-- **Verification at the first proof aborts** exactly when the proofs run over. -/
theorem verifyMembership_eq_abort {proof : MerkleProof H.ics23} :
    verifyMembership H proof specs root keys value 0 = abort ↔
      Overruns H (specs.zip keys.keyPath.reverse) proof.proofs value := by
  have hloop : membershipLoop H specs keys 0 proof.proofs value value = abort ↔
      Overruns H (specs.zip keys.keyPath.reverse) proof.proofs value := membershipLoop_eq_abort
  simp [verifyMembership, bind_eq_abort, hloop]

end

/-! ### The check for absence -/

variable {H : Host} {proof : MerkleProof H.ics23} {root value : Bytes} {keys : MerklePath}

lemma absenceCheck_eq_abort (hkeys : keys.keyPath ≠ []) :
    absenceCheck H proof root keys = abort ↔ proof.proofs = [] := by
  obtain ⟨key, hkey⟩ := Option.isSome_iff_exists.mp (List.getLast?_isSome.mpr hkeys)
  rw [absenceCheck, hkey, unwrap_some, ok_bind]
  rcases hp : proof.proofs with _ | ⟨p, rest⟩
  · simp [index]
  · simp [index, specs]

/-- The path is one that the contract builds: a prefix in front of a path, or an upgrade path with
one component more. -/
def Built (H : Host) (keys : MerklePath) : Prop :=
  (∃ pre path, applyPrefix H pre path = .ok keys) ∨
    ∃ upgradePath clientUpgradePath,
      keys = constructUpgradeMerklePath H upgradePath clientUpgradePath

lemma Built.ne_nil (h : Built H keys) : keys.keyPath ≠ [] := by
  rcases h with ⟨pre, path, h⟩ | ⟨upgradePath, clientUpgradePath, rfl⟩
  · obtain ⟨s, hs⟩ := applyPrefix_eq_ok h
    rw [hs]
    exact List.cons_ne_nil _ _
  · exact List.concat_ne_nil _ _

/-- **Proof verification aborts** exactly on a proof that runs over the two specs or the path, and
the check for absence exactly on a proof without entries. -/
theorem proofs_in_range_iff (hkeys : Built H keys) :
    (verifyMembership H proof (specs H) root keys value 0 ≠ abort ↔
        ¬ Overruns H ((specs H).zip keys.keyPath.reverse) proof.proofs value) ∧
      (absenceCheck H proof root keys ≠ abort ↔ proof.proofs ≠ []) :=
  ⟨not_congr verifyMembership_eq_abort, not_congr (absenceCheck_eq_abort hkeys.ne_nil)⟩

namespace Reference

/-- An entry more than there are components of the path. -/
def threeEntries : MerkleProof ics23 :=
  ⟨[.Exist moduleEntry, .Exist storeEntry, .Exist storeEntry]⟩

lemma ibcPath_eq :
    applyPrefix (host []) ⟨Base64.reference.encode (utf8 "ibc")⟩ ["acks/1"] =
      .ok ⟨["ibc", "acks/1"]⟩ := applyPrefix_encode (by decide) _

end Reference

/-- Three entries for a path of two components abort, and so does a check for absence without an
entry. -/
theorem proofs_out_of_range :
    applyPrefix (Reference.host []) ⟨Base64.reference.encode (utf8 "ibc")⟩ ["acks/1"] =
        .ok ⟨["ibc", "acks/1"]⟩ ∧
      verifyMembership (Reference.host []) Reference.threeEntries (specs (Reference.host []))
        Reference.storeEntry.root ⟨["ibc", "acks/1"]⟩ [1] 0 = abort ∧
      absenceCheck (Reference.host []) ⟨[]⟩ Reference.storeEntry.root ⟨["ibc", "acks/1"]⟩ =
        abort := by
  obtain ⟨-, -, -, hchains⟩ := verifyMembership_eq_ok.mp Reference.twoEntries_member
  refine ⟨Reference.ibcPath_eq, verifyMembership_eq_abort.mpr ?_,
    (absenceCheck_eq_abort (List.cons_ne_nil _ _)).mpr rfl⟩
  exact ⟨Reference.twoEntries.proofs, _, [], _, rfl, rfl, hchains, Reference.storeEntry, _, rfl,
    rfl⟩

theorem proofs_in_range_iff_two :
    verifyMembership (Reference.host []) Reference.twoEntries (specs (Reference.host []))
        Reference.storeEntry.root ⟨["ibc", "acks/1"]⟩ [1] 0 ≠ abort ↔
      ¬ Overruns (Reference.host []) ((specs (Reference.host [])).zip ["acks/1", "ibc"])
        Reference.twoEntries.proofs [1] :=
  (proofs_in_range_iff (.inl ⟨_, _, Reference.ibcPath_eq⟩)).1

end CeloLightClient.Contract

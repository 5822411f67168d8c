import CeloLightClient.Contract.Reference

/-!
A chain of proofs shows one value.

The verifier runs from the value to the root, and what is known runs the other way: two chains that
end at one root have the same value before their last entries, so before the entries in front of
those, and so at the start.
-/

namespace CeloLightClient.Contract

open Lib Lib.Outcome

section

variable {H : Host} {proofs proofs₁ proofs₂ : List H.ics23.CommitmentProof}
  {specs : List H.ics23.ProofSpec} {names : List String} {keys : MerklePath}
  {value root v₁ v₂ : Bytes} {values values₁ values₂ : ℕ → Bytes}

/-- The entries link the values: the root of entry `i` is the value of the next one, and the entry
shows its value under the root with the spec and the name at its index. The first value is given,
and the last root. -/
structure Linked (H : Host) (proofs : List H.ics23.CommitmentProof)
    (specs : List H.ics23.ProofSpec) (names : List String) (value root : Bytes)
    (values : ℕ → Bytes) : Prop where
  first : values 0 = value
  last : values proofs.length = root
  entry : ∀ (i : ℕ) (h : i < proofs.length), ∃ ex spec name,
    getExistProof H proofs[i] = some ex ∧ specs[i]? = some spec ∧ names[i]? = some name ∧
      H.ics23.calculateExistenceRoot ex = .ok (values (i + 1)) ∧
      H.ics23.verifyMembership proofs[i] spec (values (i + 1)) (utf8 name) (values i)

lemma Linked.cons {proof : H.ics23.CommitmentProof} {spec : H.ics23.ProofSpec} {name : String}
    {ex : H.ics23.ExistenceProof} {subroot : Bytes} (hex : getExistProof H proof = some ex)
    (hroot : H.ics23.calculateExistenceRoot ex = .ok subroot)
    (hv : H.ics23.verifyMembership proof spec subroot (utf8 name) value)
    (h : Linked H proofs specs names subroot root values) :
    Linked H (proof :: proofs) (spec :: specs) (name :: names) value root
      (fun i => i.casesOn value values) := by
  obtain rfl := h.first
  refine ⟨rfl, h.last, fun i hi => ?_⟩
  cases i with
  | zero => exact ⟨ex, spec, name, hex, rfl, rfl, hroot, hv⟩
  | succ i => exact h.entry i (Nat.lt_of_succ_lt_succ hi)

lemma Chains.exists_linked (hspecs : proofs.length ≤ specs.length)
    (hnames : proofs.length ≤ names.length)
    (h : Chains H (proofs.zip (specs.zip names)) value root) :
    ∃ values, Linked H proofs specs names value root values := by
  induction proofs generalizing specs names value with
  | nil => exact ⟨fun _ => value, rfl, h, fun i hi => absurd hi (Nat.not_lt_zero i)⟩
  | cons proof proofs ih =>
    rcases specs with _ | ⟨spec, specs⟩
    · simp at hspecs
    rcases names with _ | ⟨name, names⟩
    · simp at hnames
    obtain ⟨ex, subroot, hex, hroot, hv, hrest⟩ := h
    obtain ⟨values, hlinked⟩ :=
      ih (Nat.le_of_succ_le_succ hspecs) (Nat.le_of_succ_le_succ hnames) hrest
    exact ⟨_, hlinked.cons hex hroot hv⟩

/-- For one spec, one root and one key, `ics23` accepts at most one value with the entries of the
two proofs. -/
def Binds (H : Host) (proofs₁ proofs₂ : List H.ics23.CommitmentProof) : Prop :=
  ∀ p₁ ∈ proofs₁, ∀ p₂ ∈ proofs₂, ∀ spec root key v₁ v₂,
    H.ics23.verifyMembership p₁ spec root key v₁ → H.ics23.verifyMembership p₂ spec root key v₂ →
      v₁ = v₂

lemma Linked.values_eq (hbinds : Binds H proofs₁ proofs₂)
    (h₁ : Linked H proofs₁ specs names v₁ root values₁)
    (h₂ : Linked H proofs₂ specs names v₂ root values₂)
    (hlen : proofs₁.length = proofs₂.length) {i : ℕ} (hi : i ≤ proofs₁.length) :
    values₁ i = values₂ i := by
  induction hi using Nat.decreasingInduction with
  | self => rw [h₁.last, hlen, h₂.last]
  | of_succ i hi ih =>
    obtain ⟨_, spec, name, -, hspec, hname, -, hv₁⟩ := h₁.entry i hi
    obtain ⟨_, _, _, -, hspec₂, hname₂, -, hv₂⟩ := h₂.entry i (hlen ▸ hi)
    obtain rfl := Option.some.inj (hspec.symm.trans hspec₂)
    obtain rfl := Option.some.inj (hname.symm.trans hname₂)
    rw [ih] at hv₁
    exact hbinds _ (List.getElem_mem _) _ (List.getElem_mem _) _ _ _ _ _ hv₁ hv₂

lemma Linked.congr (h : Linked H proofs specs names value root values₁)
    (heq : ∀ i ≤ proofs.length, values₂ i = values₁ i) :
    Linked H proofs specs names value root values₂ where
  first := (heq 0 (Nat.zero_le _)).trans h.first
  last := (heq _ le_rfl).trans h.last
  entry i hi := by
    rw [heq i hi.le, heq (i + 1) hi]
    exact h.entry i hi

/-- **Membership proofs cannot be equivocated.** Two proofs of one length that are accepted for one
root under one path are of the same value, and link the same values; the components of the path are
taken from last to first. -/
theorem membership_binding {proof₁ proof₂ : MerkleProof H.ics23}
    (hbinds : Binds H proof₁.proofs proof₂.proofs)
    (hlen : proof₁.proofs.length = proof₂.proofs.length)
    (h₁ : verifyMembership H proof₁ specs root keys v₁ 0 = .ok true)
    (h₂ : verifyMembership H proof₂ specs root keys v₂ 0 = .ok true) :
    v₁ = v₂ ∧ ∃ values, Linked H proof₁.proofs specs keys.keyPath.reverse v₁ root values ∧
      Linked H proof₂.proofs specs keys.keyPath.reverse v₂ root values := by
  obtain ⟨-, hspecs₁, hkeys₁, hchains₁⟩ := verifyMembership_eq_ok.mp h₁
  obtain ⟨-, hspecs₂, hkeys₂, hchains₂⟩ := verifyMembership_eq_ok.mp h₂
  obtain ⟨values₁, hlinked₁⟩ :=
    hchains₁.exists_linked hspecs₁ (hkeys₁.trans_eq List.length_reverse.symm)
  obtain ⟨values₂, hlinked₂⟩ :=
    hchains₂.exists_linked hspecs₂ (hkeys₂.trans_eq List.length_reverse.symm)
  have heq : ∀ i ≤ proof₁.proofs.length, values₁ i = values₂ i :=
    fun _ => hlinked₁.values_eq hbinds hlinked₂ hlen
  refine ⟨?_, values₁, hlinked₁, hlinked₂.congr fun i hi => heq i (hlen ▸ hi)⟩
  rw [← hlinked₁.first, ← hlinked₂.first, heq 0 (Nat.zero_le _)]

end

namespace Reference

/-- A value in the store of a module. -/
def moduleEntry : ExistenceProof := ⟨utf8 "acks/1", [1], [0], [([2], [3])]⟩

/-- The root of that store in the store of the stores. -/
def storeEntry : ExistenceProof := ⟨utf8 "ibc", moduleEntry.root, [0], [([4], [])]⟩

def twoEntries : MerkleProof ics23 := ⟨[.Exist moduleEntry, .Exist storeEntry]⟩

lemma binds_of_key_inj {proofs : List (MerkleProof ics23)} (entries : List ExistenceProof)
    (h : ∀ e₁ ∈ entries, ∀ e₂ ∈ entries, e₁.key = e₂.key → e₁ = e₂) :
    Binds (host proofs) (entries.map .Exist) (entries.map .Exist) := by
  intro p₁ hp₁ p₂ hp₂ spec root key v₁ v₂ hv₁ hv₂
  obtain ⟨e₁, he₁, rfl⟩ := List.mem_map.mp hp₁
  obtain ⟨e₂, he₂, rfl⟩ := List.mem_map.mp hp₂
  have hproves₁ : e₁.proves root key v₁ = true := hv₁
  have hproves₂ : e₂.proves root key v₂ = true := hv₂
  simp only [ExistenceProof.proves, Bool.and_eq_true, beq_iff_eq] at hproves₁ hproves₂
  obtain ⟨⟨hkey₁, rfl⟩, -⟩ := hproves₁
  obtain ⟨⟨hkey₂, rfl⟩, -⟩ := hproves₂
  rw [h e₁ he₁ e₂ he₂ (hkey₁.trans hkey₂.symm)]

lemma twoEntries_member :
    verifyMembership (host []) twoEntries (specs (host [])) storeEntry.root
      ⟨["ibc", "acks/1"]⟩ [1] 0 = .ok true := by
  refine verifyMembership_eq_ok.mpr ⟨rfl, le_rfl, le_rfl, moduleEntry, moduleEntry.root, rfl, rfl,
    ?_, storeEntry, storeEntry.root, rfl, rfl, ?_, rfl⟩
  · simp [host, ics23, ExistenceProof.proves, moduleEntry]
  · simp [host, ics23, ExistenceProof.proves, storeEntry]

end Reference

theorem membership_binding_two :
    ∃ values, Linked (Reference.host []) Reference.twoEntries.proofs (specs (Reference.host []))
      ["acks/1", "ibc"] [1] Reference.storeEntry.root values :=
  have hbinds : Binds (Reference.host []) Reference.twoEntries.proofs Reference.twoEntries.proofs :=
    Reference.binds_of_key_inj [Reference.moduleEntry, Reference.storeEntry] (by decide +kernel)
  have h := membership_binding hbinds rfl Reference.twoEntries_member Reference.twoEntries_member
  have ⟨values, hlinked, _⟩ := h.2
  ⟨values, hlinked⟩

end CeloLightClient.Contract

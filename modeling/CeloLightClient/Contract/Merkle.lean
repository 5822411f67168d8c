import CeloLightClient.Contract.Store

/-!
Merkle proofs: a list of proofs, each in a tree whose root is a value in the next tree, from the
last component of a path to the first.
-/

namespace CeloLightClient.Contract

open Lib Lib.Outcome

variable (H : Host)

/-- The path under the prefix of the commitments. -/
def applyPrefix (pre : MerklePrefix) (path : List String) : Outcome StdError MerklePath := do
  if pre.keyPrefix = "" then genericErr "empty prefix"
  else
    let prefixFromBase64 ← mapErr toGenericErr (ofExcept (H.base64.decode pre.keyPrefix))
    let decodedPrefix ← okOr (ofUtf8 prefixFromBase64)
      (toGenericErr (H.utf8ErrorToString prefixFromBase64))
    pure ⟨decodedPrefix :: path⟩

/-- `{:?}` of a byte vector. -/
def debugBytes (b : Bytes) : String :=
  "[" ++ ", ".intercalate (b.map fun x => toString x.toNat) ++ "]"

/-- The specs of the two trees: that of the store, and that of the stores. -/
def specs : List H.ics23.ProofSpec := [H.ics23.iavlSpec, H.ics23.tendermintSpec]

/-- `get_exist_proof`. -/
def getExistProof (proof : H.ics23.CommitmentProof) : Option H.ics23.ExistenceProof :=
  H.ics23.exist proof

/-- The loop over the proofs, from the `i`-th on. It returns the root of the last one, or
`subroot` when there is none. -/
def membershipLoop (specs : List H.ics23.ProofSpec) (keys : MerklePath) :
    ℕ → List H.ics23.CommitmentProof → Bytes → Bytes → Outcome StdError Bytes
  | _, [], _, subroot => pure subroot
  | i, commitmentProof :: proofs, value, _ =>
    match getExistProof H commitmentProof with
    | some ex => do
      let subroot ← mapErr toGenericErr (ofExcept (H.ics23.calculateExistenceRoot ex))
      let last ← subSize keys.keyPath.length 1
      let j ← subSize last i
      let key ← okOr keys.keyPath[j]? (.GenericErr "could not retrieve key bytes")
      let spec ← index specs i
      ensure (H.ics23.verifyMembership commitmentProof spec subroot (utf8 key) value)
        (.GenericErr ("membership proof failed to verify membership of value: " ++
          debugBytes value ++ " in subroot: " ++ debugBytes subroot))
      membershipLoop specs keys (i + 1) proofs subroot subroot
    | none => genericErr "expected proof type: ics23::ExistenceProof"

def verifyMembership (proof : MerkleProof H.ics23) (specs : List H.ics23.ProofSpec) (root : Bytes)
    (keys : MerklePath) (value : Bytes) (index : ℕ) : Outcome StdError Bool := do
  let subroot ← membershipLoop H specs keys 0 (proof.proofs.drop index) value value
  ensure (root = subroot) (.GenericErr ("proof did not commit to expected root: " ++
    debugBytes root ++ ", got: " ++ debugBytes subroot))
  pure true

def constructUpgradeMerklePath (upgradePath : List String)
    (clientUpgradePath : ClientUpgradePath) : MerklePath :=
  ⟨upgradePath ++ [H.ibc.pathToString (.Upgrade clientUpgradePath)]⟩

/-! ### What an accepted proof says -/

/-- The proofs lead from the value to the root: each is an existence proof, its spec and its key
are the next, and it shows the value so far to be under its own root. -/
def Chains : List (H.ics23.CommitmentProof × H.ics23.ProofSpec × String) → Bytes → Bytes → Prop
  | [], value, root => value = root
  | (proof, spec, key) :: rest, value, root =>
    ∃ ex subroot, getExistProof H proof = some ex ∧
      H.ics23.calculateExistenceRoot ex = .ok subroot ∧
      H.ics23.verifyMembership proof spec subroot (utf8 key) value ∧ Chains rest subroot root

variable {H} {specs : List H.ics23.ProofSpec} {keys : MerklePath} {root value : Bytes}

lemma membershipLoop_cons {i : ℕ} {proof : H.ics23.CommitmentProof}
    {proofs : List H.ics23.CommitmentProof} {subroot : Bytes} :
    membershipLoop H specs keys i (proof :: proofs) value subroot = .ok root ↔
      ∃ ex subroot key spec, getExistProof H proof = some ex ∧
        H.ics23.calculateExistenceRoot ex = .ok subroot ∧
        keys.keyPath.reverse[i]? = some key ∧ specs[i]? = some spec ∧
        H.ics23.verifyMembership proof spec subroot (utf8 key) value ∧
        membershipLoop H specs keys (i + 1) proofs subroot subroot = .ok root := by
  rw [membershipLoop]
  rcases hex : getExistProof H proof with _ | ex
  · simp [genericErr]
  simp only [bind_eq_ok, ofExcept_eq_ok, mapErr_eq_ok, ensure_eq_ok, subSize_eq_ok, okOr_eq_ok,
    index, unwrap_eq_ok]
  constructor
  · rintro ⟨subroot, hroot, last, ⟨hlen, rfl⟩, j, ⟨hi, rfl⟩, key, hkey, spec, hspec, _, hv, hrest⟩
    refine ⟨ex, subroot, key, spec, rfl, hroot, ?_, hspec, hv, hrest⟩
    rwa [List.getElem?_reverse (by omega)]
  · rintro ⟨_, subroot, key, spec, ⟨⟩, hroot, hkey, hspec, hv, hrest⟩
    have hi : i < keys.keyPath.length := by
      have := (List.getElem?_eq_some_iff.mp hkey).1
      rwa [List.length_reverse] at this
    rw [List.getElem?_reverse hi] at hkey
    exact ⟨subroot, hroot, _, ⟨by omega, rfl⟩, _, ⟨by omega, rfl⟩, key, hkey, spec, hspec, (), hv,
      hrest⟩

/-- **The loop succeeds** exactly when there is a spec and a key for each proof, and the proofs
lead from the value to the root. -/
lemma membershipLoop_eq_ok {i : ℕ} {proofs : List H.ics23.CommitmentProof} {subroot : Bytes}
    (hspecs : i ≤ specs.length) (hkeys : i ≤ keys.keyPath.length)
    (hnil : proofs = [] → subroot = value) :
    membershipLoop H specs keys i proofs value subroot = .ok root ↔
      i + proofs.length ≤ specs.length ∧ i + proofs.length ≤ keys.keyPath.length ∧
        Chains H (proofs.zip ((specs.drop i).zip (keys.keyPath.reverse.drop i))) value root := by
  induction proofs generalizing i value subroot with
  | nil => simp [membershipLoop, Chains, hnil rfl, hspecs, hkeys]
  | cons proof proofs ih =>
    rw [membershipLoop_cons]
    constructor
    · rintro ⟨ex, subroot, key, spec, hex, hroot, hkey, hspec, hv, hrest⟩
      obtain ⟨hi, rfl⟩ := List.getElem?_eq_some_iff.mp hspec
      obtain ⟨hk, rfl⟩ := List.getElem?_eq_some_iff.mp hkey
      rw [List.length_reverse] at hk
      obtain ⟨h1, h2, hchain⟩ := (ih hi hk fun _ => rfl).mp hrest
      refine ⟨by simp; omega, by simp; omega, ?_⟩
      rw [List.drop_eq_getElem_cons hi,
        List.drop_eq_getElem_cons (show i < keys.keyPath.reverse.length by simpa using hk),
        List.zip_cons_cons, List.zip_cons_cons]
      exact ⟨ex, subroot, hex, hroot, hv, hchain⟩
    · rintro ⟨h1, h2, hchain⟩
      rw [List.length_cons] at h1 h2
      have hi : i < specs.length := by omega
      have hk : i < keys.keyPath.reverse.length := by rw [List.length_reverse]; omega
      rw [List.drop_eq_getElem_cons hi, List.drop_eq_getElem_cons hk, List.zip_cons_cons,
        List.zip_cons_cons] at hchain
      obtain ⟨ex, subroot, hex, hroot, hv, hrest⟩ := hchain
      exact ⟨ex, subroot, _, _, hex, hroot, List.getElem?_eq_getElem hk,
        List.getElem?_eq_getElem hi, hv,
        (ih hi (by omega) fun _ => rfl).mpr ⟨by omega, by omega, hrest⟩⟩

/-- **Verification at the first proof.** -/
theorem verifyMembership_eq_ok {proof : MerkleProof H.ics23} {b : Bool} :
    verifyMembership H proof specs root keys value 0 = .ok b ↔
      b = true ∧ proof.proofs.length ≤ specs.length ∧
        proof.proofs.length ≤ keys.keyPath.length ∧
        Chains H (proof.proofs.zip (specs.zip keys.keyPath.reverse)) value root := by
  have hloop (r : Bytes) : membershipLoop H specs keys 0 proof.proofs value value = .ok r ↔
      proof.proofs.length ≤ specs.length ∧ proof.proofs.length ≤ keys.keyPath.length ∧
        Chains H (proof.proofs.zip (specs.zip keys.keyPath.reverse)) value r := by
    simpa using membershipLoop_eq_ok (Nat.zero_le specs.length)
      (Nat.zero_le keys.keyPath.length) fun _ => rfl
  simp only [verifyMembership, List.drop_zero, bind_eq_ok, ensure_eq_ok, pure_eq_ok,
    Except.ok.injEq, hloop]
  constructor
  · rintro ⟨r, h, _, rfl, rfl⟩
    exact ⟨rfl, h⟩
  · rintro ⟨rfl, h⟩
    exact ⟨root, h, (), rfl, rfl⟩

end CeloLightClient.Contract

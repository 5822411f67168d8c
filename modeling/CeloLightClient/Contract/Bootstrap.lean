import CeloLightClient.Chain
import CeloLightClient.Contract.Heights

/-!
Which snapshots a new contract can be started from.

A contract is started from a snapshot whose seal is that of the validators in it. The seal of a
header is made by the validators before it, so the snapshot of an epoch's last block, which has the
validators after it, is such a snapshot only if those sealed the header too. All the others are.
-/

namespace CeloLightClient.Contract

open Lib Lib.Outcome Lib.Action State Chain

section

variable {P : Platform} {config : StateConfig} {s s' : Snapshot} {b : Submission} {header : Header}

/-- The header leaves the validators as they are: it is not that of an epoch's last block, or its
diff is empty. -/
def KeepsValidators (P : Platform) (config : StateConfig) (header : Header) : Prop :=
  isEpochHeader config header = false ∨ ∃ extra, IstanbulExtra.fromRlp P.rlp header.extra =
    .ok extra ∧ extra.removedValidators = 0 ∧ extra.addedValidators = []

lemma validatorsAfter_of_keeps (h : KeepsValidators P config header)
    (validators : List Validator) : validatorsAfter P config validators [header] = validators := by
  unfold validatorsAfter epochDiffs
  rcases h with h | ⟨extra, hextra, hremoved, hadded⟩
  · simp [h]
  · by_cases hepoch : isEpochHeader config header
    · simp [hepoch, hextra, Except.toOption, applyDiff, hremoved, additions, hadded]
    · simp [hepoch]

lemma verify_of_records (h : Records P s header) :
    s.verify P = .ok () ↔ Sealed P s.validators header := by
  obtain ⟨extra, hextra, hseal⟩ := h.aggregatedSeal
  unfold Snapshot.verify Sealed
  constructor
  · intro hverify
    rw [hseal] at hverify
    exact ⟨s.hash, extra, h.hash, hextra, hverify⟩
  · rintro ⟨hash, extra', hhash, hextra', hverify⟩
    obtain rfl := Except.ok.inj (hhash.symm.trans h.hash)
    obtain rfl := Except.ok.inj (hextra'.symm.trans hextra)
    rwa [hseal]

lemma nonneg_of_records (h : Records P s header) : s.aggregatedSeal.Nonneg := by
  obtain ⟨extra, hextra, hseal⟩ := h.aggregatedSeal
  rw [hseal]
  exact (IstanbulExtra.nonneg_of_fromRlp hextra).aggregatedSeal

end

variable {H : Host} {config : StateConfig} {s s' : Snapshot} {l : List Submission}

/-- The snapshot as a consensus state. -/
def consensusStateOf (H : Host) (s : Snapshot) (codeId : String) (timestamp : UInt64)
    (root : MerkleRoot) : ConsensusState where
  codeId := codeId
  data := H.base64.encode (s.toRlp H.rlp)
  timestamp := timestamp
  root := root

lemma consensusStateOf_read (hrlp : H.rlp.Lawful) (hbase64 : H.base64.Lawful)
    (hs : s.aggregatedSeal.Nonneg) (hfits : H.rlp.Fits (s.item H.rlp)) (target : String) :
    fromBase64Rlp H (Snapshot.fromRlp H.rlp) (H.base64.encode (s.toRlp H.rlp)) target = .ok s :=
  fromBase64Rlp_of_lawful hbase64 (Snapshot.fromRlp_toRlp hrlp hs hfits) target

/-- A contract can be started from the snapshot, whatever else it is told. -/
def Bootstraps (H : Host) (s : Snapshot) : Prop :=
  ∀ env storage codeId timestamp root (me : ClientState), me.latestHeight.isSome →
    ∃ response storage', exec (initContract H env (consensusStateOf H s codeId timestamp root) me)
      storage = (.ok response, storage')

lemma bootstraps_of_verify (hrlp : H.rlp.Lawful) (hbase64 : H.base64.Lawful)
    (hs : s.aggregatedSeal.Nonneg) (hfits : H.rlp.Fits (s.item H.rlp))
    (hverify : s.verify H.toPlatform = .ok ()) : Bootstraps H s := by
  intro env storage codeId timestamp root me hme
  obtain ⟨height, hheight⟩ := Option.isSome_iff_exists.mp hme
  have hread := consensusStateOf_read hrlp hbase64 hs hfits "msg.initial_state_entry"
  exact ⟨_, _, initContract_eq_ok.mpr ⟨s, height, ⟨hread, hverify, hheight⟩, rfl, rfl⟩⟩

/-- **Snapshots that verify themselves.** After every header of a run that leaves the validators as
they are, the snapshot verifies; after any other it does if and only if the validators that the
header leads to have sealed it too. From a snapshot that verifies a contract can be started. -/
theorem selfVerifying_run (hrlp : H.rlp.Lawful) (hbase64 : H.base64.Lawful)
    (hsize : 1 ≤ config.epochSize) (hepoch : config.verifyEpochHeaders)
    (hnonEpoch : config.verifyNonEpochHeaders) (hnz : ∀ b ∈ l, b.header.number ≠ 0)
    (hrun : run (step H.toPlatform config) s l = some s') :
    ∀ l₁ b l₂, l = l₁ ++ b :: l₂ → ∃ t, run (step H.toPlatform config) s (l₁ ++ [b]) = some t ∧
      (KeepsValidators H.toPlatform config b.header → t.verify H.toPlatform = .ok ()) ∧
      (t.verify H.toPlatform = .ok () ↔ Sealed H.toPlatform (validatorsAfter H.toPlatform config
        s.validators ((l₁ ++ [b]).map Submission.header)) b.header) ∧
      (H.rlp.Fits (t.item H.rlp) → t.verify H.toPlatform = .ok () → Bootstraps H t) := by
  rintro l₁ b l₂ rfl
  have hpos := epochSize_pos hsize
  obtain ⟨u, t, hl₁, hb, -⟩ := run_split hrun
  have hprefix : run (step H.toPlatform config) s (l₁ ++ [b]) = some t :=
    run_append_eq_some.mpr ⟨u, hl₁, run_cons_eq_some.mpr ⟨t, hb, rfl⟩⟩
  obtain ⟨hrecords, hvalidators⟩ := step_spec hpos hb
  refine ⟨t, hprefix, fun hkeeps => ?_, ?_, fun hfits hverify => ?_⟩
  · -- the validators that sealed the header are still there
    have hverified := step_verified hpos hepoch hnonEpoch (hnz b (by simp)) hb
    rw [validatorsAfter_of_keeps hkeeps] at hvalidators
    rw [verify_of_records hrecords, hvalidators]
    exact (sealed_of_verifyHeader hverified).2
  · rw [verify_of_records hrecords, run_validators hpos hprefix]
  · exact bootstraps_of_verify hrlp hbase64 (nonneg_of_records hrecords) hfits hverify

/-- Block 10 removes validator 1 and adds validator 4, who has not sealed it: the snapshot of block
10 does not verify, though that of block 7 does. -/
theorem epoch_snapshot_unverified :
    Reference.sealedStart.verify CeloLightClient.Reference.platform = .ok () ∧
      ∃ t, run (step CeloLightClient.Reference.platform CeloLightClient.Reference.config)
        Reference.sealedStart [lastBlock] = some t ∧
        t.verify CeloLightClient.Reference.platform ≠ .ok () := by
  refine ⟨CeloLightClient.Reference.verifyAggregatedSeal_sealOf (by decide) _, ?_⟩
  have hrun : (run (step CeloLightClient.Reference.platform CeloLightClient.Reference.config)
      Reference.sealedStart [lastBlock]).map (Snapshot.verify CeloLightClient.Reference.platform) =
      some (fail Kind.BlsVerifyError.into) := by decide +kernel
  obtain ⟨t, ht, hverify⟩ := Option.map_eq_some_iff.mp hrun
  refine ⟨t, ht, ?_⟩
  rw [hverify]
  exact fail_ne_ok _ _

theorem selfVerifying_run_three :
    ∃ t, run (step CeloLightClient.Reference.platform CeloLightClient.Reference.config)
        CeloLightClient.Reference.start threeBlocks = some t ∧
      t.verify CeloLightClient.Reference.platform = .ok () := by
  obtain ⟨s', hrun⟩ := threeBlocks_accepted
  obtain ⟨t, ht, hkeeps, -⟩ := selfVerifying_run (H := Reference.host []) Rlp.reference_lawful
    Base64.reference_lawful (by decide) rfl rfl (by decide +kernel) hrun [innerBlock, lastBlock]
    firstBlock [] rfl
  exact ⟨t, ht, hkeeps (.inl (by decide +kernel))⟩

end CeloLightClient.Contract

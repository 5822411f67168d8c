import CeloLightClient.State

/-!
What a call of `insertHeader` can do, said once.

The checks of a header come first and leave the snapshot alone. The header of an epoch's last
block then changes the validators in two steps, a removal and an addition, each of which can
refuse; any other header leaves them as they are.
-/

namespace CeloLightClient.State

open Lib Lib.Outcome Lib.Action

/-! ### Validator set diffs -/

/-- The validators that a removal leaves. -/
def survivors (removed : ℤ) (validators : List Validator) : List Validator :=
  selectAt (fun i => removed.testBit i == false) validators

/-- The validators that an extra field adds. -/
def additions (extra : IstanbulExtra) : List Validator :=
  List.zipWith Validator.mk extra.addedValidators extra.addedValidatorsPublicKeys

/-- The validator set after an epoch: removal before addition. -/
def applyDiff (extra : IstanbulExtra) (validators : List Validator) : List Validator :=
  survivors extra.removedValidators validators ++ additions extra

/-- Some address to be added is in the list. -/
def Overlaps (added validators : List Validator) : Prop :=
  ∃ v ∈ validators, ∃ w ∈ added, w.address = v.address

lemma bits_eq_zero {n : ℤ} : bits n = 0 ↔ n = 0 := by
  unfold bits
  rw [Nat.size_eq_zero, Int.natAbs_eq_zero]

@[simp] lemma survivors_zero (validators : List Validator) : survivors 0 validators = validators :=
  selectAt_of_forall fun i _ => by simp

lemma survivors_ne {removed : ℤ} {validators : List Validator} (hpos : 0 < removed)
    (hfits : bits removed ≤ validators.length) : survivors removed validators ≠ validators := by
  have hb : 0 < bits removed :=
    Nat.pos_of_ne_zero fun h => absurd (bits_eq_zero.mp h) (by omega)
  have hlt := length_selectAt_lt (p := fun i => removed.testBit i == false)
    (l := validators) (i := bits removed - 1) (by omega) (by simp [bits, testBit_top hpos])
  intro h
  have := congrArg List.length h
  unfold survivors at this
  omega

instance (added validators : List Validator) : Decidable (Overlaps added validators) :=
  inferInstanceAs (Decidable (∃ v ∈ validators, ∃ w ∈ added, w.address = v.address))

lemma addValidators_exec (added : List Validator) (s : Snapshot) :
    exec (addValidators added) s =
      if Overlaps added s.validators then (.ok false, s)
      else (.ok true, { s with validators := s.validators ++ added }) := by
  have hiff : (s.validators.any fun v => added.any fun w => w.address == v.address) = true ↔
      Overlaps added s.validators := by simp [Overlaps, Subtype.ext_iff]
  simp only [addValidators, exec_bind, exec_get, exec_ite, hiff, exec_set, exec_pure]

lemma removeValidators_exec (removed : ℤ) (s : Snapshot) :
    exec (removeValidators removed) s =
      if bits removed ≤ s.validators.length then
        (.ok true, { s with validators := survivors removed s.validators })
      else (.ok false, s) := by
  simp only [removeValidators, exec_bind, exec_get, exec_ite, exec_set, exec_pure]
  by_cases hz : bits removed = 0
  · obtain rfl := bits_eq_zero.mp hz
    simp [hz]
  · by_cases hfits : bits removed ≤ s.validators.length
    · simp [hz, hfits, Nat.not_lt.mpr hfits, survivors]
    · simp [hz, hfits, Nat.lt_of_not_le hfits]

/-! ### The two ways to store a header -/

section

variable (P : Platform) (config : StateConfig)

/-- The checks before a header other than an epoch's last is stored. -/
def headerChecks (s : Snapshot) (header : Header) (now : UInt64) :
    Outcome Error (Hash × IstanbulExtra) := do
  verifyUnlessGenesis P config config.verifyNonEpochHeaders s header now
  let extra ← IstanbulExtra.fromRlp P.rlp header.extra
  let hash ← header.hash P
  pure (hash, extra)

/-- The checks before the diff of an epoch's last header is applied. -/
def epochChecks (s : Snapshot) (header : Header) (now : UInt64) :
    Outcome Error (Hash × IstanbulExtra) := do
  verifyUnlessGenesis P config config.verifyEpochHeaders s header now
  let hash ← header.hash P
  let extra ← IstanbulExtra.fromRlp P.rlp header.extra
  ensure (extra.addedValidators.length = extra.addedValidatorsPublicKeys.length)
    (Kind.InvalidValidatorSetDiff "error in combining addresses and public keys").into
  pure (hash, extra)

/-- The snapshot of an accepted header. -/
def snapshotOf (header : Header) (number : UInt64) (validators : List Validator)
    (hash : Hash) (extra : IstanbulExtra) : Snapshot where
  number := number
  timestamp := header.time
  validators := validators
  hash := hash
  aggregatedSeal := extra.aggregatedSeal

end

variable {P : Platform} {config : StateConfig} {s s' : Snapshot} {header : Header}
  {now number : UInt64} {hash : Hash} {extra : IstanbulExtra} {e : Fault Error}

lemma storeNonEpochHeader_of_error (h : headerChecks P config s header now = .error e)
    (hn : toU64 header.number = some number) :
    exec (storeNonEpochHeader P config header now) s = (.error e, s) := by
  unfold headerChecks at h
  simp only [storeNonEpochHeader, exec_bind, exec_get, exec_lift, hn, unwrap_some]
  rcases hv : verifyUnlessGenesis P config config.verifyNonEpochHeaders s header now with _ | _ <;>
    simp only [hv, ok_bind, error_bind] at h ⊢
  · cases h; rfl
  rcases hx : IstanbulExtra.fromRlp P.rlp header.extra with _ | _ <;>
    simp only [hx, ok_bind, error_bind] at h ⊢
  · cases h; rfl
  rcases hh : header.hash P with _ | _ <;> simp only [hh, ok_bind, error_bind] at h ⊢
  · cases h; rfl
  · cases h

lemma storeNonEpochHeader_of_ok (h : headerChecks P config s header now = .ok (hash, extra))
    (hn : toU64 header.number = some number) :
    exec (storeNonEpochHeader P config header now) s =
      (.ok (), snapshotOf header number s.validators hash extra) := by
  obtain ⟨_, hv, h⟩ := bind_eq_ok.mp h
  obtain ⟨extra', hx, h⟩ := bind_eq_ok.mp h
  obtain ⟨hash', hh, h⟩ := bind_eq_ok.mp h
  cases h
  simp [storeNonEpochHeader, hv, hx, hh, hn, updateStateSnapshot, snapshotOf]

/-- **The epoch path.** After the checks the removal can refuse, and after the removal the
addition can. -/
lemma storeEpochHeader_of_ok (h : epochChecks P config s header now = .ok (hash, extra))
    (hn : toU64 header.number = some number) :
    exec (storeEpochHeader P config header now) s =
      if bits extra.removedValidators ≤ s.validators.length then
        if Overlaps (additions extra) (survivors extra.removedValidators s.validators) then
          (fail (Kind.InvalidValidatorSetDiff
              "error in adding the header's added_validators").into,
            { s with validators := survivors extra.removedValidators s.validators })
        else (.ok (), snapshotOf header number (applyDiff extra s.validators) hash extra)
      else
        (fail (Kind.InvalidValidatorSetDiff
          "error in removing the header's removed_validators").into, s) := by
  obtain ⟨_, hv, h⟩ := bind_eq_ok.mp h
  obtain ⟨hash', hh, h⟩ := bind_eq_ok.mp h
  obtain ⟨extra', hx, h⟩ := bind_eq_ok.mp h
  obtain ⟨_, hlen, h⟩ := bind_eq_ok.mp h
  cases h
  rw [ensure_eq_ok] at hlen
  simp only [storeEpochHeader, exec_bind, exec_get, exec_lift, hv, hh, hx, ensure_of hlen,
    removeValidators_exec]
  by_cases hfits : bits extra.removedValidators ≤ s.validators.length
  · simp only [hfits, if_true, ensure_of, addValidators_exec]
    by_cases hover : Overlaps (additions extra) (survivors extra.removedValidators s.validators)
    · have hover' := hover
      simp only [additions] at hover'
      simp [hover, hover', ensure, fail]
    · have hover' := hover
      simp only [additions] at hover'
      simp [hover', ensure, hn, updateStateSnapshot, snapshotOf, applyDiff, additions]
  · simp [hfits, ensure, fail]

lemma storeEpochHeader_of_error (h : epochChecks P config s header now = .error e) :
    exec (storeEpochHeader P config header now) s = (.error e, s) := by
  unfold epochChecks at h
  simp only [storeEpochHeader, exec_bind, exec_get, exec_lift]
  rcases hv : verifyUnlessGenesis P config config.verifyEpochHeaders s header now with _ | _ <;>
    simp only [hv, ok_bind, error_bind] at h ⊢
  · cases h; rfl
  rcases hh : header.hash P with _ | _ <;> simp only [hh, ok_bind, error_bind] at h ⊢
  · cases h; rfl
  rcases hx : IstanbulExtra.fromRlp P.rlp header.extra with _ | extra <;>
    simp only [hx, ok_bind, error_bind] at h ⊢
  · cases h; rfl
  by_cases hlen : extra.addedValidators.length = extra.addedValidatorsPublicKeys.length
  · simp [hlen, ensure] at h
  · simp only [ensure_of_not hlen, fail_bind] at h ⊢
    cases h; rfl

/-! ### What verification checks -/

/-- The header is newer than the snapshot, and not further in the future than allowed. -/
def Timely (config : StateConfig) (s : Snapshot) (header : Header) (now : UInt64) : Prop :=
  s.timestamp < header.time ∧ now.toNat + config.allowedClockSkew.toNat < 2 ^ 64 ∧
    header.time.toNat ≤ now.toNat + config.allowedClockSkew.toNat

/-- The seal of the header is that of a quorum of the validators, on the header's hash. -/
def Sealed (P : Platform) (validators : List Validator) (header : Header) : Prop :=
  ∃ hash extra, header.hash P = .ok hash ∧ IstanbulExtra.fromRlp P.rlp header.extra = .ok extra ∧
    verifyAggregatedSeal P hash validators extra.aggregatedSeal = .ok ()

lemma verifyTimestamp_eq_ok :
    verifyTimestamp config s header now = .ok () ↔ Timely config s header now := by
  unfold verifyTimestamp Timely
  constructor
  · intro h
    obtain ⟨_, h1, h⟩ := bind_eq_ok.mp h
    obtain ⟨limit, hadd, h⟩ := bind_eq_ok.mp h
    rw [ensure_eq_ok] at h1 h
    have hlimit := add_eq_ok.mp hadd
    have hlt := limit.toNat_lt
    rw [UInt64.le_iff_toNat_le] at h
    exact ⟨h1, by omega, by omega⟩
  · rintro ⟨h1, hlt, hle⟩
    have hadd : (add now config.allowedClockSkew : Outcome Error UInt64) =
        .ok (now + config.allowedClockSkew) := if_pos hlt
    rw [ensure_of h1, ok_bind, hadd, ok_bind, ensure_eq_ok, UInt64.le_iff_toNat_le,
      add_eq_ok.mp hadd]
    exact hle

lemma verifyHeaderSeal_eq_ok :
    verifyHeaderSeal P s header = .ok () ↔ Sealed P s.validators header := by
  simp only [verifyHeaderSeal, Sealed, bind_eq_ok]
  exact ⟨fun ⟨hash, hh, extra, hx, hv⟩ => ⟨hash, extra, hh, hx, hv⟩,
    fun ⟨hash, extra, hh, hx, hv⟩ => ⟨hash, hh, extra, hx, hv⟩⟩

/-- **Verification**: the number rises, the time is right if it is looked at, and the stored
validators sealed the header. -/
lemma verifyHeader_eq_ok :
    verifyHeader P config s header now = .ok () ↔
      (∃ number, toU64 header.number = some number ∧ s.number < number) ∧
        (config.verifyHeaderTimestamp → Timely config s header now) ∧
          Sealed P s.validators header := by
  rw [← verifyHeaderSeal_eq_ok, ← verifyTimestamp_eq_ok]
  simp only [verifyHeader, bind_eq_ok, unwrap_eq_ok, ensure_eq_ok]
  constructor
  · rintro ⟨number, hn, _, hlt, _, ht, hv⟩
    exact ⟨⟨number, hn, hlt⟩, fun hc => by simpa [hc] using ht, hv⟩
  · rintro ⟨⟨number, hn, hlt⟩, ht, hv⟩
    refine ⟨number, hn, (), hlt, (), ?_, hv⟩
    by_cases hc : config.verifyHeaderTimestamp
    · simpa [hc] using ht hc
    · simp [hc]

lemma verifyUnlessGenesis_eq_ok {verify : Bool} :
    verifyUnlessGenesis P config verify s header now = .ok () ↔
      (verify → header.number ≠ 0 → verifyHeader P config s header now = .ok ()) := by
  unfold verifyUnlessGenesis
  by_cases hv : verify <;> by_cases hz : header.number = 0 <;> simp [hv, hz]

/-! ### Acceptance -/

/-- The verification that applies to the header of block `number`. -/
def Verifies (config : StateConfig) (number : UInt64) : Bool :=
  if EpochEnd config.epochSize.toNat number.toNat then config.verifyEpochHeaders
  else config.verifyNonEpochHeaders

/-- The diff of the extra field can be applied to the list. -/
structure DiffApplies (extra : IstanbulExtra) (validators : List Validator) : Prop where
  lengths : extra.addedValidators.length = extra.addedValidatorsPublicKeys.length
  fits : bits extra.removedValidators ≤ validators.length
  fresh : ¬ Overlaps (additions extra) (survivors extra.removedValidators validators)

/-- The validators after the header of block `number`. -/
def nextValidators (config : StateConfig) (number : UInt64) (extra : IstanbulExtra)
    (validators : List Validator) : List Validator :=
  if EpochEnd config.epochSize.toNat number.toNat then applyDiff extra validators else validators

/-- What is true of a header that is accepted on top of `s`. -/
structure Accepts (P : Platform) (config : StateConfig) (s : Snapshot) (header : Header)
    (now number : UInt64) (hash : Hash) (extra : IstanbulExtra) : Prop where
  number_eq : toU64 header.number = some number
  verified : Verifies config number → header.number ≠ 0 →
    verifyHeader P config s header now = .ok ()
  hash_eq : header.hash P = .ok hash
  extra_eq : IstanbulExtra.fromRlp P.rlp header.extra = .ok extra
  diff : EpochEnd config.epochSize.toNat number.toNat → DiffApplies extra s.validators

lemma headerChecks_eq_ok :
    headerChecks P config s header now = .ok (hash, extra) ↔
      (config.verifyNonEpochHeaders → header.number ≠ 0 →
        verifyHeader P config s header now = .ok ()) ∧
        header.hash P = .ok hash ∧ IstanbulExtra.fromRlp P.rlp header.extra = .ok extra := by
  rw [← verifyUnlessGenesis_eq_ok]
  simp only [headerChecks, bind_eq_ok, pure_eq_ok, Except.ok.injEq, Prod.mk.injEq]
  constructor
  · rintro ⟨_, hv, _, hx, _, hh, rfl, rfl⟩
    exact ⟨hv, hh, hx⟩
  · rintro ⟨hv, hh, hx⟩
    exact ⟨(), hv, extra, hx, hash, hh, rfl, rfl⟩

lemma epochChecks_eq_ok :
    epochChecks P config s header now = .ok (hash, extra) ↔
      (config.verifyEpochHeaders → header.number ≠ 0 →
        verifyHeader P config s header now = .ok ()) ∧
        header.hash P = .ok hash ∧ IstanbulExtra.fromRlp P.rlp header.extra = .ok extra ∧
          extra.addedValidators.length = extra.addedValidatorsPublicKeys.length := by
  rw [← verifyUnlessGenesis_eq_ok]
  simp only [epochChecks, bind_eq_ok, pure_eq_ok, Except.ok.injEq, Prod.mk.injEq, ensure_eq_ok]
  constructor
  · rintro ⟨_, hv, _, hh, _, hx, _, hlen, rfl, rfl⟩
    exact ⟨hv, hh, hx, hlen⟩
  · rintro ⟨hv, hh, hx, hlen⟩
    exact ⟨(), hv, hash, hh, extra, hx, (), hlen, rfl, rfl⟩

lemma insertHeader_of_none (h : toU64 header.number = none) :
    exec (insertHeader P config header now) s = (abort, s) := by
  simp [insertHeader, h, abort]

lemma epochSize_pos_of_insert (h : exec (insertHeader P config header now) s = (.ok (), s')) :
    0 < config.epochSize := by
  rcases eq_or_ne config.epochSize 0 with hzero | hne
  · rcases hn : toU64 header.number with _ | number
    · rw [insertHeader_of_none hn] at h
      cases h
    · simp [insertHeader, hn, isLastBlockOfEpoch, getNumberWithinEpoch, rem, hzero, abort] at h
  · exact UInt64.pos_iff_ne_zero.mpr hne

lemma insertHeader_exec (hsize : 0 < config.epochSize) (hn : toU64 header.number = some number) :
    exec (insertHeader P config header now) s =
      if EpochEnd config.epochSize.toNat number.toNat then
        exec (storeEpochHeader P config header now) s
      else exec (storeNonEpochHeader P config header now) s := by
  simp only [insertHeader, exec_bind, exec_lift, hn, unwrap_some, isLastBlockOfEpoch_eq hsize,
    exec_ite, decide_eq_true_eq]

lemma storeEpochHeader_eq_ok (hn : toU64 header.number = some number) :
    exec (storeEpochHeader P config header now) s = (.ok (), s') ↔
      ∃ hash extra, (epochChecks P config s header now = .ok (hash, extra) ∧
        bits extra.removedValidators ≤ s.validators.length ∧
        ¬ Overlaps (additions extra) (survivors extra.removedValidators s.validators)) ∧
        s' = snapshotOf header number (applyDiff extra s.validators) hash extra := by
  constructor
  · intro h
    rcases hc : epochChecks P config s header now with e | ⟨hash, extra⟩
    · rw [storeEpochHeader_of_error hc] at h
      cases h
    rw [storeEpochHeader_of_ok hc hn] at h
    split at h
    · next hfits =>
      split at h
      · simp [fail] at h
      · next hfresh =>
        cases h
        exact ⟨hash, extra, ⟨rfl, hfits, hfresh⟩, rfl⟩
    · simp [fail] at h
  · rintro ⟨hash, extra, ⟨hc, hfits, hfresh⟩, rfl⟩
    rw [storeEpochHeader_of_ok hc hn, if_pos hfits, if_neg hfresh]

lemma storeNonEpochHeader_eq_ok (hn : toU64 header.number = some number) :
    exec (storeNonEpochHeader P config header now) s = (.ok (), s') ↔
      ∃ hash extra, headerChecks P config s header now = .ok (hash, extra) ∧
        s' = snapshotOf header number s.validators hash extra := by
  constructor
  · intro h
    rcases hc : headerChecks P config s header now with e | ⟨hash, extra⟩
    · rw [storeNonEpochHeader_of_error hc hn] at h
      cases h
    rw [storeNonEpochHeader_of_ok hc hn] at h
    cases h
    exact ⟨hash, extra, rfl, rfl⟩
  · rintro ⟨hash, extra, hc, rfl⟩
    exact storeNonEpochHeader_of_ok hc hn

lemma accepts_iff_of_end (hn : toU64 header.number = some number)
    (hend : EpochEnd config.epochSize.toNat number.toNat) :
    Accepts P config s header now number hash extra ↔
      epochChecks P config s header now = .ok (hash, extra) ∧
        bits extra.removedValidators ≤ s.validators.length ∧
        ¬ Overlaps (additions extra) (survivors extra.removedValidators s.validators) := by
  rw [epochChecks_eq_ok]
  constructor
  · rintro ⟨-, hv, hh, hx, hdiff⟩
    obtain ⟨hlen, hfits, hfresh⟩ := hdiff hend
    exact ⟨⟨by simpa [Verifies, hend] using hv, hh, hx, hlen⟩, hfits, hfresh⟩
  · rintro ⟨⟨hv, hh, hx, hlen⟩, hfits, hfresh⟩
    exact ⟨hn, by simpa [Verifies, hend] using hv, hh, hx, fun _ => ⟨hlen, hfits, hfresh⟩⟩

lemma accepts_iff_of_inner (hn : toU64 header.number = some number)
    (hinner : ¬ EpochEnd config.epochSize.toNat number.toNat) :
    Accepts P config s header now number hash extra ↔
      headerChecks P config s header now = .ok (hash, extra) := by
  rw [headerChecks_eq_ok]
  constructor
  · rintro ⟨-, hv, hh, hx, -⟩
    exact ⟨by simpa [Verifies, hinner] using hv, hh, hx⟩
  · rintro ⟨hv, hh, hx⟩
    exact ⟨hn, by simpa [Verifies, hinner] using hv, hh, hx, fun hend => absurd hend hinner⟩

/-- **Acceptance.** A header is accepted exactly when its checks pass and its diff, if its block
is the last of an epoch, can be applied; the snapshot is then that of the header. -/
theorem insertHeader_eq_ok (hsize : 0 < config.epochSize) :
    exec (insertHeader P config header now) s = (.ok (), s') ↔
      ∃ number hash extra, Accepts P config s header now number hash extra ∧
        s' = snapshotOf header number (nextValidators config number extra s.validators)
          hash extra := by
  rcases hn : toU64 header.number with _ | number
  · rw [insertHeader_of_none hn]
    refine iff_of_false (by simp [abort]) ?_
    rintro ⟨number, _, _, ha, -⟩
    exact absurd ha.number_eq (by simp [hn])
  have hnumber {n : UInt64} {hash extra} (ha : Accepts P config s header now n hash extra) :
      number = n := Option.some.inj (hn.symm.trans ha.number_eq)
  rw [insertHeader_exec hsize hn]
  by_cases hend : EpochEnd config.epochSize.toNat number.toNat
  · rw [if_pos hend, storeEpochHeader_eq_ok hn]
    constructor
    · rintro ⟨hash, extra, hc, rfl⟩
      exact ⟨number, hash, extra, (accepts_iff_of_end hn hend).mpr hc,
        by rw [nextValidators, if_pos hend]⟩
    · rintro ⟨n, hash, extra, ha, rfl⟩
      obtain rfl := hnumber ha
      exact ⟨hash, extra, (accepts_iff_of_end hn hend).mp ha, by rw [nextValidators, if_pos hend]⟩
  · rw [if_neg hend, storeNonEpochHeader_eq_ok hn]
    constructor
    · rintro ⟨hash, extra, hc, rfl⟩
      exact ⟨number, hash, extra, (accepts_iff_of_inner hn hend).mpr hc,
        by rw [nextValidators, if_neg hend]⟩
    · rintro ⟨n, hash, extra, ha, rfl⟩
      obtain rfl := hnumber ha
      exact ⟨hash, extra, (accepts_iff_of_inner hn hend).mp ha,
        by rw [nextValidators, if_neg hend]⟩

end CeloLightClient.State

import CeloLightClient.Contract.Heights
import CeloLightClient.Contract.Recovery
import CeloLightClient.Contract.Upgrade
import CeloLightClient.Lib.Trace

/-!
Delay periods over whole runs of the contract.

A packet may only be verified some time after the height of its proof was recorded. Over any run of
messages, what is stored for a height is what the last successful message that recorded this very
height has put there; nothing else touches it.
-/

namespace CeloLightClient.Contract

open Lib Lib.Outcome Lib.Action

/-- A message, the block it arrives in, and whether it succeeds. -/
structure Call where
  env : Env
  msg : HandleMsg
  succeeded : Bool

variable {H : Host} {env : Env} {storage storage' : Storage} {height : Height} {c : Call}
  {l : List (Call × Storage)}

/-- The call is handled. If it fails, the host chain may or may not undo what it has written. -/
def CallStep (H : Host) (storage : Storage) (c : Call) (storage' : Storage) : Prop :=
  if c.succeeded then
    ∃ response, exec (handle H c.env c.msg) storage = (.ok response, storage')
  else ∃ e t, exec (handle H c.env c.msg) storage = (.error e, t) ∧
    (storage' = storage ∨ storage' = t)

/-- The height that a message records the time and the block of, if it succeeds. -/
def recordedHeight : HandleMsg → Option Height
  | .InitializeState _ me => me.latestHeight
  | .CheckHeaderAndUpdateState header _ _ => some header.height
  | .VerifyUpgradeAndUpdateState _ newClientState _ _ _ _ => newClientState.latestHeight
  | _ => none

def RecordsHeight (height : Height) (c : Call) : Prop :=
  c.succeeded = true ∧ recordedHeight c.msg = some height

/-! ### What is stored for a height -/

/-- The time and the block that are stored for a height. -/
def recorded (height : Height) (storage : Storage) : Option Bytes × Option Bytes :=
  (storage (processedTimeKey EMPTY_PREFIX height), storage (processedHeightKey EMPTY_PREFIX height))

/-- What is stored for a height that has been recorded in the block. -/
def recordOf (H : Host) (env : Env) : Option Bytes × Option Bytes :=
  (some (H.toVec (.num env.time.toNat)), some (H.toVec (getSelfHeight env.height).json))

lemma recorded_self :
    recorded height (withConsensusMeta H env EMPTY_PREFIX height storage) = recordOf H env := by
  rw [recorded, withConsensusMeta_processedTimeKey, withConsensusMeta_processedHeightKey, recordOf]

lemma recorded_of_ne {height' : Height} (h : height' ≠ height) :
    recorded height (withConsensusMeta H env EMPTY_PREFIX height' storage) =
      recorded height storage := by
  have htime : processedTimeKey EMPTY_PREFIX height ≠ processedTimeKey EMPTY_PREFIX height' :=
    fun hkey => h (processedTimeKey_inj.mp hkey).symm
  have hheight : processedHeightKey EMPTY_PREFIX height ≠ processedHeightKey EMPTY_PREFIX height' :=
    fun hkey => h (processedHeightKey_inj.mp hkey).symm
  unfold recorded
  rw [withConsensusMeta_of_ne processedTimeKey_ne_processedHeightKey htime,
    withConsensusMeta_of_ne hheight processedTimeKey_ne_processedHeightKey.symm]

lemma copied_keyText_empty {height' : Height} {suffix : String} :
    copied H env storage height' (utf8 (keyText EMPTY_PREFIX height suffix)) =
      storage (utf8 (keyText EMPTY_PREFIX height suffix)) :=
  copied_of_ne fun _ _ => keyText_empty_ne_subject

lemma recorded_copied {height' : Height} :
    recorded height (copied H env storage height') = recorded height storage := by
  unfold recorded
  rw [processedTimeKey_eq, processedHeightKey_eq, copied_keyText_empty, copied_keyText_empty]

/-! ### What a message changes -/

lemma atomic_initContract {consensusState : ConsensusState} {me : ClientState} :
    Atomic (initContract H env consensusState me) :=
  atomic_lift_bind fun _ _ => atomic_lift_bind fun _ _ => atomic_lift_bind fun _ _ =>
    atomic_of_ok fun _ => ⟨_, rfl⟩

lemma atomic_checkHeaderAndUpdateState {me : ClientState} {consensusState : ConsensusState}
    {wasmHeader : WasmHeader} :
    Atomic (checkHeaderAndUpdateState H env me consensusState wasmHeader) :=
  atomic_lift_bind fun _ _ => atomic_lift_bind fun _ _ => atomic_lift_bind fun _ _ =>
    atomic_lift_bind fun _ _ => atomic_of_ok fun _ => ⟨_, rfl⟩

lemma atomic_upgrade (u : Upgrade) : Atomic (handle H env u.msg) := by
  refine atomic_lift_bind fun _ _ => atomic_lift_bind fun _ _ => atomic_lift_bind fun _ _ =>
    atomic_lift_bind fun _ _ => atomic_lift_bind fun _ _ => atomic_lift_bind fun _ _ =>
    atomic_lift_bind fun _ _ => atomic_lift_bind fun _ _ => ?_
  exact atomic_lift_bind fun _ _ => atomic_lift_bind fun _ _ => atomic_lift_bind fun _ _ =>
    atomic_lift_bind fun _ _ => atomic_lift_bind fun _ _ => atomic_of_ok fun _ => ⟨_, rfl⟩

lemma keeps_checkSubstituteClientState {me substituteClientState : ClientState}
    {subjectConsensusState : ConsensusState} {initialHeight : Height} :
    Keeps (recorded height) (checkSubstituteClientState H env me substituteClientState
      subjectConsensusState initialHeight) := by
  have hcopy (revisionNumber : UInt64) (heights : List UInt64) :
      Keeps (recorded height) (copyConsensusStates H env revisionNumber heights) :=
    fun storage => by
    rw [copyConsensusStates_exec]
    induction heights generalizing storage with
    | nil => rfl
    | cons i heights ih => exact (ih _).trans recorded_copied
  refine keeps_lift_bind fun _ _ => keeps_lift_bind fun _ _ => keeps_lift_bind fun _ _ =>
    keeps_lift_bind fun _ _ => keeps_lift_bind fun _ _ => keeps_lift_bind fun _ _ => ?_
  refine Keeps.bind (hcopy _ _) fun _ => Keeps.bind (fun _ => rfl) fun _ => ?_
  exact keeps_lift_bind fun _ _ => keeps_lift

/-- A message either succeeds and records the block for its height, or leaves what is stored for
every height as it is. -/
inductive Effect (H : Host) (env : Env) (msg : HandleMsg) (storage : Storage) :
    Outcome StdError HandleResponse → Storage → Prop
  | records (response : HandleResponse) (height : Height) :
      recordedHeight msg = some height →
      Effect H env msg storage (.ok response) (withConsensusMeta H env EMPTY_PREFIX height storage)
  | fails (e : Fault StdError) (storage' : Storage) :
      (∀ height, recorded height storage' = recorded height storage) →
      Effect H env msg storage (.error e) storage'
  | other (response : HandleResponse) (storage' : Storage) :
      recordedHeight msg = none →
      (∀ height, recorded height storage' = recorded height storage) →
      Effect H env msg storage (.ok response) storage'

lemma effect_of_atomic {msg : HandleMsg} (hatomic : Atomic (handle H env msg))
    (hok : ∀ response storage', exec (handle H env msg) storage = (.ok response, storage') →
      Effect H env msg storage (.ok response) storage') :
    Effect H env msg storage (exec (handle H env msg) storage).1
      (exec (handle H env msg) storage).2 := by
  rcases hexec : exec (handle H env msg) storage with ⟨e | response, storage'⟩
  · have hs := (hatomic storage).resolve_left (by simp [hexec])
    rw [hexec] at hs
    obtain rfl : storage' = storage := hs
    exact .fails e storage' fun _ => rfl
  · exact hok response storage' hexec

lemma effect_upgrade (u : Upgrade) :
    Effect H env u.msg storage (exec (handle H env u.msg) storage).1
      (exec (handle H env u.msg) storage).2 :=
  effect_of_atomic (atomic_upgrade u) fun response _ hexec => by
    obtain ⟨d, hd, -, -, -, rfl⟩ := verifyUpgradeAndUpdateState_eq_ok.mp hexec
    exact .records response d.newHeight hd.newHeight_eq

/-- **The effect of a message** on what is stored for the heights. -/
theorem handle_effect (H : Host) (env : Env) (storage : Storage) (msg : HandleMsg) :
    Effect H env msg storage (exec (handle H env msg) storage).1
      (exec (handle H env msg) storage).2 := by
  have hlift (x : Outcome StdError HandleResponse) (hnone : recordedHeight msg = none) :
      Effect H env msg storage x storage := by
    rcases x with e | response
    · exact .fails e storage fun _ => rfl
    · exact .other response storage hnone fun _ => rfl
  cases msg with
  | InitializeState consensusState me =>
    refine effect_of_atomic atomic_initContract fun response storage' hexec => ?_
    obtain ⟨snapshot, height, hinit, -, rfl⟩ := initContract_eq_ok.mp hexec
    exact .records response height hinit.height_eq
  | CheckHeaderAndUpdateState header consensusState me =>
    refine effect_of_atomic atomic_checkHeaderAndUpdateState fun response storage' hexec => ?_
    obtain ⟨_, _, _, _, -, -, rfl⟩ := checkHeaderAndUpdateState_eq_ok.mp hexec
    exact .records response header.height rfl
  | VerifyUpgradeAndUpdateState me newClientState newConsensusState clientUpgradeProof
      consensusStateUpgradeProof lastHeightConsensusState =>
    exact effect_upgrade ⟨me, newClientState, newConsensusState, clientUpgradeProof,
      consensusStateUpgradeProof, lastHeightConsensusState⟩
  | CheckMisbehaviourAndUpdateState me misbehaviour consensusState₁ consensusState₂ =>
    exact hlift _ rfl
  | CheckSubstituteAndUpdateState me substituteClientState subjectConsensusState initialHeight =>
    have hkeeps (height : Height) : recorded height (exec (checkSubstituteClientState H env me
        substituteClientState subjectConsensusState initialHeight) storage).2 =
        recorded height storage := keeps_checkSubstituteClientState storage
    rw [handle]
    rcases hexec : exec (checkSubstituteClientState H env me substituteClientState
      subjectConsensusState initialHeight) storage with ⟨e | response, storage'⟩ <;>
      rw [hexec] at hkeeps
    · exact .fails e storage' hkeeps
    · exact .other response storage' rfl hkeeps
  | ZeroCustomFields me => exact hlift _ rfl

lemma recorded_of_not_records (hstep : CallStep H storage c storage')
    (hc : ¬ RecordsHeight height c) : recorded height storage' = recorded height storage := by
  have heffect := handle_effect H c.env storage c.msg
  unfold CallStep at hstep
  split at hstep
  · next hsucceeded =>
    obtain ⟨response, hexec⟩ := hstep
    rw [hexec] at heffect
    cases heffect with
    | records _ height' hheight =>
      refine recorded_of_ne fun heq => hc ⟨hsucceeded, ?_⟩
      rw [hheight, heq]
    | other _ _ _ hkept => exact hkept height
  · obtain ⟨e, t, hexec, rfl | rfl⟩ := hstep
    · rfl
    · rw [hexec] at heffect
      cases heffect with
      | fails _ _ hkept => exact hkept height

lemma recorded_of_records (hstep : CallStep H storage c storage') (hc : RecordsHeight height c) :
    recorded height storage' = recordOf H c.env := by
  obtain ⟨hsucceeded, hheight⟩ := hc
  have heffect := handle_effect H c.env storage c.msg
  unfold CallStep at hstep
  rw [if_pos hsucceeded] at hstep
  obtain ⟨response, hexec⟩ := hstep
  rw [hexec] at heffect
  cases heffect with
  | records _ height' hheight' =>
    obtain rfl := Option.some.inj (hheight.symm.trans hheight')
    exact recorded_self
  | other _ _ hnone _ => simp [hheight] at hnone

/-! ### The delay -/

/-- What is written to the store can be read. -/
structure ReadsBack (H : Host) : Prop where
  time : ∀ n : UInt64, H.fromSliceU64 (H.toVec (.num n.toNat)) = .ok n
  height : ∀ height : Height, H.fromSliceHeight (H.toVec height.json) = .ok height

variable {t b dt db : UInt64}

lemma verifyDelayPeriodPassed_congr (h : recorded height storage' = recorded height storage) :
    verifyDelayPeriodPassed H storage' height b t dt db =
      verifyDelayPeriodPassed H storage height b t dt db := by
  obtain ⟨htime, hheight⟩ := Prod.ext_iff.mp h
  simp only [recorded] at htime hheight
  simp only [verifyDelayPeriodPassed, getProcessedTime, getProcessedHeight, htime, hheight]

lemma verifyDelayPeriodPassed_ne_ok (h : recorded height storage = (none, none)) :
    verifyDelayPeriodPassed H storage height b t dt db ≠ .ok () := by
  have htime : storage (processedTimeKey EMPTY_PREFIX height) = none := congrArg Prod.fst h
  rw [verifyDelayPeriodPassed, getProcessedTime, htime]
  exact fail_ne_ok _ _

lemma getSelfHeight_lt {a b x : UInt64} :
    getSelfHeight a < ⟨(getSelfHeight b).revisionNumber, x⟩ ↔ a < x := by
  change (getSelfHeight a).cmp ⟨0, x⟩ = .lt ↔ a < x
  unfold Height.cmp getSelfHeight
  by_cases h : a < x
  · simp [h]
  · by_cases h' : x < a <;> simp [h, h']

/-- The delays count from the block, as numbers without bound: where a sum overflows, the check
aborts. -/
structure CountsFrom (H : Host) (storage : Storage) (height : Height) (env : Env) : Prop where
  passes : ∀ b t dt db, verifyDelayPeriodPassed H storage height b t dt db = .ok () ↔
    env.time.toNat + dt.toNat ≤ t.toNat ∧ env.height.toNat + db.toNat ≤ b.toNat
  time_overflows : ∀ b t dt db, 2 ^ 64 ≤ env.time.toNat + dt.toNat →
    verifyDelayPeriodPassed H storage height b t dt db = abort
  height_overflows : ∀ b t dt db, env.time.toNat + dt.toNat ≤ t.toNat →
    2 ^ 64 ≤ env.height.toNat + db.toNat →
    verifyDelayPeriodPassed H storage height b t dt db = abort

lemma countsFrom_of_recorded (hreads : ReadsBack H) (h : recorded height storage = recordOf H env) :
    CountsFrom H storage height env := by
  obtain ⟨htime, hheight⟩ := Prod.ext_iff.mp h
  simp only [recorded, recordOf] at htime hheight
  constructor <;> intro b t dt db <;>
    simp only [verifyDelayPeriodPassed, getProcessedTime, getProcessedHeight, htime, hheight,
      mustDeserialize, hreads.time, hreads.height, ofExcept_ok, ok_bind]
  · simp only [bind_eq_ok, ensure_eq_ok, add_eq_ok, getSelfHeight_lt, UInt64.not_lt,
      UInt64.le_iff_toNat_le]
    constructor
    · rintro ⟨validTime, hvalid, _, htime, validHeight, hheight, hle⟩
      change validHeight.toNat = env.height.toNat + db.toNat at hheight
      omega
    · rintro ⟨htime, hheight⟩
      have hsum := add_eq_ok.mp (add_of_lt (ε := StdError) (htime.trans_lt t.toNat_lt))
      have hsum' := add_eq_ok.mp (add_of_lt (ε := StdError) (hheight.trans_lt b.toNat_lt))
      exact ⟨_, hsum, (), hsum ▸ htime, _, hsum', hsum' ▸ hheight⟩
  · intro hover
    rw [add_of_le hover, abort_bind]
  · intro htime hover
    have hsum := add_of_lt (ε := StdError) (htime.trans_lt t.toNat_lt)
    have hle : env.time + dt ≤ t := by
      rw [UInt64.le_iff_toNat_le, add_eq_ok.mp hsum]
      exact htime
    rw [hsum, ok_bind, ensure_of hle, ok_bind]
    exact congrArg (· >>= _) (add_of_le hover)

namespace Reference

lemma readsBack (proofs : List (MerkleProof ics23)) : ReadsBack (host proofs) where
  time n := by rw [host_fromSliceU64, host_toVec, fromSliceU64_toVec]
  height height := by rw [host_fromSliceHeight, host_toVec, fromSliceHeight_toVec]

/-- Height 7 is recorded in block 1, and height 8 in block 2. -/
def firstCall : Call := ⟨⟨1, 100⟩, .InitializeState trusted (client ⟨0, 7⟩), true⟩

def secondCall : Call :=
  ⟨⟨2, 100⟩, .CheckHeaderAndUpdateState (wasmHeader ⟨0, 8⟩ header₈) trusted (client ⟨0, 7⟩), true⟩

lemma firstCall_step :
    CallStep (host []) storage firstCall
      (withConsensusMeta (host []) ⟨1, 100⟩ EMPTY_PREFIX ⟨0, 7⟩ storage) :=
  ⟨_, initContract_eq_ok.mpr ⟨_, _, trusted_initializes _, rfl, rfl⟩⟩

lemma secondCall_step :
    CallStep (host []) storage secondCall
      (withConsensusMeta (host []) ⟨2, 100⟩ EMPTY_PREFIX ⟨0, 8⟩ storage) := by
  obtain ⟨state, hupdates⟩ := header₈_updates 2 ⟨0, 8⟩ ⟨0, 7⟩
  exact ⟨_, checkHeaderAndUpdateState_eq_ok.mpr ⟨_, _, _, _, hupdates, rfl, rfl⟩⟩

lemma twoCalls : ∃ s t, Trace (CallStep (host [])) (fun _ => none)
    [(firstCall, s), (secondCall, t)] :=
  ⟨_, _, .cons firstCall_step (.cons secondCall_step (.nil _))⟩

end Reference

/-- **Delays over runs.** In whatever state a run from the empty store ends, a height that no call
has recorded is never ripe, and for any other the delays count from the block of the last call that
recorded it. A call that does not record the height makes no difference to it. -/
theorem delay_enforced (hreads : ReadsBack H) (h : Trace (CallStep H) (fun _ => none) l)
    (height : Height) :
    ((∀ x ∈ l, ¬ RecordsHeight height x.1) ∧ (∀ b t dt db,
        verifyDelayPeriodPassed H (final (fun _ => none) l) height b t dt db ≠ .ok ()) ∨
      ∃ l₁ x l₂, l = l₁ ++ x :: l₂ ∧ RecordsHeight height x.1 ∧
        (∀ y ∈ l₂, ¬ RecordsHeight height y.1) ∧
        CountsFrom H (final (fun _ => none) l) height x.1.env) ∧
    ∀ storage c storage', CallStep H storage c storage' → ¬ RecordsHeight height c → ∀ b t dt db,
      verifyDelayPeriodPassed H storage' height b t dt db =
        verifyDelayPeriodPassed H storage height b t dt db := by
  constructor
  · rcases h.last_write (recorded height) (RecordsHeight height)
      (fun _ _ _ hstep hc => recorded_of_not_records hstep hc) with
      ⟨hseen, hnone⟩ | ⟨l₁, x, l₂, rfl, hx, hstep, hnone, hseen⟩
    · exact .inl ⟨hnone, fun b t dt db => verifyDelayPeriodPassed_ne_ok hseen⟩
    · exact .inr ⟨l₁, x, l₂, rfl, hx, hnone,
        countsFrom_of_recorded hreads (hseen.trans (recorded_of_records hstep hx))⟩
  · exact fun storage c storage' hstep hc b t dt db =>
      verifyDelayPeriodPassed_congr (recorded_of_not_records hstep hc)

/-- After both calls, a delay of 10 seconds and 2 blocks for height 7 has passed in block 3 at time
110. -/
theorem delay_enforced_seven :
    ∃ l, Trace (CallStep (Reference.host [])) (fun _ => none) l ∧ verifyDelayPeriodPassed
      (Reference.host []) (final (fun _ => none) l) ⟨0, 7⟩ 3 110 10 2 = .ok () := by
  obtain ⟨s, t, htrace⟩ := Reference.twoCalls
  refine ⟨_, htrace, ?_⟩
  have hfirst : RecordsHeight ⟨0, 7⟩ Reference.firstCall := ⟨rfl, rfl⟩
  rcases (delay_enforced (Reference.readsBack []) htrace ⟨0, 7⟩).1 with
    ⟨hnone, -⟩ | ⟨l₁, x, l₂, hl, hx, -, hcounts⟩
  · exact absurd hfirst (hnone _ List.mem_cons_self)
  · have hmem : x ∈ [(Reference.firstCall, s), (Reference.secondCall, t)] := by simp [hl]
    rcases List.mem_pair.mp hmem with rfl | rfl
    · exact (hcounts.passes 3 110 10 2).mpr ⟨show 100 + 10 ≤ 110 by decide,
        show 1 + 2 ≤ 3 by decide⟩
    · -- the second call records another height
      have hheight : (⟨0, 8⟩ : Height) = ⟨0, 7⟩ := Option.some.inj hx.2
      exact absurd hheight (by decide)

end CeloLightClient.Contract

import CeloLightClient.Contract.Reference

/-!
Whether a client may be recovered by a substitute.

A client that has expired is recovered if its configuration allows that; the same is meant for one
that has been frozen, where the flag is read the wrong way round.
-/

namespace CeloLightClient.Contract

open Lib Lib.Outcome Lib.Action

variable {H : Host} {env : Env} {storage storage' : Storage}
  {me substituteClientState : ClientState} {subjectConsensusState : ConsensusState}
  {initialHeight : Height} {response : HandleResponse} {light : LightClientState}

/-! ### The copied consensus states -/

/-- The store after the substitute's consensus state at the height is copied. -/
def copied (H : Host) (env : Env) (storage : Storage) (height : Height) : Storage :=
  withConsensusMeta H env SUBJECT_PREFIX height
    (match storage (consensusStateKey SUBSTITUTE_PREFIX height) with
    | some vec => Function.update storage (consensusStateKey SUBJECT_PREFIX height)
        (some (H.toVec (.bytes vec)))
    | none => storage)

lemma copied_of_ne {height : Height} {key : Bytes}
    (h : ∀ suffix, EndsNumber suffix.toList → key ≠ utf8 (keyText SUBJECT_PREFIX height suffix)) :
    copied H env storage height key = storage key := by
  have hheight : key ≠ processedHeightKey SUBJECT_PREFIX height := by
    rw [processedHeightKey_eq]
    exact h _ (by simp)
  have htime : key ≠ processedTimeKey SUBJECT_PREFIX height := by
    rw [processedTimeKey_eq]
    exact h _ (by simp)
  have hstate : key ≠ consensusStateKey SUBJECT_PREFIX height := by
    rw [consensusStateKey_eq]
    exact h _ (by simp)
  rw [copied, withConsensusMeta_of_ne hheight htime]
  cases storage (consensusStateKey SUBSTITUTE_PREFIX height) with
  | some vec => exact Function.update_of_ne hstate ..
  | none => rfl

lemma copyConsensusStates_exec (revisionNumber : UInt64) (heights : List UInt64)
    (storage : Storage) :
    exec (copyConsensusStates H env revisionNumber heights) storage =
      (.ok (), heights.foldl (fun storage i => copied H env storage ⟨revisionNumber, i⟩)
        storage) := by
  induction heights generalizing storage with
  | nil => rfl
  | cons i heights ih =>
    rw [List.foldl_cons, ← ih, copyConsensusStates, exec_get_bind, copied, getConsensusState]
    cases storage (consensusStateKey SUBSTITUTE_PREFIX ⟨revisionNumber, i⟩) with
    | some vec => rfl
    | none => rfl

lemma rangeU64_succ {a b : UInt64} (h : b.toNat = a.toNat + 1) : rangeU64 a b = [a] := by
  rw [rangeU64, h, Nat.add_sub_cancel_left]
  simp

lemma copyConsensusStates_one {last : UInt64}
    (h : (add initialHeight.revisionHeight 1 : Outcome StdError UInt64) = .ok last) :
    exec (copyConsensusStates H env initialHeight.revisionNumber
      (rangeU64 initialHeight.revisionHeight last)) storage =
      (.ok (), copied H env storage initialHeight) := by
  rw [rangeU64_succ (add_eq_ok.mp h), copyConsensusStates_exec]
  rfl

/-- What the subject has at a height once the substitute's state at `copiedHeight` is copied. -/
def subjectState (H : Host) (storage : Storage) (copiedHeight height : Height) : Option Bytes :=
  if height = copiedHeight then
    match storage (consensusStateKey SUBSTITUTE_PREFIX height) with
    | some vec => some (H.toVec (.bytes vec))
    | none => storage (consensusStateKey SUBJECT_PREFIX height)
  else storage (consensusStateKey SUBJECT_PREFIX height)

lemma copied_consensusStateKey (copiedHeight height : Height) :
    copied H env storage copiedHeight (consensusStateKey SUBJECT_PREFIX height) =
      subjectState H storage copiedHeight height := by
  unfold copied subjectState
  rw [withConsensusMeta_consensusStateKey]
  by_cases h : height = copiedHeight
  · subst h
    rw [if_pos rfl]
    cases storage (consensusStateKey SUBSTITUTE_PREFIX height) <;> simp
  · rw [if_neg h]
    have hne : consensusStateKey SUBJECT_PREFIX height ≠
        consensusStateKey SUBJECT_PREFIX copiedHeight := fun hk => h (consensusStateKey_inj.mp hk)
    cases storage (consensusStateKey SUBSTITUTE_PREFIX copiedHeight) <;>
      simp [Function.update_of_ne hne]

/-! ### When a substitution succeeds -/

/-- The substitute stands at the initial height, and is configured as the subject is. -/
structure Comparable (H : Host) (me substituteClientState : ClientState) (initialHeight : Height)
    (light : LightClientState) : Prop where
  latestHeight_eq : substituteClientState.latestHeight = some initialHeight
  subject_eq : fromBase64Rlp H (LightClientState.fromRlp H.rlp) me.data
    "msg.light_subject_client_state" = .ok light
  substitute_eq : fromBase64Rlp H (LightClientState.fromRlp H.rlp) substituteClientState.data
    "msg.light_substitute_client_state" = .ok light

/-- Once the substitute's state is copied, the subject's latest one can be read, and has not
expired. -/
def Fresh (H : Host) (env : Env) (storage : Storage) (me : ClientState) (initialHeight : Height)
    (light : LightClientState) : Prop :=
  ∃ height bytes state snapshot, me.latestHeight = some height ∧
    subjectState H storage initialHeight height = some bytes ∧
    H.decodePartialConsensusState bytes = some state ∧
    Snapshot.fromRlp H.rlp state.data = .ok snapshot ∧
    isExpired env.time snapshot.timestamp light = .ok false

/-- What a substitution returns. -/
def recoveredResponse (H : Host) (newClientState : ClientState) : HandleResponse where
  attributes := [("action", "check_substitute_and_update_state")]
  data := some (H.toVec (.obj [("result", ClientStateCallResponseResult.success.json),
    ("new_client_state", newClientState.json)]))

lemma getConsensusState_eq_ok {pre : String} {height : Height} {bytes : Bytes} :
    getConsensusState storage pre height = .ok bytes ↔
      storage (consensusStateKey pre height) = some bytes := by
  unfold getConsensusState
  split <;> simp [*]

lemma checkUpdatedSubject_eq_ok {u : Unit} :
    checkUpdatedSubject H env.time me light (copied H env storage initialHeight) = .ok u ↔
      Fresh H env storage me initialHeight light := by
  simp only [checkUpdatedSubject, bind_eq_ok, unwrap_eq_ok, ofExcept_eq_ok, mapErr_eq_ok,
    getConsensusState_eq_ok, copied_consensusStateKey, ensure_eq_ok]
  constructor
  · rintro ⟨height, h, bytes, hbytes, state, hstate, snapshot, hsnapshot, _, hexpired, rfl⟩
    exact ⟨height, bytes, state, snapshot, h, hbytes, hstate, hsnapshot, hexpired⟩
  · rintro ⟨height, bytes, state, snapshot, h, hbytes, hstate, hsnapshot, hexpired⟩
    exact ⟨height, h, bytes, hbytes, state, hstate, snapshot, hsnapshot, false, hexpired, rfl⟩

lemma checkHeights_eq_ok {latestHeight : Height} :
    checkHeights me substituteClientState initialHeight = .ok latestHeight ↔
      substituteClientState.latestHeight = some initialHeight ∧ latestHeight = initialHeight := by
  rw [checkHeights]
  rcases substituteClientState.latestHeight with _ | height
  · simp
  · rw [unwrap_some, ok_bind]
    split
    · next hne => simp [bind_eq_ok, genericErr, hne]
    · next heq =>
      obtain rfl := not_not.mp heq
      simp [eq_comm]

lemma Comparable.heights_eq (hc : Comparable H me substituteClientState initialHeight light) :
    checkHeights me substituteClientState initialHeight = .ok initialHeight :=
  checkHeights_eq_ok.mpr ⟨hc.latestHeight_eq, rfl⟩

/-- **When a substitution succeeds.** -/
theorem checkSubstituteClientState_eq_ok :
    exec (checkSubstituteClientState H env me substituteClientState subjectConsensusState
        initialHeight) storage = (.ok response, storage') ↔
      ∃ light newClientState, Comparable H me substituteClientState initialHeight light ∧
        recoveredClientState env.time me subjectConsensusState light = .ok newClientState ∧
        initialHeight.revisionHeight.toNat + 1 < 2 ^ 64 ∧
        Fresh H env storage me initialHeight light ∧
        response = recoveredResponse H { newClientState with latestHeight := some initialHeight } ∧
        storage' = copied H env storage initialHeight := by
  constructor
  · intro h
    unfold checkSubstituteClientState at h
    obtain ⟨latestHeight, hheights, h⟩ := exec_lift_bind_eq_ok.mp h
    obtain ⟨hlatest, rfl⟩ := checkHeights_eq_ok.mp hheights
    obtain ⟨light, hlight, h⟩ := exec_lift_bind_eq_ok.mp h
    obtain ⟨light', hlight', h⟩ := exec_lift_bind_eq_ok.mp h
    obtain ⟨_, heq, h⟩ := exec_lift_bind_eq_ok.mp h
    obtain rfl := ensure_eq_ok.mp heq
    obtain ⟨newClientState, hnew, h⟩ := exec_lift_bind_eq_ok.mp h
    obtain ⟨last, hlast, h⟩ := exec_lift_bind_eq_ok.mp h
    obtain ⟨_, t, hcopy, h⟩ := exec_bind_eq_ok.mp h
    rw [copyConsensusStates_one hlast] at hcopy
    cases hcopy
    rw [exec_get_bind] at h
    obtain ⟨_, hfresh, h⟩ := exec_lift_bind_eq_ok.mp h
    rw [exec_lift] at h
    cases h
    have hlt := last.toNat_lt
    rw [add_eq_ok.mp hlast] at hlt
    exact ⟨_, newClientState, ⟨hlatest, hlight, hlight'⟩, hnew, hlt,
      checkUpdatedSubject_eq_ok.mp hfresh, rfl, rfl⟩
  · rintro ⟨light, newClientState, hc, hnew, hlt, hfresh, rfl, rfl⟩
    have hlast : (add initialHeight.revisionHeight 1 : Outcome StdError UInt64) =
        .ok (initialHeight.revisionHeight + 1) := add_of_lt hlt
    have hcheck : checkUpdatedSubject H env.time me light (copied H env storage initialHeight) =
        .ok () := checkUpdatedSubject_eq_ok.mpr hfresh
    rw [checkSubstituteClientState, exec_lift_bind_of_ok hc.heights_eq,
      exec_lift_bind_of_ok hc.subject_eq, exec_lift_bind_of_ok hc.substitute_eq,
      exec_lift_bind_of_ok (ensure_of rfl), exec_lift_bind_of_ok hnew, exec_lift_bind_of_ok hlast]
    refine exec_bind_eq_ok.mpr ⟨(), _, copyConsensusStates_one hlast, ?_⟩
    rw [exec_get_bind, exec_lift_bind_of_ok hcheck, exec_lift]
    rfl

/-! ### Who may be recovered -/

/-- The client is frozen, and it is known since when. -/
abbrev FrozenAtHeight (me : ClientState) : Prop := me.frozen = true ∧ me.frozenHeight.isSome = true

def notUnfrozen : StdError := .GenericErr "client is not allowed to be unfrozen"

/-- A frozen client is recovered, and an expired one, if and only if its configuration allows
that. -/
structure Authorised (H : Host) (env : Env) (storage : Storage)
    (me substituteClientState : ClientState) (subjectConsensusState : ConsensusState)
    (initialHeight : Height) : Prop where
  permitted : ∀ response storage', exec (checkSubstituteClientState H env me substituteClientState
      subjectConsensusState initialHeight) storage = (.ok response, storage') →
    ∃ light, fromBase64Rlp H (LightClientState.fromRlp H.rlp) me.data
        "msg.light_subject_client_state" = .ok light ∧
      (FrozenAtHeight me → light.allowUpdateAfterMisbehavior = true) ∧
      (¬ FrozenAtHeight me → subjectConsensusState.timestamp.toNat + light.trustingPeriod.toNat <
        env.time.toNat → light.allowUpdateAfterExpiry = true)
  notRefused : me.frozen = true → ∀ light, fromBase64Rlp H (LightClientState.fromRlp H.rlp) me.data
      "msg.light_subject_client_state" = .ok light → light.allowUpdateAfterMisbehavior = true →
    (exec (checkSubstituteClientState H env me substituteClientState subjectConsensusState
      initialHeight) storage).1 ≠ fail notUnfrozen

/-- The subject is frozen, and it is the flag that decides whether it is recovered: it is set, or
nothing else is in the way. -/
def Misjudged (H : Host) (env : Env) (storage : Storage) (me substituteClientState : ClientState)
    (initialHeight : Height) : Prop :=
  FrozenAtHeight me ∧ ∃ light, Comparable H me substituteClientState initialHeight light ∧
    (light.allowUpdateAfterMisbehavior = true ∨
      initialHeight.revisionHeight.toNat + 1 < 2 ^ 64 ∧ Fresh H env storage me initialHeight light)

lemma recoveredClientState_of_frozen {now : UInt64} (h : FrozenAtHeight me) :
    recoveredClientState now me subjectConsensusState light =
      if light.allowUpdateAfterMisbehavior then fail notUnfrozen
      else .ok { me with frozen := false, frozenHeight := none } := by
  unfold recoveredClientState notUnfrozen
  rw [if_pos h]
  cases light.allowUpdateAfterMisbehavior <;> rfl

/-- Of a client that is not frozen, the flag for expiry is read the right way. -/
lemma recoveredClientState_of_not_frozen {now : UInt64} {newClientState : ClientState}
    (h : ¬ FrozenAtHeight me)
    (hok : recoveredClientState now me subjectConsensusState light = .ok newClientState)
    (hexpired : subjectConsensusState.timestamp.toNat + light.trustingPeriod.toNat < now.toNat) :
    light.allowUpdateAfterExpiry = true := by
  unfold recoveredClientState at hok
  rw [if_neg h] at hok
  obtain ⟨expired, hexp, hok⟩ := bind_eq_ok.mp hok
  obtain ⟨limit, hlimit, hexp⟩ := bind_eq_ok.mp hexp
  have htrue : expired = true := by
    cases hexp
    rw [decide_eq_true_iff, UInt64.lt_iff_toNat_lt, add_eq_ok.mp hlimit]
    exact hexpired
  obtain ⟨_, hallow, -⟩ := bind_eq_ok.mp hok
  rw [htrue, if_pos rfl] at hallow
  simpa using hallow

lemma isExpired_ne_fail {now latestTimestamp : UInt64} {e : StdError} :
    isExpired now latestTimestamp light ≠ fail e := by
  simp [isExpired, bind_eq_fail]

lemma recoveredClientState_ne_notUnfrozen {now : UInt64} (h : ¬ FrozenAtHeight me) :
    recoveredClientState now me subjectConsensusState light ≠ fail notUnfrozen := by
  unfold recoveredClientState
  rw [if_neg h]
  intro hfail
  obtain hfail | ⟨expired, -, hfail⟩ := bind_eq_fail.mp hfail
  · exact isExpired_ne_fail hfail
  · obtain hfail | ⟨_, -, hfail⟩ := bind_eq_fail.mp hfail
    · cases expired <;> simp [ensure_eq_fail, notUnfrozen] at hfail
    · simp at hfail

lemma fromBase64Rlp_ne_notUnfrozen {α : Type} {fromRlp : Bytes → Outcome Error α}
    {data target : String} : fromBase64Rlp H fromRlp data target ≠ fail notUnfrozen := by
  simp [fromBase64Rlp, fromBase64, notUnfrozen, bind_eq_fail, mapErr_eq_fail]

lemma decodeWith_eq_fail {α : Type} {decode : Bytes → Outcome Rlp.DecoderError α} {bytes : Bytes}
    {e : Error} (h : decodeWith decode bytes = fail e) : e.kind = .RlpDecodeError := by
  obtain ⟨_, -, rfl⟩ := mapErr_eq_fail.mp h
  rfl

lemma toGenericErr_ne_notUnfrozen {e : Error} (h : e.kind = .RlpDecodeError) :
    toGenericErr (H.errorToString e) ≠ notUnfrozen := by
  intro heq
  have hdisplay : H.errorToString e = "rlp decode error" ++ H.sourceToString e.source := by
    unfold Host.errorToString
    rw [h]
    rfl
  have htext := congrArg String.toList (hdisplay.symm.trans (StdError.GenericErr.inj heq))
  simp at htext

lemma checkUpdatedSubject_ne_notUnfrozen {now : UInt64} :
    checkUpdatedSubject H now me light storage ≠ fail notUnfrozen := by
  intro hfail
  unfold checkUpdatedSubject at hfail
  rw [bind_eq_fail] at hfail
  obtain hfail | ⟨height, -, hfail⟩ := hfail
  · exact unwrap_ne_fail _ _ hfail
  rw [bind_eq_fail] at hfail
  obtain hfail | ⟨bytes, -, hfail⟩ := hfail
  · rw [getConsensusState] at hfail
    split at hfail <;> simp [notUnfrozen] at hfail
  rw [bind_eq_fail] at hfail
  obtain hfail | ⟨state, -, hfail⟩ := hfail
  · exact unwrap_ne_fail _ _ hfail
  rw [bind_eq_fail] at hfail
  obtain hfail | ⟨snapshot, -, hfail⟩ := hfail
  · obtain ⟨e, he, hfail⟩ := mapErr_eq_fail.mp hfail
    exact toGenericErr_ne_notUnfrozen (decodeWith_eq_fail he) hfail
  rw [bind_eq_fail] at hfail
  obtain hfail | ⟨expired, -, hfail⟩ := hfail
  · exact isExpired_ne_fail hfail
  · simp [ensure_eq_fail, notUnfrozen] at hfail

lemma checkHeights_ne_notUnfrozen :
    checkHeights me substituteClientState initialHeight ≠ fail notUnfrozen := by
  intro hfail
  rw [checkHeights, bind_eq_fail] at hfail
  obtain hfail | ⟨latestHeight, -, hfail⟩ := hfail
  · exact unwrap_ne_fail _ _ hfail
  split at hfail
  · obtain hfail | ⟨_, -, hfail⟩ := bind_eq_fail.mp hfail
    · exact unwrap_ne_fail _ _ hfail
    · have htext := congrArg String.toList (StdError.GenericErr.inj (fail_inj.mp hfail))
      simp at htext
  · simp at hfail

lemma refused_of_allowed (hc : Comparable H me substituteClientState initialHeight light)
    (hf : FrozenAtHeight me) (hallow : light.allowUpdateAfterMisbehavior = true) :
    exec (checkSubstituteClientState H env me substituteClientState subjectConsensusState
      initialHeight) storage = (fail notUnfrozen, storage) := by
  rw [checkSubstituteClientState, exec_lift_bind_of_ok hc.heights_eq,
    exec_lift_bind_of_ok hc.subject_eq, exec_lift_bind_of_ok hc.substitute_eq,
    exec_lift_bind_of_ok (ensure_of rfl), exec_lift_bind_of_fail]
  rw [recoveredClientState_of_frozen hf, if_pos hallow]

lemma avoids_notUnfrozen (h : ∀ light, Comparable H me substituteClientState initialHeight light →
    ¬ FrozenAtHeight me) :
    Avoids notUnfrozen (checkSubstituteClientState H env me substituteClientState
      subjectConsensusState initialHeight) := by
  refine avoids_lift_bind checkHeights_ne_notUnfrozen fun latestHeight hheights => ?_
  obtain ⟨hlatest, rfl⟩ := checkHeights_eq_ok.mp hheights
  refine avoids_lift_bind fromBase64Rlp_ne_notUnfrozen fun light hlight => ?_
  refine avoids_lift_bind fromBase64Rlp_ne_notUnfrozen fun light' hlight' => ?_
  refine avoids_lift_bind (by simp [ensure_eq_fail, notUnfrozen]) fun _ heq => ?_
  obtain rfl := ensure_eq_ok.mp heq
  have hfrozen := h _ ⟨hlatest, hlight, hlight'⟩
  refine avoids_lift_bind (recoveredClientState_ne_notUnfrozen hfrozen) fun newClientState _ => ?_
  refine avoids_lift_bind (add_ne_fail _ _ _) fun last _ => ?_
  refine Avoids.bind (fun s => by simp [copyConsensusStates_exec]) fun _ => ?_
  refine Avoids.bind (fun s => by simp) fun storage => ?_
  exact avoids_lift_bind checkUpdatedSubject_ne_notUnfrozen fun _ _ =>
    avoids_lift (by simp [wrapResponse])

lemma not_authorised (h : Misjudged H env storage me substituteClientState initialHeight) :
    ¬ Authorised H env storage me substituteClientState subjectConsensusState initialHeight := by
  intro hauth
  obtain ⟨hf, light, hc, hmis⟩ := h
  by_cases hallow : light.allowUpdateAfterMisbehavior = true
  · refine hauth.notRefused hf.1 light hc.subject_eq hallow ?_
    rw [refused_of_allowed hc hf hallow]
  · obtain ⟨hlt, hfresh⟩ := hmis.resolve_left hallow
    have hnew : recoveredClientState env.time me subjectConsensusState light = .ok _ :=
      (recoveredClientState_of_frozen hf).trans (if_neg hallow)
    obtain ⟨light', hlight', hallow', -⟩ := hauth.permitted _ _
      (checkSubstituteClientState_eq_ok.mpr ⟨light, _, hc, hnew, hlt, hfresh, rfl, rfl⟩)
    obtain rfl := Except.ok.inj (hc.subject_eq.symm.trans hlight')
    exact hallow (hallow' hf)

/-- **Recovery is authorised** exactly where the flag for frozen clients does not decide. -/
theorem authorised_iff (H : Host) (env : Env) (storage : Storage)
    (me substituteClientState : ClientState) (subjectConsensusState : ConsensusState)
    (initialHeight : Height) :
    Authorised H env storage me substituteClientState subjectConsensusState initialHeight ↔
      ¬ Misjudged H env storage me substituteClientState initialHeight := by
  refine ⟨fun hauth h => not_authorised h hauth, fun h => ⟨?_, ?_⟩⟩
  · intro response storage' hexec
    obtain ⟨light, newClientState, hc, hnew, hlt, hfresh, -, -⟩ :=
      checkSubstituteClientState_eq_ok.mp hexec
    exact ⟨light, hc.subject_eq, fun hf => absurd ⟨hf, light, hc, .inr ⟨hlt, hfresh⟩⟩ h,
      fun hf => recoveredClientState_of_not_frozen hf hnew⟩
  · intro _ light hlight hallow
    refine avoids_notUnfrozen (fun light' hc hf => h ⟨hf, light', hc, .inl ?_⟩) storage
    obtain rfl := Except.ok.inj (hlight.symm.trans hc.subject_eq)
    exact hallow

namespace Reference

/-- A client that has been frozen, and a configuration that lets it be recovered. -/
def frozenClient : ClientState := { client ⟨0, 7⟩ with frozen := true, frozenHeight := some ⟨0, 7⟩ }

def lenient : LightClientState := { lightClient with allowUpdateAfterMisbehavior := true }

def lenientClient (me : ClientState) : ClientState :=
  { me with data := Base64.reference.encode (lenient.toRlp Rlp.reference) }

def storedState : PartialConsensusState := ⟨[], sealedStart.toRlp Rlp.reference⟩

/-- The host chain has stored the subject's latest consensus state. -/
def subjectStorage : Storage :=
  Function.update (fun _ => none) (consensusStateKey SUBJECT_PREFIX ⟨0, 7⟩)
    (some (encodePartialConsensusState storedState))

lemma storedState_read : (host []).decodePartialConsensusState
    (encodePartialConsensusState storedState) = some storedState := by
  decide +kernel

lemma fresh_subjectStorage :
    Fresh (host []) ⟨1, 100⟩ subjectStorage frozenClient ⟨0, 9⟩ lightClient := by
  have hstored : subjectState (host []) subjectStorage ⟨0, 9⟩ ⟨0, 7⟩ =
      some (encodePartialConsensusState storedState) :=
    (if_neg (by decide)).trans (Function.update_self ..)
  exact ⟨⟨0, 7⟩, _, storedState, sealedStart, rfl, hstored, storedState_read, sealedStart_read,
    lightClient_unexpired⟩

lemma frozenClient_misjudged :
    Misjudged (host []) ⟨1, 100⟩ subjectStorage frozenClient (client ⟨0, 9⟩) ⟨0, 9⟩ :=
  ⟨⟨rfl, rfl⟩, lightClient, ⟨rfl, lightClient_read ⟨0, 7⟩ _, lightClient_read ⟨0, 9⟩ _⟩,
    .inr ⟨by decide, fresh_subjectStorage⟩⟩

lemma lenient_read (target : String) :
    fromBase64Rlp (host []) (LightClientState.fromRlp Rlp.reference)
      (Base64.reference.encode (lenient.toRlp Rlp.reference)) target = .ok lenient :=
  fromBase64Rlp_encode (by decide +kernel) target

lemma lenientClient_misjudged (storage : Storage) :
    Misjudged (host []) ⟨1, 100⟩ storage (lenientClient frozenClient)
      (lenientClient (client ⟨0, 9⟩)) ⟨0, 9⟩ :=
  ⟨⟨rfl, rfl⟩, lenient, ⟨rfl, lenient_read _, lenient_read _⟩, .inl rfl⟩

end Reference

/-- A frozen client is recovered where that is not allowed, and refused where it is. -/
theorem frozen_misjudged :
    ¬ Authorised (Reference.host []) ⟨1, 100⟩ Reference.subjectStorage Reference.frozenClient
        (Reference.client ⟨0, 9⟩) Reference.trusted ⟨0, 9⟩ ∧
      ¬ Authorised (Reference.host []) ⟨1, 100⟩ (fun _ => none)
        (Reference.lenientClient Reference.frozenClient)
        (Reference.lenientClient (Reference.client ⟨0, 9⟩)) Reference.trusted ⟨0, 9⟩ :=
  ⟨not_authorised Reference.frozenClient_misjudged,
    not_authorised (Reference.lenientClient_misjudged _)⟩

end CeloLightClient.Contract

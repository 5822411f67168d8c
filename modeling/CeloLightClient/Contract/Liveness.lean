import CeloLightClient.Contract.Recovery

/-!
Whether a recovered client can be used.

The subject takes over the substitute's latest height, and the consensus state the substitute has
there. The code means to check that this state has not expired, but it looks at the subject's former
latest height; and what it has copied cannot be read, for it is written as a JSON array of bytes and
read as a protocol buffer.
-/

namespace CeloLightClient.Contract

open Lib Lib.Outcome Lib.Action

variable {H : Host} {env : Env} {storage storage' : Storage}
  {me substituteClientState : ClientState} {subjectConsensusState : ConsensusState}
  {initialHeight : Height} {response : HandleResponse} {light : LightClientState}

/-- What is stored is a consensus state that can be read back, and it has not expired. -/
def Live (H : Host) (env : Env) (light : LightClientState) (stored : Option Bytes) : Prop :=
  ∃ bytes state snapshot, stored = some bytes ∧
    H.decodePartialConsensusState bytes = some state ∧
    Snapshot.fromRlp H.rlp state.data = .ok snapshot ∧
    isExpired env.time snapshot.timestamp light = .ok false

/-- A client that is frozen or expired may be recovered, as the code understands its
configuration. -/
def Recoverable (env : Env) (me : ClientState) (subjectConsensusState : ConsensusState)
    (light : LightClientState) : Prop :=
  if FrozenAtHeight me then light.allowUpdateAfterMisbehavior = false
  else ∃ expired, isExpired env.time subjectConsensusState.timestamp light = .ok expired ∧
    (expired = true → light.allowUpdateAfterExpiry = true)

lemma recoverable_iff :
    Recoverable env me subjectConsensusState light ↔ ∃ newClientState,
      recoveredClientState env.time me subjectConsensusState light = .ok newClientState := by
  unfold Recoverable recoveredClientState
  split
  · simp only [bind_eq_ok, ensure_eq_ok, pure_eq_ok, Except.ok.injEq]
    exact ⟨fun h => ⟨_, (), h, rfl⟩, fun ⟨_, _, h, _⟩ => h⟩
  · simp only [bind_eq_ok, pure_eq_ok, Except.ok.injEq]
    constructor
    · rintro ⟨expired, hexpired, hallow⟩
      refine ⟨me, expired, hexpired, (), ?_, rfl⟩
      cases expired with
      | false => rfl
      | true => exact ensure_of (hallow rfl)
    · rintro ⟨_, expired, hexpired, _, hallow, -⟩
      refine ⟨expired, hexpired, ?_⟩
      rintro rfl
      exact ensure_eq_ok.mp hallow

/-- **A recovered client is live**: whenever a substitution succeeds, the state then stored for the
subject at its new latest height is. -/
def RecoversLive (H : Host) (env : Env) (storage : Storage)
    (me substituteClientState : ClientState) (subjectConsensusState : ConsensusState)
    (initialHeight : Height) : Prop :=
  ∀ response storage', exec (checkSubstituteClientState H env me substituteClientState
      subjectConsensusState initialHeight) storage = (.ok response, storage') →
    ∃ light newClientState height, fromBase64Rlp H (LightClientState.fromRlp H.rlp) me.data
        "msg.light_subject_client_state" = .ok light ∧
      response = recoveredResponse H newClientState ∧
      newClientState.latestHeight = some height ∧
      Live H env light (storage' (consensusStateKey SUBJECT_PREFIX height))

/-- The substitution goes through, and either there is something to copy, or the subject has no live
state of its own at the new height. -/
def LeftStale (H : Host) (env : Env) (storage : Storage) (me substituteClientState : ClientState)
    (subjectConsensusState : ConsensusState) (initialHeight : Height) : Prop :=
  ∃ light, Comparable H me substituteClientState initialHeight light ∧
    Recoverable env me subjectConsensusState light ∧
    initialHeight.revisionHeight.toNat + 1 < 2 ^ 64 ∧
    Fresh H env storage me initialHeight light ∧
    ((storage (consensusStateKey SUBSTITUTE_PREFIX initialHeight)).isSome ∨
      ¬ Live H env light (storage (consensusStateKey SUBJECT_PREFIX initialHeight)))

lemma not_live_bytes (hjson : ∀ b, H.decodePartialConsensusState (H.toVec (.bytes b)) = none)
    (b : Bytes) : ¬ Live H env light (some (H.toVec (.bytes b))) := by
  rintro ⟨bytes, state, snapshot, hbytes, hstate, -⟩
  rw [← Option.some.inj hbytes, hjson] at hstate
  cases hstate

lemma live_copied_iff (hjson : ∀ b, H.decodePartialConsensusState (H.toVec (.bytes b)) = none) :
    Live H env light (copied H env storage initialHeight
        (consensusStateKey SUBJECT_PREFIX initialHeight)) ↔
      storage (consensusStateKey SUBSTITUTE_PREFIX initialHeight) = none ∧
        Live H env light (storage (consensusStateKey SUBJECT_PREFIX initialHeight)) := by
  rw [copied_consensusStateKey, subjectState, if_pos rfl]
  cases storage (consensusStateKey SUBSTITUTE_PREFIX initialHeight) with
  | some vec => simp [not_live_bytes hjson]
  | none => simp

lemma recoveredResponse_inj (htoVec : Function.Injective H.toVec) {me me' : ClientState}
    (h : recoveredResponse H me = recoveredResponse H me') : me = me' := by
  have hdata := htoVec (Option.some.inj (congrArg HandleResponse.data h))
  simp only [Json.obj.injEq, List.cons.injEq, Prod.mk.injEq, true_and, and_true] at hdata
  exact ClientState.json_injective hdata

lemma not_recoversLive (htoVec : Function.Injective H.toVec)
    (hjson : ∀ b, H.decodePartialConsensusState (H.toVec (.bytes b)) = none)
    (h : LeftStale H env storage me substituteClientState subjectConsensusState initialHeight) :
    ¬ RecoversLive H env storage me substituteClientState subjectConsensusState initialHeight := by
  intro hlive
  obtain ⟨light, hc, hrec, hlt, hfresh, hstale⟩ := h
  obtain ⟨newClientState, hnew⟩ := recoverable_iff.mp hrec
  obtain ⟨light', newClientState', height, hlight, hresponse, hheight, h⟩ := hlive _ _
    (checkSubstituteClientState_eq_ok.mpr ⟨light, newClientState, hc, hnew, hlt, hfresh, rfl, rfl⟩)
  obtain rfl := Except.ok.inj (hc.subject_eq.symm.trans hlight)
  obtain rfl := recoveredResponse_inj htoVec hresponse
  obtain rfl := Option.some.inj hheight
  obtain ⟨hnone, hown⟩ := (live_copied_iff hjson).mp h
  rcases hstale with hsome | hstale
  · rw [hnone] at hsome
    exact Bool.false_ne_true hsome
  · exact hstale hown

/-- **A recovered client is live** exactly where nothing is copied and the subject has a live state
at the new height already. -/
theorem recoversLive_iff (H : Host) (htoVec : Function.Injective H.toVec)
    (hjson : ∀ b, H.decodePartialConsensusState (H.toVec (.bytes b)) = none) (env : Env)
    (storage : Storage) (me substituteClientState : ClientState)
    (subjectConsensusState : ConsensusState) (initialHeight : Height) :
    RecoversLive H env storage me substituteClientState subjectConsensusState initialHeight ↔
      ¬ LeftStale H env storage me substituteClientState subjectConsensusState initialHeight := by
  constructor
  · exact fun hlive h => not_recoversLive htoVec hjson h hlive
  · intro h response storage' hexec
    obtain ⟨light, newClientState, hc, hnew, hlt, hfresh, rfl, rfl⟩ :=
      checkSubstituteClientState_eq_ok.mp hexec
    refine ⟨light, _, initialHeight, hc.subject_eq, rfl, rfl, (live_copied_iff hjson).mpr ?_⟩
    have hnot : ¬ (_ ∨ _) := fun hstale =>
      h ⟨light, hc, recoverable_iff.mpr ⟨_, hnew⟩, hlt, hfresh, hstale⟩
    rw [not_or, not_not] at hnot
    exact ⟨Option.not_isSome_iff_eq_none.mp hnot.1, hnot.2⟩

namespace Reference

/-- A JSON array begins with the key of a field that a consensus state does not have. -/
lemma decode_bytes (b : Bytes) :
    decodePartialConsensusState (Json.toVec (.bytes b)) = none := by
  obtain ⟨rest, hrest⟩ : ∃ rest, Json.toVec (.bytes b) = 0x5b :: rest := ⟨_, utf8_ofList _⟩
  have hkey : readVarint (0x5b :: rest) = some (91, rest) := by
    rw [readVarint]
    exact if_pos (by decide)
  rw [hrest, decodePartialConsensusState, List.length_cons]
  simp only [readFields, hkey, Option.bind_eq_bind, Option.bind_some]
  cases readVarint rest with
  | none => rfl
  | some read => simp

lemma recoverable_trusted (height : Height) :
    Recoverable ⟨1, 100⟩ (client height) trusted lightClient := by
  unfold Recoverable
  rw [if_neg (by simp [client])]
  exact ⟨false, lightClient_unexpired, nofun⟩

lemma storedState_live :
    Live (host []) ⟨1, 100⟩ lightClient (some (encodePartialConsensusState storedState)) :=
  ⟨_, storedState, sealedStart, rfl, storedState_read, sealedStart_read, lightClient_unexpired⟩

/-- The subject has a live state at height 7, and the substitute one at height 9. -/
def recoveryStorage : Storage :=
  Function.update subjectStorage (consensusStateKey SUBSTITUTE_PREFIX ⟨0, 9⟩)
    (some (encodePartialConsensusState storedState))

lemma client_leftStale : LeftStale (host []) ⟨1, 100⟩ recoveryStorage (client ⟨0, 7⟩)
    (client ⟨0, 9⟩) trusted ⟨0, 9⟩ := by
  have hkey : consensusStateKey SUBJECT_PREFIX ⟨0, 7⟩ ≠
      consensusStateKey SUBSTITUTE_PREFIX ⟨0, 9⟩ := by decide
  have hstored : subjectState (host []) recoveryStorage ⟨0, 9⟩ ⟨0, 7⟩ =
      some (encodePartialConsensusState storedState) :=
    (if_neg (by decide)).trans ((Function.update_of_ne hkey ..).trans (Function.update_self ..))
  refine ⟨lightClient, ⟨rfl, lightClient_read ⟨0, 7⟩ _, lightClient_read ⟨0, 9⟩ _⟩,
    recoverable_trusted _, by decide, ?_, .inl ?_⟩
  · exact ⟨⟨0, 7⟩, _, storedState, sealedStart, rfl, hstored, storedState_read, sealedStart_read,
      lightClient_unexpired⟩
  · rw [recoveryStorage, Function.update_self]
    rfl

end Reference

/-- The subject takes over the substitute's height 9, where what it has stored cannot be read. -/
theorem recovered_not_live :
    ¬ RecoversLive (Reference.host []) ⟨1, 100⟩ Reference.recoveryStorage
        (Reference.client ⟨0, 7⟩) (Reference.client ⟨0, 9⟩) Reference.trusted ⟨0, 9⟩ :=
  not_recoversLive Json.toVec_injective Reference.decode_bytes Reference.client_leftStale

theorem recoversLive_iff_seven :
    RecoversLive (Reference.host []) ⟨1, 100⟩ Reference.subjectStorage
      (Reference.client ⟨0, 7⟩) (Reference.client ⟨0, 7⟩) Reference.trusted ⟨0, 7⟩ := by
  refine (recoversLive_iff _ Json.toVec_injective Reference.decode_bytes ..).mpr ?_
  rintro ⟨light, hc, -, -, -, hstale⟩
  obtain rfl := Except.ok.inj (hc.subject_eq.symm.trans (Reference.lightClient_read ⟨0, 7⟩ _))
  have hkey : consensusStateKey SUBSTITUTE_PREFIX ⟨0, 7⟩ ≠
      consensusStateKey SUBJECT_PREFIX ⟨0, 7⟩ := by decide
  rw [Reference.subjectStorage, Function.update_self, Function.update_of_ne hkey] at hstale
  exact hstale.elim Bool.false_ne_true (absurd Reference.storedState_live)

end CeloLightClient.Contract

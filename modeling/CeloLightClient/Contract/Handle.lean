import CeloLightClient.Contract.Merkle

/-!
The messages that change the client: they return its new state, and record in the store when and
at which height of the host chain they did so.
-/

namespace CeloLightClient.Contract

open Lib Lib.Outcome

inductive HandleMsg
  | InitializeState (consensusState : ConsensusState) (me : ClientState)
  | CheckHeaderAndUpdateState (header : WasmHeader) (consensusState : ConsensusState)
      (me : ClientState)
  | VerifyUpgradeAndUpdateState (me newClientState : ClientState)
      (newConsensusState : ConsensusState) (clientUpgradeProof consensusStateUpgradeProof : String)
      (lastHeightConsensusState : ConsensusState)
  | CheckMisbehaviourAndUpdateState (me : ClientState) (misbehaviour : Misbehaviour)
      (consensusState₁ consensusState₂ : ConsensusState)
  | CheckSubstituteAndUpdateState (me substituteClientState : ClientState)
      (subjectConsensusState : ConsensusState) (initialHeight : Height)
  | ZeroCustomFields (me : ClientState)

variable (H : Host)

def initContract (env : Env) (consensusState : ConsensusState) (me : ClientState) :
    Action Storage StdError HandleResponse := do
  let lightConsensusState ← fromBase64Rlp H (Snapshot.fromRlp H.rlp) consensusState.data
    "msg.initial_state_entry"
  let _ ← (mapErr (fun e => .GenericErr ("Initial state verification failed. Error: " ++
    H.errorToString e)) (lightConsensusState.verify H.toPlatform) : Outcome StdError Unit)
  let height ← (unwrap me.latestHeight : Outcome StdError Height)
  setConsensusMeta H env EMPTY_PREFIX height
  let responseData := H.toVec (.obj [("result", ClientStateCallResponseResult.success.json),
    ("me", me.json)])
  pure {
    attributes := [("action", "init_block"),
      ("last_consensus_state_height", toString lightConsensusState.number)]
    data := some responseData }

/-- Insert a header into a snapshot, which is returned as the insertion leaves it. -/
def ingest (config : StateConfig) (snapshot : Snapshot) (header : Header)
    (currentTimestamp : UInt64) : Outcome StdError Snapshot :=
  match (State.insertHeader H.toPlatform config header currentTimestamp).exec snapshot with
  | (.ok (), state) => .ok state
  | (.error (.err e), _) =>
    fail (.GenericErr ("Unable to ingest header. Error: " ++ H.errorToString e))
  | (.error .panic, _) => abort

def checkHeaderAndUpdateState (env : Env) (me : ClientState) (consensusState : ConsensusState)
    (wasmHeader : WasmHeader) : Action Storage StdError HandleResponse := do
  let currentTimestamp := env.time
  let header ← fromBase64Rlp H (Header.fromRlp H.rlp) wasmHeader.data "msg.header"
  let lightConsensusState ← fromBase64Rlp H (Snapshot.fromRlp H.rlp) consensusState.data
    "msg.light_consensus_state"
  let lightClientState ← fromBase64Rlp H (LightClientState.fromRlp H.rlp) me.data
    "msg.light_client_state"
  let state ← ingest H lightClientState.config lightConsensusState header currentTimestamp
  let newClientState := me
  let newConsensusState : ConsensusState := {
    codeId := consensusState.codeId
    data := H.base64.encode (state.toRlp H.rlp)
    timestamp := header.time
    root := ⟨H.base64.encode header.root.1⟩ }
  setConsensusMeta H env EMPTY_PREFIX wasmHeader.height
  let responseData := H.toVec (.obj [("new_client_state", newClientState.json),
    ("new_consensus_state", newConsensusState.json),
    ("result", ClientStateCallResponseResult.success.json)])
  pure {
    attributes := [("action", "update_block"),
      ("last_consensus_state_height", toString state.number)]
    data := some responseData }

/-- `current_timestamp` is past the end of the trusting period. -/
def isExpired (currentTimestamp latestTimestamp : UInt64) (lightClientState : LightClientState) :
    Outcome StdError Bool := do
  let limit ← add latestTimestamp lightClientState.trustingPeriod
  pure (limit < currentTimestamp)

/-- `a > b`; no height is less than any. -/
def laterThan : Option Height → Option Height → Bool
  | some a, some b => b < a
  | some _, none => true
  | none, _ => false

/-- `{:?}`. -/
def debugHeight : Option Height → String
  | some height => "Some(" ++ height.debug ++ ")"
  | none => "None"

def verifyUpgradeAndUpdateState (env : Env) (me newClientState : ClientState)
    (newConsensusState : ConsensusState) (clientUpgradeProof consensusStateUpgradeProof : String)
    (lastHeightConsensusState : ConsensusState) : Action Storage StdError HandleResponse := do
  let _ ← (ensure (laterThan newClientState.latestHeight me.latestHeight) (.GenericErr
    ("upgraded client height " ++ debugHeight newClientState.latestHeight ++
      " must be at greater than current client height " ++ debugHeight me.latestHeight)) :
      Outcome StdError Unit)
  let proofClient ← fromBase64JsonSlice H H.fromSliceMerkleProof clientUpgradeProof
    "msg.client_proof"
  let proofConsensus ← fromBase64JsonSlice H H.fromSliceMerkleProof consensusStateUpgradeProof
    "msg.consensus_proof"
  let root ← fromBase64 H lastHeightConsensusState.root.hash
    "msg.last_height_consensus_state.root"
  let currentTimestamp := env.time
  let lightClientState ← fromBase64Rlp H (LightClientState.fromRlp H.rlp) me.data
    "msg.light_client_state"
  let expired ← isExpired currentTimestamp lastHeightConsensusState.timestamp lightClientState
  let _ ← (ensure (expired = false) (.GenericErr "cannot upgrade an expired client") :
    Outcome StdError Unit)
  let height ← (unwrap me.latestHeight : Outcome StdError Height)
  let upgradeClientPath := constructUpgradeMerklePath H lightClientState.upgradePath
    (.UpgradedClientState height.revisionNumber)
  let member ← verifyMembership H proofConsensus (specs H) root upgradeClientPath
    (H.toVec newClientState.json) 0
  let _ ← (ensure member (.GenericErr "proof membership verification failed (invalid proof)") :
    Outcome StdError Unit)
  let upgradeConsensusStatePath := constructUpgradeMerklePath H lightClientState.upgradePath
    (.UpgradedClientConsensusState height.revisionNumber)
  let member ← verifyMembership H proofClient (specs H) root upgradeConsensusStatePath
    (H.toVec newConsensusState.json) 0
  let _ ← (ensure member (.GenericErr "proof membership verification failed (invalid proof)") :
    Outcome StdError Unit)
  let newHeight ← (unwrap newClientState.latestHeight : Outcome StdError Height)
  setConsensusMeta H env EMPTY_PREFIX newHeight
  wrapResponse H (.obj [("result", ClientStateCallResponseResult.success.json),
    ("new_client_state", newClientState.json), ("new_consensus_state", newConsensusState.json)])
    "verify_client_state"

/-! ### Misbehaviour -/

def checkMisbehaviourHeader (num : ℕ) (me : ClientState) (consensusState : ConsensusState)
    (header : Header) : Outcome StdError Unit := do
  let lightConsensusState ← fromBase64Rlp H (Snapshot.fromRlp H.rlp) consensusState.data
    "msg.light_consensus_state"
  -- the configuration is read, but the seal does not depend on it
  let _ ← fromBase64Rlp H (LightClientState.fromRlp H.rlp) me.data "msg.light_client_state"
  mapErr (fun e => .GenericErr ("Failed to verify header num: " ++ toString num ++
      " against it's consensus state. Error: " ++ H.errorToString e))
    (State.verifyHeaderSeal H.toPlatform lightConsensusState header)

/-- The client is frozen, and was so already at the height of the misbehaviour. -/
def frozenBy (me : ClientState) (height : Height) : Option Height :=
  match me.frozenHeight with
  | some frozenHeight => if me.frozen ∧ frozenHeight ≤ height then some frozenHeight else none
  | none => none

def checkMisbehaviour (me : ClientState) (misbehaviour : Misbehaviour)
    (consensusState₁ consensusState₂ : ConsensusState) : Outcome StdError HandleResponse := do
  ensure (misbehaviour.header₁.height = misbehaviour.header₂.height) (.GenericErr
    ("Misbehaviour header heights differ, " ++ misbehaviour.header₁.height.display ++ " != " ++
      misbehaviour.header₂.height.display))
  (match frozenBy me misbehaviour.header₁.height with
    | some frozenHeight => genericErr ("Client is already frozen at earlier height " ++
        frozenHeight.display ++ " than misbehaviour height " ++
        misbehaviour.header₁.height.display)
    | none => pure ())
  let header₁ ← fromBase64Rlp H (Header.fromRlp H.rlp) misbehaviour.header₁.data "msg.header"
  let header₂ ← fromBase64Rlp H (Header.fromRlp H.rlp) misbehaviour.header₂.data "msg.header"
  ensure (header₁.root ≠ header₂.root)
    (.GenericErr "Header's state roots should differ, but are the same")
  checkMisbehaviourHeader H 1 me consensusState₁ header₁
  checkMisbehaviourHeader H 2 me consensusState₂ header₂
  let newClientState := { me with frozen := true, frozenHeight := misbehaviour.header₁.height }
  let responseData := H.toVec (.obj [("result", ClientStateCallResponseResult.success.json),
    ("new_client_state", newClientState.json)])
  pure {
    attributes := [("action", "verify_misbehaviour"),
      ("height", misbehaviour.header₁.height.display)]
    data := some responseData }

def zeroCustomFields (me : ClientState) : Outcome StdError HandleResponse :=
  let newClientState : ClientState := {
    codeId := me.codeId
    frozen := false
    frozenHeight := none
    latestHeight := none
    data := me.data }
  wrapResponse H (.obj [("me", newClientState.json)]) "zero_custom_fields"

/-! ### Substitution -/

/-- `a..b`. -/
def rangeU64 (a b : UInt64) : List UInt64 :=
  (List.range' a.toNat (b.toNat - a.toNat)).map UInt64.ofNat

/-- The loop over the heights: the substitute's consensus state, if there is one, becomes the
subject's, and the height is recorded as processed now. -/
def copyConsensusStates (env : Env) (revisionNumber : UInt64) :
    List UInt64 → Action Storage StdError Unit
  | [] => pure ()
  | i :: heights => do
    let height : Height := { revisionHeight := i, revisionNumber := revisionNumber }
    let storage ← get
    match getConsensusState storage SUBSTITUTE_PREFIX height with
    | .ok csBytes => setConsensusState H SUBJECT_PREFIX height csBytes
    | .error _ => pure ()
    setConsensusMeta H env SUBJECT_PREFIX height
    copyConsensusStates env revisionNumber heights

/-- The client state after the substitution, before its height is set: whether the subject may be
recovered at all. -/
def recoveredClientState (currentTimestamp : UInt64) (me : ClientState)
    (subjectConsensusState : ConsensusState) (lightSubjectClientState : LightClientState) :
    Outcome StdError ClientState := do
  if me.frozen ∧ me.frozenHeight.isSome then
    ensure (lightSubjectClientState.allowUpdateAfterMisbehavior = false)
      (.GenericErr "client is not allowed to be unfrozen")
    pure { me with frozen := false, frozenHeight := none }
  else
    let expired ← isExpired currentTimestamp subjectConsensusState.timestamp
      lightSubjectClientState
    (if expired then ensure lightSubjectClientState.allowUpdateAfterExpiry
        (.GenericErr "client is not allowed to be unexpired")
      else pure ())
    pure me

/-- The check at the end of a substitution: what the subject has now is not expired. -/
def checkUpdatedSubject (currentTimestamp : UInt64) (me : ClientState)
    (lightSubjectClientState : LightClientState) (storage : Storage) : Outcome StdError Unit := do
  let height ← unwrap me.latestHeight
  let latestConsensusStateBytes ← ofExcept (getConsensusState storage SUBJECT_PREFIX height)
  let latestConsensusState ← unwrap (H.decodePartialConsensusState latestConsensusStateBytes)
  let latestLightConsensusState ← mapErr (fun e => toGenericErr (H.errorToString e))
    (Snapshot.fromRlp H.rlp latestConsensusState.data)
  let expired ← isExpired currentTimestamp latestLightConsensusState.timestamp
    lightSubjectClientState
  ensure (expired = false) (.GenericErr "updated subject client is expired")

/-- The check of the heights, which returns the latest one of the substitute. -/
def checkHeights (me substituteClientState : ClientState) (initialHeight : Height) :
    Outcome StdError Height := do
  let latestHeight ← unwrap substituteClientState.latestHeight
  if latestHeight ≠ initialHeight then do
    let myHeight ← unwrap me.latestHeight
    genericErr ("substitute client revision number must equal initial height revision number (" ++
      myHeight.display ++ " != " ++ initialHeight.display ++ ")")
  else pure latestHeight

def checkSubstituteClientState (env : Env) (me substituteClientState : ClientState)
    (subjectConsensusState : ConsensusState) (initialHeight : Height) :
    Action Storage StdError HandleResponse := do
  let latestHeight ← checkHeights me substituteClientState initialHeight
  let lightSubjectClientState ← fromBase64Rlp H (LightClientState.fromRlp H.rlp) me.data
    "msg.light_subject_client_state"
  let lightSubstituteClientState ← fromBase64Rlp H (LightClientState.fromRlp H.rlp)
    substituteClientState.data "msg.light_substitute_client_state"
  let _ ← (ensure (lightSubstituteClientState = lightSubjectClientState)
    (.GenericErr "subject client state does not match substitute client state") :
    Outcome StdError Unit)
  let currentTimestamp := env.time
  let newClientState ← recoveredClientState currentTimestamp me subjectConsensusState
    lightSubjectClientState
  let last ← (add latestHeight.revisionHeight 1 : Outcome StdError UInt64)
  copyConsensusStates H env latestHeight.revisionNumber
    (rangeU64 initialHeight.revisionHeight last)
  let newClientState := { newClientState with latestHeight := some latestHeight }
  let storage ← get
  let _ ← (checkUpdatedSubject H currentTimestamp me lightSubjectClientState storage :
    Outcome StdError Unit)
  wrapResponse H (.obj [("result", ClientStateCallResponseResult.success.json),
    ("new_client_state", newClientState.json)]) "check_substitute_and_update_state"

/-! ### Dispatch -/

def handle (env : Env) : HandleMsg → Action Storage StdError HandleResponse
  | .InitializeState consensusState me => initContract H env consensusState me
  | .CheckHeaderAndUpdateState header consensusState me =>
    checkHeaderAndUpdateState H env me consensusState header
  | .VerifyUpgradeAndUpdateState me newClientState newConsensusState clientUpgradeProof
      consensusStateUpgradeProof lastHeightConsensusState =>
    verifyUpgradeAndUpdateState H env me newClientState newConsensusState clientUpgradeProof
      consensusStateUpgradeProof lastHeightConsensusState
  | .CheckMisbehaviourAndUpdateState me misbehaviour consensusState₁ consensusState₂ =>
    checkMisbehaviour H me misbehaviour consensusState₁ consensusState₂
  | .CheckSubstituteAndUpdateState me substituteClientState subjectConsensusState
      initialHeight =>
    checkSubstituteClientState H env me substituteClientState subjectConsensusState initialHeight
  | .ZeroCustomFields me => zeroCustomFields H me

end CeloLightClient.Contract

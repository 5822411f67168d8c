import CeloLightClient.Contract.Reference

/-!
The height that a consensus state is recorded under.

A message names a height, and carries a snapshot or a header, which has a block number of its
own. The contract records the named height; it never compares the two.
-/

namespace CeloLightClient.Contract

open Lib Lib.Outcome Lib.Action

variable {H : Host} {env : Env} {storage storage' : Storage} {response : HandleResponse}

/-! ### When a message succeeds -/

/-- The consensus state of an `InitializeState` is a verified snapshot. -/
structure Initializes (H : Host) (consensusState : ConsensusState) (me : ClientState)
    (snapshot : Snapshot) (height : Height) : Prop where
  snapshot_eq : fromBase64Rlp H (Snapshot.fromRlp H.rlp) consensusState.data
    "msg.initial_state_entry" = .ok snapshot
  verified : snapshot.verify H.toPlatform = .ok ()
  height_eq : me.latestHeight = some height

/-- The header of a `CheckHeaderAndUpdateState` can be inserted into its consensus state. -/
structure Updates (H : Host) (env : Env) (me : ClientState) (consensusState : ConsensusState)
    (wasmHeader : WasmHeader) (header : Header) (snapshot state : Snapshot)
    (lightClientState : LightClientState) : Prop where
  header_eq : fromBase64Rlp H (Header.fromRlp H.rlp) wasmHeader.data "msg.header" = .ok header
  snapshot_eq : fromBase64Rlp H (Snapshot.fromRlp H.rlp) consensusState.data
    "msg.light_consensus_state" = .ok snapshot
  lightClientState_eq : fromBase64Rlp H (LightClientState.fromRlp H.rlp) me.data
    "msg.light_client_state" = .ok lightClientState
  inserted : ingest H lightClientState.config snapshot header env.time = .ok state

/-- What an `InitializeState` returns. -/
def initResponse (H : Host) (me : ClientState) (snapshot : Snapshot) : HandleResponse where
  attributes := [("action", "init_block"),
    ("last_consensus_state_height", toString snapshot.number)]
  data := some (H.toVec (.obj [("result", ClientStateCallResponseResult.success.json),
    ("me", me.json)]))

lemma initContract_eq_ok {consensusState : ConsensusState} {me : ClientState} :
    exec (initContract H env consensusState me) storage = (.ok response, storage') ↔
      ∃ snapshot height, Initializes H consensusState me snapshot height ∧
        response = initResponse H me snapshot ∧
        storage' = withConsensusMeta H env EMPTY_PREFIX height storage := by
  simp only [initContract, exec_lift_bind_eq_ok, mapErr_eq_ok, unwrap_eq_ok,
    exec_setConsensusMeta_bind, exec_pure, Prod.mk.injEq, Except.ok.injEq]
  constructor
  · rintro ⟨snapshot, hsnapshot, _, hverified, height, hheight, rfl, rfl⟩
    exact ⟨snapshot, height, ⟨hsnapshot, hverified, hheight⟩, rfl, rfl⟩
  · rintro ⟨snapshot, height, ⟨hsnapshot, hverified, hheight⟩, rfl, rfl⟩
    exact ⟨snapshot, hsnapshot, (), hverified, height, hheight, rfl, rfl⟩

/-- What a `CheckHeaderAndUpdateState` returns. -/
def updateResponse (H : Host) (me : ClientState) (consensusState : ConsensusState)
    (header : Header) (state : Snapshot) : HandleResponse where
  attributes := [("action", "update_block"),
    ("last_consensus_state_height", toString state.number)]
  data := some (H.toVec (.obj [("new_client_state", me.json),
    ("new_consensus_state", (ConsensusState.mk consensusState.codeId
      (H.base64.encode (state.toRlp H.rlp)) header.time ⟨H.base64.encode header.root.1⟩).json),
    ("result", ClientStateCallResponseResult.success.json)]))

lemma checkHeaderAndUpdateState_eq_ok {consensusState : ConsensusState} {me : ClientState}
    {wasmHeader : WasmHeader} :
    exec (checkHeaderAndUpdateState H env me consensusState wasmHeader) storage =
        (.ok response, storage') ↔
      ∃ header snapshot state lightClientState,
        Updates H env me consensusState wasmHeader header snapshot state lightClientState ∧
        response = updateResponse H me consensusState header state ∧
        storage' = withConsensusMeta H env EMPTY_PREFIX wasmHeader.height storage := by
  simp only [checkHeaderAndUpdateState, exec_lift_bind_eq_ok, exec_setConsensusMeta_bind,
    exec_pure, Prod.mk.injEq, Except.ok.injEq]
  constructor
  · rintro ⟨header, hheader, snapshot, hsnapshot, client, hclient, state, hstate, rfl, rfl⟩
    exact ⟨header, snapshot, state, client, ⟨hheader, hsnapshot, hclient, hstate⟩, rfl, rfl⟩
  · rintro ⟨header, snapshot, state, client, ⟨hheader, hsnapshot, hclient, hstate⟩, rfl, rfl⟩
    exact ⟨header, hheader, snapshot, hsnapshot, client, hclient, state, hstate, rfl, rfl⟩

lemma ingest_of_fst {config : StateConfig} {snapshot : Snapshot} {header : Header} {now : UInt64}
    (h : (exec (State.insertHeader H.toPlatform config header now) snapshot).1 = .ok ()) :
    ingest H config snapshot header now =
      .ok (exec (State.insertHeader H.toPlatform config header now) snapshot).2 := by
  rw [ingest, exec_of_fst h]

/-! ### Which height is recorded -/

/-- When the message succeeds, the time and the height of the host chain are recorded under a
height whose block number is that of the snapshot or the header that the message carries. -/
def RecordsOwnNumber (H : Host) (env : Env) (storage : Storage) : HandleMsg → Prop
  | .InitializeState consensusState me =>
    ∀ response storage', exec (handle H env (.InitializeState consensusState me)) storage =
        (.ok response, storage') →
      ∃ snapshot height, fromBase64Rlp H (Snapshot.fromRlp H.rlp) consensusState.data
          "msg.initial_state_entry" = .ok snapshot ∧
        me.latestHeight = some height ∧
        storage' = withConsensusMeta H env EMPTY_PREFIX height storage ∧
        height.revisionHeight = snapshot.number
  | .CheckHeaderAndUpdateState wasmHeader consensusState me =>
    ∀ response storage', exec (handle H env
        (.CheckHeaderAndUpdateState wasmHeader consensusState me)) storage =
        (.ok response, storage') →
      ∃ header, fromBase64Rlp H (Header.fromRlp H.rlp) wasmHeader.data "msg.header" = .ok header ∧
        storage' = withConsensusMeta H env EMPTY_PREFIX wasmHeader.height storage ∧
        (wasmHeader.height.revisionHeight.toNat : ℤ) = header.number
  | _ => True

/-- Nothing is wrong with the message but that the height it names is that of another block. -/
def Misnamed (H : Host) (env : Env) : HandleMsg → Prop
  | .InitializeState consensusState me =>
    ∃ snapshot height, Initializes H consensusState me snapshot height ∧
      height.revisionHeight ≠ snapshot.number
  | .CheckHeaderAndUpdateState wasmHeader consensusState me =>
    ∃ header snapshot state lightClientState,
      Updates H env me consensusState wasmHeader header snapshot state lightClientState ∧
        (wasmHeader.height.revisionHeight.toNat : ℤ) ≠ header.number
  | _ => False

lemma not_recordsOwnNumber {msg : HandleMsg} (h : Misnamed H env msg) :
    ¬ RecordsOwnNumber H env storage msg := by
  intro hown
  cases msg with
  | InitializeState consensusState me =>
    obtain ⟨snapshot, height, hinit, hne⟩ := h
    obtain ⟨snapshot', height', hsnapshot, hheight, -, heq⟩ :=
      hown _ _ (initContract_eq_ok.mpr ⟨snapshot, height, hinit, rfl, rfl⟩)
    obtain rfl := Except.ok.inj (hsnapshot.symm.trans hinit.snapshot_eq)
    obtain rfl := Option.some.inj (hheight.symm.trans hinit.height_eq)
    exact hne heq
  | CheckHeaderAndUpdateState wasmHeader consensusState me =>
    obtain ⟨header, snapshot, state, client, hupdate, hne⟩ := h
    obtain ⟨header', hheader, -, heq⟩ := hown _ _ (checkHeaderAndUpdateState_eq_ok.mpr
      ⟨header, snapshot, state, client, hupdate, rfl, rfl⟩)
    obtain rfl := Except.ok.inj (hheader.symm.trans hupdate.header_eq)
    exact hne heq
  | _ => exact h

/-- **Height agreement** holds of a message exactly when the height it names is that of the block
it carries, or something else is wrong with it. -/
theorem recordsOwnNumber_iff (H : Host) (env : Env) (storage : Storage) (msg : HandleMsg) :
    RecordsOwnNumber H env storage msg ↔ ¬ Misnamed H env msg := by
  refine ⟨fun hown h => not_recordsOwnNumber h hown, fun h => ?_⟩
  cases msg with
  | InitializeState consensusState me =>
    intro response storage' hexec
    obtain ⟨snapshot, height, hinit, -, rfl⟩ := initContract_eq_ok.mp hexec
    refine ⟨snapshot, height, hinit.snapshot_eq, hinit.height_eq, rfl, ?_⟩
    by_contra hne
    exact h ⟨snapshot, height, hinit, hne⟩
  | CheckHeaderAndUpdateState wasmHeader consensusState me =>
    intro response storage' hexec
    obtain ⟨header, snapshot, state, client, hupdate, -, rfl⟩ :=
      checkHeaderAndUpdateState_eq_ok.mp hexec
    refine ⟨header, hupdate.header_eq, rfl, ?_⟩
    by_contra hne
    exact h ⟨header, snapshot, state, client, hupdate, hne⟩
  | _ => trivial

namespace Reference

lemma trusted_initializes (height : Height) :
    Initializes (host []) trusted (client height) sealedStart height :=
  ⟨trusted_read _, CeloLightClient.Reference.verifyAggregatedSeal_sealOf (by decide) _, rfl⟩

lemma header₈_updates (block : UInt64) (height latestHeight : Height) : ∃ state,
    Updates (host []) ⟨block, 100⟩ (client latestHeight) trusted (wasmHeader height header₈) header₈
      sealedStart state lightClient :=
  ⟨_, wasmHeader_read header₈_accepted.1 _ _, trusted_read _, lightClient_read _ _,
    ingest_of_fst header₈_accepted.2.1⟩

lemma init_misnamed :
    Misnamed (host []) ⟨1, 100⟩ (.InitializeState trusted (client ⟨0, 5⟩)) :=
  ⟨sealedStart, ⟨0, 5⟩, trusted_initializes _, by decide⟩

lemma update_misnamed :
    Misnamed (host []) ⟨1, 100⟩ (.CheckHeaderAndUpdateState (wasmHeader ⟨0, 9⟩ header₈) trusted
      (client ⟨0, 7⟩)) := by
  obtain ⟨state, hupdates⟩ := header₈_updates 1 ⟨0, 9⟩ ⟨0, 7⟩
  exact ⟨header₈, sealedStart, state, lightClient, hupdates, by decide⟩

end Reference

/-- Block 7 is recorded under height 5, and block 8 under height 9. -/
theorem misnamed_blocks :
    ¬ RecordsOwnNumber (Reference.host []) ⟨1, 100⟩ (fun _ => none)
        (.InitializeState Reference.trusted (Reference.client ⟨0, 5⟩)) ∧
      ¬ RecordsOwnNumber (Reference.host []) ⟨1, 100⟩ (fun _ => none)
        (.CheckHeaderAndUpdateState (Reference.wasmHeader ⟨0, 9⟩ Reference.header₈)
          Reference.trusted (Reference.client ⟨0, 7⟩)) :=
  ⟨not_recordsOwnNumber Reference.init_misnamed, not_recordsOwnNumber Reference.update_misnamed⟩

end CeloLightClient.Contract

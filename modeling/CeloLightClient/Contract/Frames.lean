import CeloLightClient.Contract.Delay
import CeloLightClient.Contract.Membership

/-!
What runs of the contract leave alone.

A message writes the time and the block of one height, or what a subject has of one height, and
nothing else. What it answers does not depend on the store, unless it is a substitution. So messages
for different heights may arrive in any order, and an answer that the store has allowed stays.
-/

namespace CeloLightClient.Contract

open Lib Lib.Outcome Lib.Action

variable {H : Host} {env env' : Env} {storage storage' : Storage} {height : Height}
  {msg : HandleMsg} {c : Call} {l : List (Call × Storage)} {key : Bytes}

/-! ### What a message writes -/

/-- The height whose consensus state a message copies from the substitute to the subject. -/
def copiedHeight : HandleMsg → Option Height
  | .CheckSubstituteAndUpdateState _ substituteClientState _ _ =>
    substituteClientState.latestHeight
  | _ => none

/-- The store after a message. -/
inductive Written (H : Host) (env : Env) (msg : HandleMsg) (storage : Storage) : Storage → Prop
  | nothing : Written H env msg storage storage
  | recorded (height : Height) : recordedHeight msg = some height →
    Written H env msg storage (withConsensusMeta H env EMPTY_PREFIX height storage)
  | copied (height : Height) : copiedHeight msg = some height →
    Written H env msg storage (copied H env storage height)

lemma written_of_atomic (hatomic : Atomic (handle H env msg))
    (hok : ∀ response storage', exec (handle H env msg) storage = (.ok response, storage') →
      ∃ height, recordedHeight msg = some height ∧
        storage' = withConsensusMeta H env EMPTY_PREFIX height storage) :
    Written H env msg storage (exec (handle H env msg) storage).2 := by
  rcases hatomic storage with ⟨response, hr⟩ | hkept
  · obtain ⟨height, hheight, hs⟩ := hok response _ (exec_of_fst hr)
    rw [hs]
    exact .recorded height hheight
  · rw [hkept]
    exact .nothing

lemma written_checkSubstituteClientState {me substituteClientState : ClientState}
    {subjectConsensusState : ConsensusState} {initialHeight : Height} :
    Written H env (.CheckSubstituteAndUpdateState me substituteClientState subjectConsensusState
      initialHeight) storage (exec (checkSubstituteClientState H env me substituteClientState
        subjectConsensusState initialHeight) storage).2 := by
  refine leaves_lift_bind .nothing fun latestHeight hheights => ?_
  refine leaves_lift_bind .nothing fun _ _ => leaves_lift_bind .nothing fun _ _ => ?_
  refine leaves_lift_bind .nothing fun _ _ => leaves_lift_bind .nothing fun _ _ => ?_
  refine leaves_lift_bind .nothing fun last hlast => ?_
  obtain ⟨hlatest, rfl⟩ := checkHeights_eq_ok.mp hheights
  have hcopied : Written H env (.CheckSubstituteAndUpdateState me substituteClientState
      subjectConsensusState latestHeight) storage (copied H env storage latestHeight) :=
    .copied latestHeight hlatest
  rw [exec_bind, copyConsensusStates_one hlast]
  dsimp only
  rw [exec_get_bind]
  refine leaves_lift_bind hcopied fun _ _ => ?_
  rwa [exec_lift]

theorem handle_written (H : Host) (env : Env) (storage : Storage) (msg : HandleMsg) :
    Written H env msg storage (exec (handle H env msg) storage).2 := by
  cases msg with
  | InitializeState consensusState me =>
    refine written_of_atomic atomic_initContract fun response storage' hexec => ?_
    obtain ⟨snapshot, height, hinit, -, rfl⟩ := initContract_eq_ok.mp hexec
    exact ⟨height, hinit.height_eq, rfl⟩
  | CheckHeaderAndUpdateState header consensusState me =>
    refine written_of_atomic atomic_checkHeaderAndUpdateState fun response storage' hexec => ?_
    obtain ⟨_, _, _, _, -, -, rfl⟩ := checkHeaderAndUpdateState_eq_ok.mp hexec
    exact ⟨header.height, rfl, rfl⟩
  | VerifyUpgradeAndUpdateState me newClientState newConsensusState clientUpgradeProof
      consensusStateUpgradeProof lastHeightConsensusState =>
    let u : Upgrade := ⟨me, newClientState, newConsensusState, clientUpgradeProof,
      consensusStateUpgradeProof, lastHeightConsensusState⟩
    refine written_of_atomic (atomic_upgrade u) fun response storage' hexec => ?_
    obtain ⟨d, hd, -, -, -, rfl⟩ := (verifyUpgradeAndUpdateState_eq_ok (u := u)).mp hexec
    exact ⟨d.newHeight, hd.newHeight_eq, rfl⟩
  | CheckMisbehaviourAndUpdateState => exact .nothing
  | CheckSubstituteAndUpdateState => exact written_checkSubstituteClientState
  | ZeroCustomFields => exact .nothing

lemma CallStep.written (h : CallStep H storage c storage') :
    Written H c.env c.msg storage storage' := by
  have hwritten := handle_written H c.env storage c.msg
  unfold CallStep at h
  split at h
  · obtain ⟨response, hexec⟩ := h
    rwa [hexec] at hwritten
  · obtain ⟨e, t, hexec, rfl | rfl⟩ := h
    · exact .nothing
    · rwa [hexec] at hwritten

/-! ### Entries -/

/-- The entries there are for a height. -/
def entries (pre : String) (height : Height) : List Bytes :=
  [consensusStateKey pre height, processedTimeKey pre height, processedHeightKey pre height]

/-- The entries that a message may write. -/
def MayWrite (msg : HandleMsg) (key : Bytes) : Prop :=
  (∃ height, recordedHeight msg = some height ∧
    (key = processedTimeKey EMPTY_PREFIX height ∨ key = processedHeightKey EMPTY_PREFIX height)) ∨
  ∃ height, copiedHeight msg = some height ∧ key ∈ entries SUBJECT_PREFIX height

lemma copied_of_not_mem {height : Height} (h : key ∉ entries SUBJECT_PREFIX height) :
    copied H env storage height key = storage key := by
  simp only [entries, List.mem_cons, List.not_mem_nil, or_false, not_or] at h
  obtain ⟨hstate, htime, hheight⟩ := h
  rw [copied, withConsensusMeta_of_ne hheight htime]
  cases storage (consensusStateKey SUBSTITUTE_PREFIX height) with
  | some vec => exact Function.update_of_ne hstate ..
  | none => rfl

lemma Written.of_not_mayWrite (h : Written H env msg storage storage') (hkey : ¬ MayWrite msg key) :
    storage' key = storage key := by
  cases h with
  | nothing => rfl
  | recorded height hheight =>
    refine withConsensusMeta_of_ne (fun heq => hkey ?_) fun heq => hkey ?_
    · exact .inl ⟨height, hheight, .inr heq⟩
    · exact .inl ⟨height, hheight, .inl heq⟩
  | copied height hheight => exact copied_of_not_mem fun hmem => hkey (.inr ⟨height, hheight, hmem⟩)

lemma isSome_update {k : Bytes} {b : Bytes} (h : (storage key).isSome) :
    (Function.update storage k (some b) key).isSome := by
  rcases eq_or_ne key k with rfl | hne
  · rw [Function.update_self]
    rfl
  · rwa [Function.update_of_ne hne]

lemma isSome_withConsensusMeta {pre : String} (h : (storage key).isSome) :
    (withConsensusMeta H env pre height storage key).isSome := isSome_update (isSome_update h)

lemma Written.isSome (h : Written H env msg storage storage') (hkey : (storage key).isSome) :
    (storage' key).isSome := by
  cases h with
  | nothing => exact hkey
  | recorded height => exact isSome_withConsensusMeta hkey
  | copied height =>
    refine isSome_withConsensusMeta ?_
    cases storage (consensusStateKey SUBSTITUTE_PREFIX height) with
    | some vec => exact isSome_update hkey
    | none => exact hkey

/-- An entry that no message may write: a consensus state of the client's own, or anything of a
substitute. -/
def ReadOnly (key : Bytes) : Prop :=
  ∃ height, key = consensusStateKey EMPTY_PREFIX height ∨ key ∈ entries SUBSTITUTE_PREFIX height

lemma exists_keyText {pre : String} (h : key ∈ entries pre height) :
    ∃ suffix, EndsNumber suffix.toList ∧ key = utf8 (keyText pre height suffix) := by
  simp only [entries, List.mem_cons, List.not_mem_nil, or_false] at h
  rcases h with rfl | rfl | rfl
  · exact ⟨"", by simp, consensusStateKey_eq ..⟩
  · exact ⟨"/processedTime", by simp, processedTimeKey_eq ..⟩
  · exact ⟨"/processedHeight", by simp, processedHeightKey_eq ..⟩

lemma not_mem_entries {pre₁ pre₂ : String} {height₁ height₂ : Height} (h₁ : pre₁ ∈ PREFIXES)
    (h₂ : pre₂ ∈ PREFIXES) (hne : pre₁ ≠ pre₂) (hkey : key ∈ entries pre₁ height₁) :
    key ∉ entries pre₂ height₂ := by
  intro hkey'
  obtain ⟨suffix₁, -, rfl⟩ := exists_keyText hkey
  obtain ⟨suffix₂, -, heq⟩ := exists_keyText hkey'
  exact hne (prefix_eq_of_utf8_keyText h₁ h₂ heq)

lemma ReadOnly.not_mayWrite (h : ReadOnly key) : ¬ MayWrite msg key := by
  obtain ⟨height, rfl | hkey⟩ := h
  · have hkey : consensusStateKey EMPTY_PREFIX height ∈ entries EMPTY_PREFIX height := by
      simp [entries]
    rintro (⟨_, -, htime | hheight⟩ | ⟨_, -, hsubject⟩)
    · exact consensusStateKey_ne_processedTimeKey htime
    · exact consensusStateKey_ne_processedHeightKey hheight
    · exact not_mem_entries (by decide) (by decide) (by decide) hkey hsubject
  · rintro (⟨height', -, hown⟩ | ⟨_, -, hsubject⟩)
    · have hkey' : key ∈ entries EMPTY_PREFIX height' := by
        rcases hown with rfl | rfl <;> simp [entries]
      exact not_mem_entries (by decide) (by decide) (by decide) hkey hkey'
    · exact not_mem_entries (by decide) (by decide) (by decide) hkey hsubject

/-- Nothing is deleted, an entry changes only if it is one of those that some message of the run may
write, and the client's own consensus states and all that a substitute has never change. -/
structure Confined (storage : Storage) (l : List (Call × Storage)) (key : Bytes) : Prop where
  kept : (storage key).isSome → (final storage l key).isSome
  written : final storage l key ≠ storage key → ∃ x ∈ l, MayWrite x.1.msg key
  readOnly : ReadOnly key → final storage l key = storage key

/-- **What runs leave alone**, whatever messages arrive and whatever comes of them. -/
theorem writes_confined (h : Trace (CallStep H) storage l) (key : Bytes) :
    Confined storage l key := by
  have hunwritten (hnone : ∀ x ∈ l, ¬ MayWrite x.1.msg key) :
      final storage l key = storage key := by
    rcases h.last_write (fun storage => storage key) (fun c => MayWrite c.msg key)
      fun s c t hstep hc => (CallStep.written hstep).of_not_mayWrite hc with
      ⟨hsame, -⟩ | ⟨l₁, x, l₂, rfl, hx, -⟩
    · exact hsame
    · exact absurd hx (hnone x (by simp))
  refine ⟨fun hkey => ?_, fun hne => ?_, fun hreadOnly => ?_⟩
  · exact h.invariant (I := fun storage => (storage key).isSome) hkey
      fun s c t hs hstep => (CallStep.written hstep).isSome hs
  · by_contra hnone
    exact hne (hunwritten fun x hx hw => hnone ⟨x, hx, hw⟩)
  · exact hunwritten fun _ _ => hreadOnly.not_mayWrite

theorem writes_confined_two : ∃ s t, ∀ key,
    Confined (fun _ => none) [(Reference.firstCall, s), (Reference.secondCall, t)] key :=
  let ⟨s, t, htrace⟩ := Reference.twoCalls
  ⟨s, t, writes_confined htrace⟩

/-! ### Any order -/

/-- A message and the block it arrives in. -/
structure Request where
  env : Env
  msg : HandleMsg

/-- What is answered. -/
def Request.answer (H : Host) (r : Request) (storage : Storage) : Outcome StdError HandleResponse :=
  (exec (handle H r.env r.msg) storage).1

/-- The store after a request. The host chain undoes what a call has written that fails. -/
def Request.serve (H : Host) (storage : Storage) (r : Request) : Storage :=
  match exec (handle H r.env r.msg) storage with
  | (.ok _, storage') => storage'
  | (.error _, _) => storage

/-- The answers to requests that arrive one after another. -/
def answers (H : Host) : Storage → List Request → List (Request × Outcome StdError HandleResponse)
  | _, [] => []
  | storage, r :: l => (r, r.answer H storage) :: answers H (r.serve H storage) l

variable {requests requests' : List Request}

/-- Only a substitution looks at the store. -/
lemma blind_handle (hmsg : copiedHeight msg = none) : Blind (handle H env msg) := by
  cases msg with
  | InitializeState =>
    exact blind_lift_bind fun _ _ => blind_lift_bind fun _ _ => blind_lift_bind fun _ _ =>
      blind_of_ok fun _ => rfl
  | CheckHeaderAndUpdateState =>
    exact blind_lift_bind fun _ _ => blind_lift_bind fun _ _ => blind_lift_bind fun _ _ =>
      blind_lift_bind fun _ _ => blind_of_ok fun _ => rfl
  | VerifyUpgradeAndUpdateState =>
    refine blind_lift_bind fun _ _ => blind_lift_bind fun _ _ => blind_lift_bind fun _ _ =>
      blind_lift_bind fun _ _ => blind_lift_bind fun _ _ => blind_lift_bind fun _ _ =>
      blind_lift_bind fun _ _ => blind_lift_bind fun _ _ => ?_
    exact blind_lift_bind fun _ _ => blind_lift_bind fun _ _ => blind_lift_bind fun _ _ =>
      blind_lift_bind fun _ _ => blind_lift_bind fun _ _ => blind_of_ok fun _ => rfl
  | CheckMisbehaviourAndUpdateState => exact blind_lift
  | CheckSubstituteAndUpdateState me substituteClientState _ initialHeight =>
    -- without a height the substitution aborts at once
    intro s t
    have hnone : substituteClientState.latestHeight = none := hmsg
    have habort : checkHeights me substituteClientState initialHeight = abort := by
      rw [checkHeights, hnone]
      rfl
    rw [handle, checkSubstituteClientState, exec_lift_bind_of_error habort,
      exec_lift_bind_of_error habort]
  | ZeroCustomFields => exact blind_lift

lemma serve_of_error {r : Request} {e : Fault StdError} (h : r.answer H storage = .error e) :
    r.serve H storage = storage := by
  unfold Request.answer at h
  unfold Request.serve
  rcases hexec : exec (handle H r.env r.msg) storage with ⟨_ | response, storage'⟩
  · rfl
  · simp [hexec] at h

lemma serve_of_ok {r : Request} {response : HandleResponse}
    (h : r.answer H storage = .ok response) :
    exec (handle H r.env r.msg) storage = (.ok response, r.serve H storage) := by
  unfold Request.answer at h
  unfold Request.serve
  rcases hexec : exec (handle H r.env r.msg) storage with ⟨_ | response', storage'⟩
  · simp [hexec] at h
  · rw [hexec] at h
    obtain rfl := Except.ok.inj h
    rfl

lemma serve_eq {r : Request} (hr : copiedHeight r.msg = none) :
    (∀ storage, r.serve H storage = storage) ∨ ∃ height, recordedHeight r.msg = some height ∧
      ∀ storage, r.serve H storage = withConsensusMeta H r.env EMPTY_PREFIX height storage := by
  have hblind (storage : Storage) : r.answer H storage = r.answer H fun _ => none :=
    blind_handle hr storage _
  rcases hanswer : r.answer H fun _ => none with e | response
  · exact .inl fun storage => serve_of_error ((hblind storage).trans hanswer)
  have hexec (storage : Storage) := serve_of_ok ((hblind storage).trans hanswer)
  rcases hheight : recordedHeight r.msg with _ | height
  · refine .inl fun storage => ?_
    have hwritten := handle_written H r.env storage r.msg
    rw [hexec] at hwritten
    revert hwritten
    generalize r.serve H storage = storage'
    rintro (_ | ⟨_, h⟩ | ⟨_, h⟩)
    · rfl
    · simp [hheight] at h
    · simp [hr] at h
  · refine .inr ⟨height, rfl, fun storage => ?_⟩
    have heffect := handle_effect H r.env storage r.msg
    rw [hexec] at heffect
    revert heffect
    generalize r.serve H storage = storage'
    rintro (⟨_, height', h⟩ | _ | ⟨_, _, h⟩)
    · obtain rfl := Option.some.inj (hheight.symm.trans h)
      rfl
    · simp [hheight] at h

lemma withConsensusMeta_comm {height height' : Height} (hne : height ≠ height')
    (storage : Storage) :
    withConsensusMeta H env EMPTY_PREFIX height
        (withConsensusMeta H env' EMPTY_PREFIX height' storage) =
      withConsensusMeta H env' EMPTY_PREFIX height'
        (withConsensusMeta H env EMPTY_PREFIX height storage) := by
  have htime : processedTimeKey EMPTY_PREFIX height ≠ processedTimeKey EMPTY_PREFIX height' :=
    mt processedTimeKey_inj.mp hne
  have hheight : processedHeightKey EMPTY_PREFIX height ≠ processedHeightKey EMPTY_PREFIX height' :=
    mt processedHeightKey_inj.mp hne
  unfold withConsensusMeta
  rw [Function.update_comm processedTimeKey_ne_processedHeightKey.symm,
    Function.update_comm htime.symm, Function.update_comm hheight.symm,
    Function.update_comm processedTimeKey_ne_processedHeightKey]

/-- The heights that the requests record are not the same. -/
def Apart (r r' : Request) : Prop :=
  ∀ height, recordedHeight r.msg = some height → recordedHeight r'.msg ≠ some height

lemma serve_comm {r r' : Request} (hr : copiedHeight r.msg = none)
    (hr' : copiedHeight r'.msg = none) (h : Apart r r') (storage : Storage) :
    r'.serve H (r.serve H storage) = r.serve H (r'.serve H storage) := by
  rcases serve_eq (H := H) hr with hs | ⟨height, hheight, hs⟩
  · rw [hs, hs]
  rcases serve_eq (H := H) hr' with hs' | ⟨height', hheight', hs'⟩
  · rw [hs', hs']
  have hne : height' ≠ height := by
    rintro rfl
    exact h height' hheight hheight'
  rw [hs, hs', hs, hs', withConsensusMeta_comm hne]

lemma answers_eq (hl : ∀ r ∈ requests, copiedHeight r.msg = none) (storage storage' : Storage) :
    answers H storage requests = requests.map fun r => (r, r.answer H storage') := by
  induction requests generalizing storage with
  | nil => rfl
  | cons r requests ih =>
    rw [answers, List.map_cons, ih (fun r hr => hl r (by simp [hr])),
      show r.answer H storage = r.answer H storage' from blind_handle (hl r (by simp)) _ _]

/-- **Any order.** Requests that record different heights, with no substitution among them, may
arrive in any order: each is answered as in any other order, and the store ends up the same. -/
theorem any_order (hl : ∀ r ∈ requests, copiedHeight r.msg = none)
    (hapart : ∀ r ∈ requests, ∀ r' ∈ requests, r ≠ r' → Apart r r')
    (hperm : requests.Perm requests') :
    requests.foldl (Request.serve H) storage = requests'.foldl (Request.serve H) storage ∧
      (answers H storage requests).Perm (answers H storage requests') := by
  constructor
  · refine hperm.foldl_eq' (fun r hr r' hr' s => ?_) storage
    rcases eq_or_ne r r' with rfl | hne
    · rfl
    · exact serve_comm (hl r hr) (hl r' hr') (hapart r hr r' hr' hne) s
  · rw [answers_eq hl storage storage,
      answers_eq (fun r hr => hl r (hperm.mem_iff.mpr hr)) storage storage]
    exact hperm.map _

namespace Reference

def firstRequest : Request := ⟨firstCall.env, firstCall.msg⟩

def secondRequest : Request := ⟨secondCall.env, secondCall.msg⟩

lemma requests_apart : ∀ r ∈ [firstRequest, secondRequest], ∀ r' ∈ [firstRequest, secondRequest],
    r ≠ r' → Apart r r' := by
  have hheights : (⟨0, 7⟩ : Height) ≠ ⟨0, 8⟩ := by decide
  intro r hr r' hr' hne height hheight hheight'
  rcases List.mem_pair.mp hr with rfl | rfl <;> rcases List.mem_pair.mp hr' with rfl | rfl
  · exact hne rfl
  · exact hheights (Option.some.inj (hheight.trans hheight'.symm))
  · exact hheights (Option.some.inj (hheight'.trans hheight.symm))
  · exact hne rfl

end Reference

/-- The update arrives first. -/
theorem any_order_two :
    [Reference.firstRequest, Reference.secondRequest].foldl (Request.serve (Reference.host []))
        (fun _ => none) =
      [Reference.secondRequest, Reference.firstRequest].foldl (Request.serve (Reference.host []))
        (fun _ => none) ∧
      (answers (Reference.host []) (fun _ => none)
        [Reference.firstRequest, Reference.secondRequest]).Perm
      (answers (Reference.host []) (fun _ => none)
        [Reference.secondRequest, Reference.firstRequest]) :=
  any_order (fun r hr => by rcases List.mem_pair.mp hr with rfl | rfl <;> rfl)
    Reference.requests_apart (.swap ..)

/-! ### Answers that stay -/

/-- The height whose record a query looks at. -/
def QueryMsg.recordRead : QueryMsg → Option Height
  | .VerifyPacketCommitment _ height .. => some height
  | .VerifyPacketAcknowledgement _ height .. => some height
  | .VerifyPacketReceiptAbsence _ height .. => some height
  | .VerifyNextSequenceRecv _ height .. => some height
  | .ProcessedTime height => some height
  | _ => none

lemma verifyDelayPeriodPassed_mono {b b' t t' dt db : UInt64}
    (hsame : recorded height storage' = recorded height storage) (hb : b ≤ b') (ht : t ≤ t')
    (h : verifyDelayPeriodPassed H storage height b t dt db = .ok ()) :
    verifyDelayPeriodPassed H storage' height b' t' dt db = .ok () := by
  rw [verifyDelayPeriodPassed_congr hsame]
  simp only [verifyDelayPeriodPassed, bind_eq_ok, ensure_eq_ok] at h ⊢
  obtain ⟨time, htime, validTime, hvalid, u, hpassed, record, hrecord, limit, hlimit, hblock⟩ := h
  refine ⟨time, htime, validTime, hvalid, u, UInt64.le_trans hpassed ht, record, hrecord, limit,
    hlimit, fun hlt => hblock ?_⟩
  have hle : getSelfHeight b ≤ getSelfHeight b' := Height.le_iff.mpr (.inr ⟨rfl, hb⟩)
  exact lt_of_le_of_lt hle hlt

lemma Claim.verify_mono {claim : Claim} {delay' : Outcome StdError Unit}
    (hdelay : claim.delay = .ok () → delay' = .ok ()) {response : HandleResponse}
    (h : claim.verify H = .ok response) :
    { claim with delay := delay' }.verify H = .ok response := by
  simp only [Claim.verify, bind_eq_ok] at h ⊢
  obtain ⟨proof, hproof, root, hroot, u, hd, h⟩ := h
  exact ⟨proof, hproof, root, hroot, u, hdelay hd, h⟩

lemma verifyPacketReceiptAbsence_mono {commitmentPrefix : MerklePrefix}
    {proof portId channelId : String} {delayTimePeriod delayBlockPeriod sequence : UInt64}
    {consensusState : ConsensusState} {response : HandleResponse}
    (hdelay : verifyDelayPeriodPassed H storage height env.height env.time delayTimePeriod
        delayBlockPeriod = .ok () →
      verifyDelayPeriodPassed H storage' height env'.height env'.time delayTimePeriod
        delayBlockPeriod = .ok ())
    (h : verifyPacketReceiptAbsence H storage env height commitmentPrefix proof portId channelId
      delayTimePeriod delayBlockPeriod sequence consensusState = .ok response) :
    verifyPacketReceiptAbsence H storage' env' height commitmentPrefix proof portId channelId
      delayTimePeriod delayBlockPeriod sequence consensusState = .ok response := by
  unfold verifyPacketReceiptAbsence at h ⊢
  obtain ⟨proof, hproof, h⟩ := bind_eq_ok.mp h
  obtain ⟨root, hroot, h⟩ := bind_eq_ok.mp h
  obtain ⟨u, hd, h⟩ := bind_eq_ok.mp h
  rwa [hproof, ok_bind, hroot, ok_bind, hdelay hd, ok_bind]

/-- **Answers that stay.** What has been verified once is verified in every later block, whatever
messages have arrived in between, unless one of them has recorded the height of the proof again. -/
theorem answers_persist (h : Trace (CallStep H) storage l) (ht : env.time ≤ env'.time)
    (hb : env.height ≤ env'.height) {query₀ : QueryMsg}
    (hstatus : ∀ me consensusState, query₀ ≠ .Status me consensusState)
    (hl : ∀ x ∈ l, ∀ height, query₀.recordRead = some height → ¬ RecordsHeight height x.1)
    {data : Bytes} (hanswer : query H storage env query₀ = .ok data) :
    query H (final storage l) env' query₀ = .ok data := by
  have hkept (height : Height) (hheight : query₀.recordRead = some height) :
      recorded height (final storage l) = recorded height storage := by
    rcases h.last_write (recorded height) (RecordsHeight height)
      fun s c t hstep hc => recorded_of_not_records hstep hc with
      ⟨hsame, -⟩ | ⟨l₁, x, l₂, rfl, hx, -⟩
    · exact hsame
    · exact absurd hx (hl x (by simp) height hheight)
  have hdelay (height : Height) (hheight : query₀.recordRead = some height) {dt db : UInt64}
      (hd : verifyDelayPeriodPassed H storage height env.height env.time dt db = .ok ()) :
      verifyDelayPeriodPassed H (final storage l) height env'.height env'.time dt db = .ok () :=
    verifyDelayPeriodPassed_mono (hkept height hheight) hb ht hd
  cases query₀ with
  | VerifyPacketCommitment _ height | VerifyPacketAcknowledgement _ height
  | VerifyNextSequenceRecv _ height =>
    obtain ⟨response, hr, hdata⟩ := bind_eq_ok.mp hanswer
    exact bind_eq_ok.mpr ⟨response, Claim.verify_mono (hdelay height rfl) hr, hdata⟩
  | VerifyPacketReceiptAbsence _ height =>
    obtain ⟨response, hr, hdata⟩ := bind_eq_ok.mp hanswer
    exact bind_eq_ok.mpr
      ⟨response, verifyPacketReceiptAbsence_mono (hdelay height rfl) hr, hdata⟩
  | ProcessedTime height =>
    have htime : final storage l (processedTimeKey EMPTY_PREFIX height) =
        storage (processedTimeKey EMPTY_PREFIX height) := (Prod.ext_iff.mp (hkept height rfl)).1
    rwa [query, QueryMsg.answer, processedTime, getProcessedTime, htime]
  | Status me consensusState => exact absurd rfl (hstatus me consensusState)
  | VerifyClientState | VerifyClientConsensusState | VerifyConnectionState | VerifyChannelState =>
    exact hanswer

namespace Reference

/-- A packet among the commitments of the other chain. -/
def packetEntry : ExistenceProof where
  key := utf8 (pathToString (.Commitments "transfer" "channel-0" 1))
  value := [1, 2, 3]
  leaf := [0]
  path := []

def packetProof : MerkleProof ics23 := ⟨[.Exist packetEntry]⟩

def packetQuery : QueryMsg :=
  .VerifyPacketCommitment (client ⟨0, 7⟩) ⟨0, 7⟩ ⟨Base64.reference.encode (utf8 "prefix")⟩
    (Base64.reference.encode (proofJson packetProof).toVec) "transfer" "channel-0" 10 1 1
    (Base64.reference.encode packetEntry.value)
    { trusted with root := ⟨Base64.reference.encode packetEntry.root⟩ }

/-- Height 7 is recorded in block 1. -/
def packetStorage : Storage :=
  withConsensusMeta (host [packetProof]) ⟨1, 100⟩ EMPTY_PREFIX ⟨0, 7⟩ fun _ => none

lemma packetQuery_answer : query (host [packetProof]) packetStorage ⟨2, 110⟩ packetQuery =
    .ok ((host [packetProof]).toVec successResult) := by
  have hrecorded : recorded ⟨0, 7⟩ packetStorage = recordOf (host [packetProof]) ⟨1, 100⟩ :=
    recorded_self
  have hcounts := countsFrom_of_recorded (readsBack [packetProof]) hrecorded
  have hdelay : verifyDelayPeriodPassed (host [packetProof]) packetStorage ⟨0, 7⟩ 2 110 10 1 =
      .ok () :=
    (hcounts.passes 2 110 10 1).mpr ⟨show 100 + 10 ≤ 110 by decide, show 1 + 1 ≤ 2 by decide⟩
  have hvalue : fromBase64 (host [packetProof]) (Base64.reference.encode packetEntry.value)
      "msg.commitment_bytes" = .ok packetEntry.value := fromBase64_encode _ _
  have hmember : verifyMembership (host [packetProof]) packetProof (specs (host [packetProof]))
      packetEntry.root ⟨["prefix", pathToString (.Commitments "transfer" "channel-0" 1)]⟩
      packetEntry.value 0 = .ok true :=
    verifyMembership_entry packetEntry ["prefix"] rfl rfl
  refine query_of_claim rfl ?_ hmember
  exact ⟨fromBase64JsonSlice_encode (List.mem_singleton_self packetProof) _, fromBase64_encode _ _,
    hdelay, ⟨_, rfl, applyPrefix_encode (by decide) _⟩, hvalue⟩

/-- Height 8 is recorded in block 2. -/
def laterCall : Call := ⟨⟨2, 105⟩, .InitializeState trusted (client ⟨0, 8⟩), true⟩

lemma laterCall_step : CallStep (host [packetProof]) packetStorage laterCall
    (withConsensusMeta (host [packetProof]) ⟨2, 105⟩ EMPTY_PREFIX ⟨0, 8⟩ packetStorage) := by
  have hinit : Initializes (host [packetProof]) trusted (client ⟨0, 8⟩) sealedStart ⟨0, 8⟩ :=
    ⟨trusted_read _, CeloLightClient.Reference.verifyAggregatedSeal_sealOf (by decide) _, rfl⟩
  exact ⟨_, initContract_eq_ok.mpr ⟨_, _, hinit, rfl, rfl⟩⟩

end Reference

theorem answers_persist_packet : ∃ t, CallStep (Reference.host [Reference.packetProof])
      Reference.packetStorage Reference.laterCall t ∧
    query (Reference.host [Reference.packetProof]) t ⟨3, 120⟩ Reference.packetQuery =
      .ok ((Reference.host [Reference.packetProof]).toVec successResult) := by
  refine ⟨_, Reference.laterCall_step, ?_⟩
  refine answers_persist (.cons Reference.laterCall_step (.nil _)) (by decide) (by decide)
    (fun _ _ h => by unfold Reference.packetQuery at h; cases h) ?_ Reference.packetQuery_answer
  rintro x hx height hread ⟨-, hrecords⟩
  obtain rfl := List.mem_singleton.mp hx
  have hheights : (⟨0, 7⟩ : Height) ≠ ⟨0, 8⟩ := by decide
  exact hheights (Option.some.inj (hread.trans hrecords.symm))

end CeloLightClient.Contract

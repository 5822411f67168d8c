import CeloLightClient.Contract.Delay
import CeloLightClient.Contract.Liveness

/-!
What a substitution copies.

The consensus states of the substitute are meant to be copied from the initial height to its latest
one, with the time and the block in which each was processed. But the guard lets the latest height
pass alone, and what is recorded for it is the block of the substitution.
-/

namespace CeloLightClient.Contract

open Lib Lib.Outcome Lib.Action

variable {H : Host} {env : Env} {storage storage' : Storage}
  {me substituteClientState : ClientState} {subjectConsensusState : ConsensusState}
  {initialHeight latestHeight height height' : Height} {light : LightClientState}

/-! ### The heights -/

/-- The heights from the initial one to the latest, both included. -/
structure InRange (initialHeight latestHeight height : Height) : Prop where
  revision : height.revisionNumber = latestHeight.revisionNumber
  from_initial : initialHeight.revisionHeight ≤ height.revisionHeight
  to_latest : height.revisionHeight ≤ latestHeight.revisionHeight

/-- The heights are in the way: the guard refuses them, or all that is checked before anything is
copied is in order and the end of the range overflows. -/
def HeightsRefused (H : Host) (env : Env) (me substituteClientState : ClientState)
    (subjectConsensusState : ConsensusState) (initialHeight : Height) : Prop :=
  (∃ e, checkHeights me substituteClientState initialHeight = .error e) ∨
    ∃ light, Comparable H me substituteClientState initialHeight light ∧
      Recoverable env me subjectConsensusState light ∧
      2 ^ 64 ≤ initialHeight.revisionHeight.toNat + 1

/-- Heights that are in the way stop the call before it writes anything. -/
lemma HeightsRefused.fails (h : HeightsRefused H env me substituteClientState
      subjectConsensusState initialHeight) :
    ∃ e, exec (checkSubstituteClientState H env me substituteClientState subjectConsensusState
      initialHeight) storage = (.error e, storage) := by
  rw [checkSubstituteClientState]
  rcases h with ⟨e, he⟩ | ⟨light, hc, hrec, hover⟩
  · exact ⟨e, exec_lift_bind_of_error he ..⟩
  · obtain ⟨newClientState, hnew⟩ := recoverable_iff.mp hrec
    rw [exec_lift_bind_of_ok hc.heights_eq, exec_lift_bind_of_ok hc.subject_eq,
      exec_lift_bind_of_ok hc.substitute_eq, exec_lift_bind_of_ok (ensure_of rfl),
      exec_lift_bind_of_ok hnew]
    exact ⟨_, exec_lift_bind_of_error (add_of_le hover) ..⟩

/-! ### The time and the block -/

lemma getProcessedTime_withConsensusMeta (hreads : ReadsBack H) {pre : String} :
    getProcessedTime H (withConsensusMeta H env pre height storage) pre height = .ok env.time := by
  rw [getProcessedTime, withConsensusMeta_processedTimeKey, mustDeserialize, hreads.time,
    ofExcept_ok]

lemma getProcessedHeight_withConsensusMeta (hreads : ReadsBack H) {pre : String} :
    getProcessedHeight H (withConsensusMeta H env pre height storage) pre height =
      .ok (getSelfHeight env.height) := by
  rw [getProcessedHeight, withConsensusMeta_processedHeightKey, mustDeserialize, hreads.height,
    ofExcept_ok]

lemma copied_keyText_of_ne {suffix : String} (hsuffix : EndsNumber suffix.toList)
    (hne : height ≠ height') :
    copied H env storage height' (utf8 (keyText SUBJECT_PREFIX height suffix)) =
      storage (utf8 (keyText SUBJECT_PREFIX height suffix)) :=
  copied_of_ne fun _ hsuffix' h => hne ((utf8_keyText_inj hsuffix hsuffix').mp h).1

/-! ### Copying the range -/

/-- Two stores agree on what the subject has for a height. -/
structure SameEntries (H : Host) (before after : Storage) (height : Height) : Prop where
  consensusState : getConsensusState after SUBJECT_PREFIX height =
    getConsensusState before SUBJECT_PREFIX height
  processedTime : getProcessedTime H after SUBJECT_PREFIX height =
    getProcessedTime H before SUBJECT_PREFIX height
  processedHeight : getProcessedHeight H after SUBJECT_PREFIX height =
    getProcessedHeight H before SUBJECT_PREFIX height

lemma sameEntries_copied (hne : height ≠ height') :
    SameEntries H storage (copied H env storage height') height := by
  refine ⟨?_, ?_, ?_⟩
  · rw [getConsensusState, getConsensusState, consensusStateKey_eq,
      copied_keyText_of_ne (by simp) hne]
  · rw [getProcessedTime, getProcessedTime, processedTimeKey_eq,
      copied_keyText_of_ne (by simp) hne]
  · rw [getProcessedHeight, getProcessedHeight, processedHeightKey_eq,
      copied_keyText_of_ne (by simp) hne]

/-- **A substitution copies the whole range.** No initial height in the substitute's revision up to
its latest one is refused; where the call succeeds, the subject has the substitute's time and block
for each height of the range at which the substitute has a consensus state; and what the subject
has for other heights is what it had. -/
structure CopiesRange (H : Host) (env : Env) (storage : Storage)
    (me substituteClientState : ClientState) (subjectConsensusState : ConsensusState)
    (initialHeight : Height) : Prop where
  accepts : ∀ latestHeight, substituteClientState.latestHeight = some latestHeight →
    InRange initialHeight latestHeight initialHeight →
    ¬ HeightsRefused H env me substituteClientState subjectConsensusState initialHeight
  copies : ∀ response storage' latestHeight height,
    exec (checkSubstituteClientState H env me substituteClientState subjectConsensusState
      initialHeight) storage = (.ok response, storage') →
    substituteClientState.latestHeight = some latestHeight →
    InRange initialHeight latestHeight height →
    (storage (consensusStateKey SUBSTITUTE_PREFIX height)).isSome →
    getProcessedTime H storage' SUBJECT_PREFIX height =
        getProcessedTime H storage SUBSTITUTE_PREFIX height ∧
      getProcessedHeight H storage' SUBJECT_PREFIX height =
        getProcessedHeight H storage SUBSTITUTE_PREFIX height
  frame : ∀ response storage' latestHeight height,
    exec (checkSubstituteClientState H env me substituteClientState subjectConsensusState
      initialHeight) storage = (.ok response, storage') →
    substituteClientState.latestHeight = some latestHeight →
    ¬ InRange initialHeight latestHeight height → SameEntries H storage storage' height

/-- The substitute's consensus state at the height was processed in this very block. -/
def ProcessedNow (H : Host) (env : Env) (storage : Storage) (height : Height) : Prop :=
  getProcessedTime H storage SUBSTITUTE_PREFIX height = .ok env.time ∧
    getProcessedHeight H storage SUBSTITUTE_PREFIX height = .ok (getSelfHeight env.height)

/-- The initial height is in the range, and either it is below the latest one; or nothing that is
checked before copying is in the way, and the end of the range overflows, or the call goes through
and the substitute has a consensus state that was not processed in this very block. -/
def Unfaithful (H : Host) (env : Env) (storage : Storage) (me substituteClientState : ClientState)
    (subjectConsensusState : ConsensusState) (initialHeight : Height) : Prop :=
  ∃ latestHeight, substituteClientState.latestHeight = some latestHeight ∧
    InRange initialHeight latestHeight initialHeight ∧
    (initialHeight.revisionHeight < latestHeight.revisionHeight ∨
      ∃ light, Comparable H me substituteClientState initialHeight light ∧
        Recoverable env me subjectConsensusState light ∧
        (2 ^ 64 ≤ initialHeight.revisionHeight.toNat + 1 ∨
          Fresh H env storage me initialHeight light ∧
            (storage (consensusStateKey SUBSTITUTE_PREFIX initialHeight)).isSome ∧
            ¬ ProcessedNow H env storage initialHeight))

lemma InRange.eq_latest (h : InRange initialHeight latestHeight height)
    (heq : height.revisionHeight = latestHeight.revisionHeight) : height = latestHeight := by
  cases height
  cases latestHeight
  rw [Height.mk.injEq]
  exact ⟨h.revision, heq⟩

lemma inRange_self (height : Height) : InRange height height height :=
  ⟨rfl, UInt64.le_refl _, UInt64.le_refl _⟩

lemma inRange_iff_eq : InRange latestHeight latestHeight height ↔ height = latestHeight := by
  constructor
  · exact fun h => h.eq_latest (UInt64.le_antisymm h.to_latest h.from_initial)
  · rintro rfl
    exact inRange_self _

lemma not_copiesRange (hreads : ReadsBack H)
    (h : Unfaithful H env storage me substituteClientState subjectConsensusState initialHeight) :
    ¬ CopiesRange H env storage me substituteClientState subjectConsensusState initialHeight := by
  intro hcopies
  obtain ⟨latestHeight, hlatest, hrange, hbad⟩ := h
  have haccepts := hcopies.accepts latestHeight hlatest hrange
  rcases hbad with hlt | ⟨light, hc, hrec, hbad⟩
  · -- the guard wants the two heights to be equal
    rcases hcheck : checkHeights me substituteClientState initialHeight with e | height
    · exact haccepts (.inl ⟨e, hcheck⟩)
    · have hinitial := (checkHeights_eq_ok.mp hcheck).1
      rw [hlatest] at hinitial
      rw [Option.some.inj hinitial] at hlt
      exact UInt64.lt_irrefl _ hlt
  rcases Nat.lt_or_ge (initialHeight.revisionHeight.toNat + 1) (2 ^ 64) with hroom | hover
  · obtain ⟨hfresh, hstate, hnow⟩ := hbad.resolve_left (Nat.not_le.mpr hroom)
    obtain ⟨newClientState, hnew⟩ := recoverable_iff.mp hrec
    have hexec := checkSubstituteClientState_eq_ok.mpr
      ⟨light, newClientState, hc, hnew, hroom, hfresh, rfl, rfl⟩
    obtain ⟨htime, hheight⟩ := hcopies.copies _ _ initialHeight initialHeight hexec
      hc.latestHeight_eq (inRange_self _) hstate
    rw [copied, getProcessedTime_withConsensusMeta hreads] at htime
    rw [copied, getProcessedHeight_withConsensusMeta hreads] at hheight
    exact hnow ⟨htime.symm, hheight.symm⟩
  · exact haccepts (.inr ⟨light, hc, hrec, hover⟩)

/-- **What a substitution copies** is the whole range exactly where the initial height is the latest
one and has been processed in the same block. -/
theorem copiesRange_iff (hreads : ReadsBack H) :
    CopiesRange H env storage me substituteClientState subjectConsensusState initialHeight ↔
      ¬ Unfaithful H env storage me substituteClientState subjectConsensusState initialHeight := by
  refine ⟨fun hcopies h => not_copiesRange hreads h hcopies, fun h => ⟨?_, ?_, ?_⟩⟩
  · intro latestHeight hlatest hrange hrefused
    refine h ⟨latestHeight, hlatest, hrange, ?_⟩
    rcases hrefused with ⟨e, he⟩ | ⟨light, hc, hrec, hover⟩
    · left
      refine UInt64.lt_of_le_of_ne hrange.to_latest fun heq => ?_
      rw [← hrange.eq_latest heq] at hlatest
      rw [checkHeights_eq_ok.mpr ⟨hlatest, rfl⟩] at he
      cases he
    · exact .inr ⟨light, hc, hrec, .inl hover⟩
  · intro response storage' latestHeight height hexec hlatest hrange hstate
    obtain ⟨light, newClientState, hc, hnew, hroom, hfresh, -, rfl⟩ :=
      checkSubstituteClientState_eq_ok.mp hexec
    obtain rfl := Option.some.inj (hc.latestHeight_eq.symm.trans hlatest)
    obtain rfl := inRange_iff_eq.mp hrange
    have hnow : ProcessedNow H env storage height := by
      by_contra hnow
      exact h ⟨height, hlatest, hrange, .inr ⟨light, hc, recoverable_iff.mpr ⟨_, hnew⟩,
        .inr ⟨hfresh, hstate, hnow⟩⟩⟩
    rw [copied, getProcessedTime_withConsensusMeta hreads,
      getProcessedHeight_withConsensusMeta hreads, hnow.1, hnow.2]
    exact ⟨rfl, rfl⟩
  · intro response storage' latestHeight height hexec hlatest hrange
    obtain ⟨light, newClientState, hc, hnew, hroom, hfresh, -, rfl⟩ :=
      checkSubstituteClientState_eq_ok.mp hexec
    obtain rfl := Option.some.inj (hc.latestHeight_eq.symm.trans hlatest)
    exact sameEntries_copied (mt inRange_iff_eq.mpr hrange)

namespace Reference

/-- The substitute's consensus state at height 9 was processed at time 50. -/
def substituteStorage : Storage :=
  withConsensusMeta (host []) ⟨1, 50⟩ SUBSTITUTE_PREFIX ⟨0, 9⟩ recoveryStorage

lemma substituteStorage_time :
    getProcessedTime (host []) substituteStorage SUBSTITUTE_PREFIX ⟨0, 9⟩ = .ok 50 :=
  getProcessedTime_withConsensusMeta (readsBack [])

lemma substituteStorage_state {pre : String} {height : Height} (hpre : pre ∈ PREFIXES) :
    substituteStorage (consensusStateKey pre height) =
      recoveryStorage (consensusStateKey pre height) := by
  refine withConsensusMeta_of_ne ?_ ?_
  · rw [consensusStateKey_eq, processedHeightKey_eq, Ne,
      utf8_keyText_eq_iff hpre (by decide) (by simp) (by simp)]
    simp
  · rw [consensusStateKey_eq, processedTimeKey_eq, Ne,
      utf8_keyText_eq_iff hpre (by decide) (by simp) (by simp)]
    simp

lemma substitute_fresh :
    Fresh (host []) ⟨1, 100⟩ substituteStorage (client ⟨0, 7⟩) ⟨0, 9⟩ lightClient := by
  obtain ⟨light, hc, -, -, hfresh, -⟩ := client_leftStale
  obtain rfl := Except.ok.inj (hc.subject_eq.symm.trans (lightClient_read ⟨0, 7⟩ _))
  have hstate : subjectState (host []) substituteStorage ⟨0, 9⟩ =
      subjectState (host []) recoveryStorage ⟨0, 9⟩ := by
    funext height
    rw [subjectState, subjectState, substituteStorage_state (by decide),
      substituteStorage_state (by decide)]
  unfold Fresh at hfresh ⊢
  rwa [hstate]

lemma substitute_unfaithful : Unfaithful (host []) ⟨1, 100⟩ substituteStorage (client ⟨0, 7⟩)
    (client ⟨0, 9⟩) trusted ⟨0, 9⟩ := by
  refine ⟨⟨0, 9⟩, rfl, inRange_self _, .inr ⟨lightClient,
    ⟨rfl, lightClient_read ⟨0, 7⟩ _, lightClient_read ⟨0, 9⟩ _⟩, recoverable_trusted _,
    .inr ⟨substitute_fresh, ?_, ?_⟩⟩⟩
  · rw [substituteStorage_state (by decide), recoveryStorage, Function.update_self]
    rfl
  · rintro ⟨htime, -⟩
    rw [substituteStorage_time] at htime
    exact absurd (Except.ok.inj htime) (by decide)

end Reference

/-- The time at which the substitute's height 9 was processed is lost, and a range that begins at
height 8 is refused. -/
theorem substitution_restamps :
    ¬ CopiesRange (Reference.host []) ⟨1, 100⟩ Reference.substituteStorage
        (Reference.client ⟨0, 7⟩) (Reference.client ⟨0, 9⟩) Reference.trusted ⟨0, 9⟩ ∧
      ¬ CopiesRange (Reference.host []) ⟨1, 100⟩ Reference.substituteStorage
        (Reference.client ⟨0, 7⟩) (Reference.client ⟨0, 9⟩) Reference.trusted ⟨0, 8⟩ ∧
      ∃ e, exec (checkSubstituteClientState (Reference.host []) ⟨1, 100⟩
        (Reference.client ⟨0, 7⟩) (Reference.client ⟨0, 9⟩) Reference.trusted ⟨0, 8⟩)
          Reference.substituteStorage = (.error e, Reference.substituteStorage) :=
  ⟨not_copiesRange (Reference.readsBack []) Reference.substitute_unfaithful,
    not_copiesRange (Reference.readsBack [])
      ⟨⟨0, 9⟩, rfl, ⟨rfl, UInt64.le_refl _, by decide⟩, .inl (by decide)⟩,
    HeightsRefused.fails (.inl ⟨_, rfl⟩)⟩

theorem copiesRange_iff_nine :
    CopiesRange (Reference.host []) ⟨1, 50⟩ Reference.substituteStorage
      (Reference.client ⟨0, 7⟩) (Reference.client ⟨0, 9⟩) Reference.trusted ⟨0, 9⟩ := by
  refine (copiesRange_iff (Reference.readsBack [])).mpr ?_
  rintro ⟨latestHeight, hlatest, -, hlt | ⟨light, -, -, hover | ⟨-, -, hnow⟩⟩⟩
  · obtain rfl := Option.some.inj hlatest
    exact absurd hlt (by decide)
  · exact absurd hover (by decide)
  · exact hnow ⟨Reference.substituteStorage_time,
      getProcessedHeight_withConsensusMeta (Reference.readsBack [])⟩

end CeloLightClient.Contract

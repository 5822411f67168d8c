import CeloLightClient.Contract.Reference

/-!
What setting a consensus state changes, and what is read back.

No two entries of the store share a key, so one write changes one entry. But the writer serializes
the bytes it is given and the reader returns the bytes there are, and the text of some bytes is
never those bytes.
-/

namespace CeloLightClient.Contract

open Lib Lib.Outcome

variable {H : Host} {storage : Storage} {pre : String} {height : Height} {bytes : Bytes}

/-- The store after a consensus state has been set. -/
def withConsensusState (H : Host) (storage : Storage) (pre : String) (height : Height)
    (bytes : Bytes) : Storage := ((setConsensusState H pre height bytes).exec storage).2

/-- Nothing has changed that is read of another prefix or height, nor when anything was
processed. -/
structure Untouched (H : Host) (before after : Storage) (pre : String) (height : Height) :
    Prop where
  consensusState : ∀ pre' ∈ PREFIXES, ∀ height', (pre', height') ≠ (pre, height) →
    getConsensusState after pre' height' = getConsensusState before pre' height'
  processedTime : ∀ pre' ∈ PREFIXES, ∀ height',
    getProcessedTime H after pre' height' = getProcessedTime H before pre' height'
  processedHeight : ∀ pre' ∈ PREFIXES, ∀ height',
    getProcessedHeight H after pre' height' = getProcessedHeight H before pre' height'

/-- What is set is read, and nothing else has changed. -/
structure StoreLaw (H : Host) (storage : Storage) (pre : String) (height : Height)
    (bytes : Bytes) : Prop where
  readsBack : getConsensusState (withConsensusState H storage pre height bytes) pre height =
    .ok bytes
  frame : Untouched H storage (withConsensusState H storage pre height bytes) pre height

/-! ### What is read -/

lemma getConsensusState_withConsensusState :
    getConsensusState (withConsensusState H storage pre height bytes) pre height =
      .ok (H.toVec (.bytes bytes)) := by
  simp [getConsensusState, withConsensusState]

lemma withConsensusState_keyText {pre' suffix : String} {height' : Height} (hpre : pre ∈ PREFIXES)
    (hpre' : pre' ∈ PREFIXES) (hsuffix : EndsNumber suffix.toList)
    (h : ¬ (pre' = pre ∧ height' = height ∧ suffix = "")) :
    withConsensusState H storage pre height bytes (utf8 (keyText pre' height' suffix)) =
      storage (utf8 (keyText pre' height' suffix)) := by
  rw [withConsensusState, exec_setConsensusState, consensusStateKey_eq]
  refine Function.update_of_ne ?_ ..
  rwa [Ne, utf8_keyText_eq_iff hpre' hpre hsuffix (by simp)]

/-- **One entry changes.** -/
lemma untouched_withConsensusState (hpre : pre ∈ PREFIXES) :
    Untouched H storage (withConsensusState H storage pre height bytes) pre height where
  consensusState pre' hpre' height' h := by
    have hne : ¬ (pre' = pre ∧ height' = height ∧ "" = "") :=
      fun heq => h (by rw [heq.1, heq.2.1])
    rw [getConsensusState, consensusStateKey_eq,
      withConsensusState_keyText hpre hpre' (by simp) hne, getConsensusState, consensusStateKey_eq]
  processedTime pre' hpre' height' := by
    have hne : ¬ (pre' = pre ∧ height' = height ∧ "/processedTime" = "") := by simp
    rw [getProcessedTime, processedTimeKey_eq,
      withConsensusState_keyText hpre hpre' (by simp) hne, getProcessedTime, processedTimeKey_eq]
  processedHeight pre' hpre' height' := by
    have hne : ¬ (pre' = pre ∧ height' = height ∧ "/processedHeight" = "") := by simp
    rw [getProcessedHeight, processedHeightKey_eq,
      withConsensusState_keyText hpre hpre' (by simp) hne, getProcessedHeight,
      processedHeightKey_eq]

/-- **The store law never holds**: what is read is the text of what was set, which is longer. The
frame does hold. -/
theorem not_storeLaw (hpre : pre ∈ PREFIXES)
    (htext : H.toVec (.bytes bytes) = Json.toVec (.bytes bytes)) :
    ¬ StoreLaw H storage pre height bytes ∧
      getConsensusState (withConsensusState H storage pre height bytes) pre height =
        .ok (Json.toVec (.bytes bytes)) ∧
      Untouched H storage (withConsensusState H storage pre height bytes) pre height := by
  have hread : getConsensusState (withConsensusState H storage pre height bytes) pre height =
      .ok (Json.toVec (.bytes bytes)) := getConsensusState_withConsensusState.trans (by rw [htext])
  refine ⟨fun h => ?_, hread, untouched_withConsensusState hpre⟩
  have hsame : Json.toVec (.bytes bytes) = bytes := Except.ok.inj (hread.symm.trans h.readsBack)
  have hlonger := Json.length_lt_toVec_bytes bytes
  rw [hsame] at hlonger
  exact lt_irrefl _ hlonger

/-- Two bytes are set, and five are read. -/
theorem storeLaw_two_bytes :
    getConsensusState (withConsensusState (Reference.host []) (fun _ => none) EMPTY_PREFIX ⟨0, 7⟩
        [1, 2]) EMPTY_PREFIX ⟨0, 7⟩ = .ok (utf8 "[1,2]") ∧
      ¬ StoreLaw (Reference.host []) (fun _ => none) EMPTY_PREFIX ⟨0, 7⟩ [1, 2] := by
  have hread : getConsensusState (withConsensusState (Reference.host []) (fun _ => none)
      EMPTY_PREFIX ⟨0, 7⟩ [1, 2]) EMPTY_PREFIX ⟨0, 7⟩ = .ok (utf8 "[1,2]") :=
    getConsensusState_withConsensusState
  refine ⟨hread, fun h => ?_⟩
  have hsame := Except.ok.inj (hread.symm.trans h.readsBack)
  exact absurd hsame (by decide)

theorem not_storeLaw_two_bytes :
    ¬ StoreLaw (Reference.host []) (fun _ => none) SUBSTITUTE_PREFIX ⟨0, 9⟩ [1, 2] :=
  (not_storeLaw (by decide) rfl).1

end CeloLightClient.Contract

import CeloLightClient.Contract.Upgrade
import CeloLightClient.Contract.Refinement

/-!
The latest height of a client over a run of updates.

Each update returns a client state, which the next one is called with. An upgrade must go to a
height above the latest one, so the latest height should be at least that of every header that has
been accepted. But the client state that comes with a new header is the old one, and its latest
height stays what it was.
-/

namespace CeloLightClient.Contract

open Lib Lib.Outcome Lib.Action

/-- A header with the consensus state it extends, or an upgrade. The client state that either is
called with is not part of it. -/
inductive Update
  | header (env : Env) (wasmHeader : WasmHeader) (consensusState : ConsensusState)
  | upgrade (env : Env) (u : Upgrade)

/-- A client state with the store. -/
abbrev ClientStore := ClientState × Storage

variable {H : Host} {s s' : ClientStore} {u : Update} {l : List (Update × ClientStore)}

/-- The update succeeds, and returns the client state that comes next. -/
def UpdateStep (H : Host) (s : ClientStore) (u : Update) (s' : ClientStore) : Prop :=
  match u with
  | .header env wasmHeader consensusState => ∃ response newConsensusState,
    exec (handle H env (.CheckHeaderAndUpdateState wasmHeader consensusState s.1)) s.2 =
      (.ok response, s'.2) ∧
    response.data = some (H.toVec (updateResult s'.1 newConsensusState))
  | .upgrade env u => ∃ response newConsensusState,
    exec (handle H env (Upgrade.msg { u with me := s.1 })) s.2 = (.ok response, s'.2) ∧
    response.data = some (H.toVec (upgradeResult s'.1 newConsensusState))

/-- The height of a header that is accepted. -/
def Update.headerHeight : Update → Option Height
  | .header _ wasmHeader _ => some wasmHeader.height
  | .upgrade .. => none

/-- The height that an upgrade goes to. -/
def Update.upgradeHeight : Update → Option Height
  | .header .. => none
  | .upgrade _ u => u.newClientState.latestHeight

/-- The client's latest height is at least `height`. -/
def AtLeast (height : Height) (me : ClientState) : Prop :=
  ∃ latest, me.latestHeight = some latest ∧ height ≤ latest

/-- **The latest height tracks the accepted headers**: it never decreases, it is at least the height
of every header so far, and so an upgrade goes above them all. -/
structure TracksLatest (s : ClientStore) (l : List (Update × ClientStore)) : Prop where
  monotone : ∀ l₁ x l₂, l = l₁ ++ x :: l₂ → ∀ latest,
    (final s l₁).1.latestHeight = some latest → AtLeast latest x.2.1
  covers : ∀ l₁ x l₂, l = l₁ ++ x :: l₂ → ∀ y ∈ l₁ ++ [x], ∀ height,
    y.1.headerHeight = some height → AtLeast height x.2.1
  above : ∀ l₁ x l₂, l = l₁ ++ x :: l₂ → ∀ newHeight, x.1.upgradeHeight = some newHeight →
    ∀ y ∈ l₁, ∀ height, y.1.headerHeight = some height → height < newHeight

/-- The update is a header above the latest height of the client state that it is sent with. -/
def RunsAhead (me : ClientState) (u : Update) : Prop :=
  ∃ height, u.headerHeight = some height ∧ ¬ AtLeast height me

/-! ### One step -/

lemma UpdateStep.header_eq (htoVec : Function.Injective H.toVec) {env : Env}
    {wasmHeader : WasmHeader} {consensusState : ConsensusState}
    (h : UpdateStep H s (.header env wasmHeader consensusState) s') : s'.1 = s.1 := by
  obtain ⟨response, newConsensusState, hexec, hdata⟩ := h
  obtain ⟨header, snapshot, state, light, -, rfl, -⟩ := checkHeaderAndUpdateState_eq_ok.mp hexec
  have hjson := htoVec (Option.some.inj hdata)
  simp only [updateResult, Json.obj.injEq, List.cons.injEq, Prod.mk.injEq, true_and] at hjson
  exact (ClientState.json_injective hjson.1).symm

lemma UpdateStep.upgrade_spec (htoVec : Function.Injective H.toVec) {env : Env} {u : Upgrade}
    (h : UpdateStep H s (.upgrade env u) s') :
    s'.1 = u.newClientState ∧ ∃ latest newHeight, s.1.latestHeight = some latest ∧
      s'.1.latestHeight = some newHeight ∧ latest < newHeight := by
  obtain ⟨response, newConsensusState, hexec, hdata⟩ := h
  obtain ⟨d, hd, -, -, rfl, -⟩ := verifyUpgradeAndUpdateState_eq_ok.mp hexec
  have hjson := htoVec (Option.some.inj hdata)
  simp only [upgradeResult, Json.obj.injEq, List.cons.injEq, Prod.mk.injEq, true_and] at hjson
  have hnew := ClientState.json_injective hjson.1
  exact ⟨hnew.symm, d.height, d.newHeight, hd.height_eq, hnew ▸ hd.newHeight_eq, hd.later⟩

lemma UpdateStep.atLeast (htoVec : Function.Injective H.toVec) (h : UpdateStep H s u s')
    {height : Height} (hs : AtLeast height s.1) : AtLeast height s'.1 := by
  cases u with
  | header env wasmHeader consensusState => rwa [h.header_eq htoVec]
  | upgrade env u =>
    obtain ⟨-, latest, newHeight, hlatest, hnew, hlt⟩ := h.upgrade_spec htoVec
    obtain ⟨latest', hlatest', hle⟩ := hs
    obtain rfl := Option.some.inj (hlatest.symm.trans hlatest')
    exact ⟨newHeight, hnew, hle.trans hlt.le⟩

lemma UpdateStep.above (htoVec : Function.Injective H.toVec) (h : UpdateStep H s u s')
    {height newHeight : Height} (hnew : u.upgradeHeight = some newHeight)
    (hs : AtLeast height s.1) : height < newHeight := by
  cases u with
  | header env wasmHeader consensusState => cases hnew
  | upgrade env u =>
    obtain ⟨heq, latest, newHeight', hlatest, hnew', hlt⟩ := h.upgrade_spec htoVec
    obtain ⟨latest', hlatest', hle⟩ := hs
    obtain rfl := Option.some.inj (hlatest.symm.trans hlatest')
    rw [heq] at hnew'
    obtain rfl := Option.some.inj (hnew.symm.trans hnew')
    exact hle.trans_lt hlt

/-! ### Runs -/

/-- The client's latest height is at least that of every header in the history. -/
def Covers (history : List (Update × ClientStore)) (s : ClientStore) : Prop :=
  ∀ y ∈ history, ∀ height, y.1.headerHeight = some height → AtLeast height s.1

lemma Covers.step (htoVec : Function.Injective H.toVec) {history : List (Update × ClientStore)}
    (hstep : UpdateStep H s u s') (hahead : ¬ RunsAhead s.1 u) (hs : Covers history s) :
    Covers (history ++ [(u, s')]) s' := by
  intro y hy height hheight
  rcases List.mem_append.mp hy with hy | hy
  · exact hstep.atLeast htoVec (hs y hy height hheight)
  · obtain rfl := List.mem_singleton.mp hy
    refine hstep.atLeast htoVec ?_
    by_contra hnot
    exact hahead ⟨height, hheight, hnot⟩

lemma not_runsAhead (htoVec : Function.Injective H.toVec) (hstep : UpdateStep H s u s')
    (hcovers : ∀ height, u.headerHeight = some height → AtLeast height s'.1) :
    ¬ RunsAhead s.1 u := by
  rintro ⟨height, hheight, hnot⟩
  cases u with
  | header env wasmHeader consensusState =>
    exact hnot (hstep.header_eq htoVec ▸ hcovers height hheight)
  | upgrade env u => cases hheight

/-- **The latest height tracks the accepted headers** exactly in the runs where no header is above
the latest height of the client state that it is sent with. -/
theorem tracksLatest_iff (htoVec : Function.Injective H.toVec) (h : Trace (UpdateStep H) s l) :
    TracksLatest s l ↔ ∀ l₁ x l₂, l = l₁ ++ x :: l₂ → ¬ RunsAhead (final s l₁).1 x.1 := by
  have hsteps : ∀ l₁ x l₂, l = l₁ ++ x :: l₂ → UpdateStep H (final s l₁) x.1 x.2 :=
    fun l₁ x l₂ hl => (Trace.cons_iff.mp (Trace.append_iff.mp (hl ▸ h)).2).1
  constructor
  · intro htracks l₁ x l₂ hl
    exact not_runsAhead htoVec (hsteps l₁ x l₂ hl)
      (htracks.covers l₁ x l₂ hl x (by simp))
  · intro hahead
    have hcovers : ∀ l₁ l₂, l = l₁ ++ l₂ → Covers l₁ (final s l₁) :=
      h.invariant_history (fun y hy => by simp at hy) fun l₁ x l₂ hl hstep hs =>
        hs.step htoVec hstep (hahead l₁ x l₂ hl)
    refine ⟨fun l₁ x l₂ hl latest hlatest => ?_, fun l₁ x l₂ hl => ?_,
      fun l₁ x l₂ hl newHeight hnew y hy height hheight => ?_⟩
    · exact (hsteps l₁ x l₂ hl).atLeast htoVec ⟨latest, hlatest, le_rfl⟩
    · have hx := hcovers (l₁ ++ [x]) l₂ (by simp [hl])
      rwa [final_append] at hx
    · exact (hsteps l₁ x l₂ hl).above htoVec hnew (hcovers l₁ _ hl y hy height hheight)

namespace Reference

/-- Header 8, sent with a client state of some latest height. -/
def headerUpdate : Update := .header ⟨1, 100⟩ (wasmHeader ⟨0, 8⟩ header₈) trusted

lemma headerUpdate_run (latestHeight : Height) : ∃ storage,
    Trace (UpdateStep (host [])) (client latestHeight, fun _ => none)
      [(headerUpdate, (client latestHeight, storage))] := by
  obtain ⟨state, hupdates⟩ := header₈_updates 1 ⟨0, 8⟩ latestHeight
  exact ⟨_, .cons ⟨_, _, checkHeaderAndUpdateState_eq_ok.mpr ⟨_, _, _, _, hupdates, rfl, rfl⟩, rfl⟩
    (.nil _)⟩

lemma runsAhead_iff {latestHeight : Height} :
    RunsAhead (client latestHeight) headerUpdate ↔ ¬ (⟨0, 8⟩ : Height) ≤ latestHeight := by
  constructor
  · rintro ⟨height, hheight, hnot⟩ hle
    obtain rfl := Option.some.inj hheight
    exact hnot ⟨latestHeight, rfl, hle⟩
  · refine fun hnot => ⟨⟨0, 8⟩, rfl, ?_⟩
    rintro ⟨latest, hlatest, hle⟩
    obtain rfl := Option.some.inj hlatest
    exact hnot hle

end Reference

/-- A client at height 7 is still there after header 8. -/
theorem latest_behind :
    ∃ l, Trace (UpdateStep (Reference.host [])) (Reference.client ⟨0, 7⟩, fun _ => none) l ∧
      ¬ TracksLatest (Reference.client ⟨0, 7⟩, fun _ => none) l := by
  obtain ⟨storage, hrun⟩ := Reference.headerUpdate_run ⟨0, 7⟩
  refine ⟨_, hrun, fun htracks => ?_⟩
  have hcovers := htracks.covers [] _ [] rfl _ List.mem_cons_self
  exact not_runsAhead Json.toVec_injective (Trace.cons_iff.mp hrun).1 hcovers
    (Reference.runsAhead_iff.mpr (by decide))

theorem tracksLatest_iff_nine :
    ∃ l, Trace (UpdateStep (Reference.host [])) (Reference.client ⟨0, 9⟩, fun _ => none) l ∧
      l ≠ [] ∧ TracksLatest (Reference.client ⟨0, 9⟩, fun _ => none) l := by
  obtain ⟨storage, hrun⟩ := Reference.headerUpdate_run ⟨0, 9⟩
  refine ⟨_, hrun, List.cons_ne_nil _ _, (tracksLatest_iff Json.toVec_injective hrun).mpr ?_⟩
  intro l₁ x l₂ hl
  cases l₁ with
  | nil =>
    obtain rfl := List.head_eq_of_cons_eq hl
    exact fun hahead => Reference.runsAhead_iff.mp hahead (by decide)
  | cons y l₁ => simp at hl

end CeloLightClient.Contract

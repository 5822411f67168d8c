import CeloLightClient.Contract.Accountability
import CeloLightClient.Contract.LatestHeight
import CeloLightClient.Contract.Liveness

/-!
The life of a client: headers, misbehaviour, upgrades and substitutions, in any order.

Every message is sent with the client state that the last one returned. What a message may change
of it is little. A header changes nothing, misbehaviour only freezes, a substitution only thaws and
sets the height, and everything else of a client is what an upgrade has made it.
-/

namespace CeloLightClient.Contract

open Lib Lib.Outcome Lib.Action

/-- What happens to a client. The client state that it is sent with is not part of it. The other two
messages, `InitializeState` and `ZeroCustomFields`, return no `new_client_state`. -/
inductive Event
  | header (wasmHeader : WasmHeader) (consensusState : ConsensusState)
  | misbehaviour (evidence : Misbehaviour) (consensusState₁ consensusState₂ : ConsensusState)
  | upgrade (u : Upgrade)
  | substitution (substituteClientState : ClientState) (subjectConsensusState : ConsensusState)
      (initialHeight : Height)

/-- The message for an event. -/
def Event.msg (me : ClientState) : Event → HandleMsg
  | .header wasmHeader consensusState => .CheckHeaderAndUpdateState wasmHeader consensusState me
  | .misbehaviour evidence consensusState₁ consensusState₂ =>
    .CheckMisbehaviourAndUpdateState me evidence consensusState₁ consensusState₂
  | .upgrade u => Upgrade.msg { u with me := me }
  | .substitution substituteClientState subjectConsensusState initialHeight =>
    .CheckSubstituteAndUpdateState me substituteClientState subjectConsensusState initialHeight

/-- An event, with the consensus state that the contract returns, if it returns one. -/
structure Occurrence where
  env : Env
  event : Event
  newConsensusState : Option ConsensusState

variable {H : Host} {s s' : ClientStore} {o : Occurrence} {l : List (Occurrence × ClientStore)}
  {me me' : ClientState} {newConsensusState : Option ConsensusState} {response : HandleResponse}
  {height : Height}

/-- The response says what the client's state is now, and may come with a consensus state. -/
def Returns (H : Host) (response : HandleResponse) (me : ClientState)
    (newConsensusState : Option ConsensusState) : Prop :=
  ∃ fields, response.data = some (H.toVec (.obj fields)) ∧
    fields.lookup "new_client_state" = some me.json ∧
    fields.lookup "new_consensus_state" = newConsensusState.map ConsensusState.json

/-- The event is accepted, and the client's state becomes the one that is returned. -/
def EventStep (H : Host) (s : ClientStore) (o : Occurrence) (s' : ClientStore) : Prop :=
  ∃ response, exec (handle H o.env (o.event.msg s.1)) s.2 = (.ok response, s'.2) ∧
    Returns H response s'.1 o.newConsensusState

/-! ### What each event does -/

/-- The consensus state that a header leads to. -/
def headerConsensusState (H : Host) (consensusState : ConsensusState) (header : Header)
    (state : Snapshot) : ConsensusState where
  codeId := consensusState.codeId
  data := H.base64.encode (state.toRlp H.rlp)
  timestamp := header.time
  root := ⟨H.base64.encode header.root.1⟩

inductive Happens (H : Host) (s : ClientStore) : Occurrence → ClientStore → Prop
  | header {env : Env} {wasmHeader : WasmHeader} {consensusState : ConsensusState}
      (header : Header) (snapshot state : Snapshot) (light : LightClientState) :
      Updates H env s.1 consensusState wasmHeader header snapshot state light →
      Happens H s ⟨env, .header wasmHeader consensusState,
          some (headerConsensusState H consensusState header state)⟩
        (s.1, withConsensusMeta H env EMPTY_PREFIX wasmHeader.height s.2)
  | misbehaviour {env : Env} {misbehaviour : Misbehaviour}
      {consensusState₁ consensusState₂ : ConsensusState} (header₁ header₂ : Header)
      (snapshot₁ snapshot₂ : Snapshot) :
      Evidence H s.1 misbehaviour consensusState₁ consensusState₂ header₁ header₂ snapshot₁
        snapshot₂ →
      Happens H s ⟨env, .misbehaviour misbehaviour consensusState₁ consensusState₂, none⟩
        (s.1.freeze misbehaviour.header₁.height, s.2)
  | upgrade {env : Env} {u : Upgrade} (d : UpgradeData H) :
      Upgradable H env { u with me := s.1 } d → ShowsClient H u d d.proofConsensus →
      ShowsConsensus H u d d.proofClient →
      Happens H s ⟨env, .upgrade u, some u.newConsensusState⟩
        (u.newClientState, withConsensusMeta H env EMPTY_PREFIX d.newHeight s.2)
  | substitution {env : Env} {substituteClientState : ClientState}
      {subjectConsensusState : ConsensusState} {initialHeight : Height} (light : LightClientState)
      (recovered : ClientState) :
      Comparable H s.1 substituteClientState initialHeight light →
      recoveredClientState env.time s.1 subjectConsensusState light = .ok recovered →
      initialHeight.revisionHeight.toNat + 1 < 2 ^ 64 →
      Fresh H env s.2 s.1 initialHeight light →
      Happens H s ⟨env, .substitution substituteClientState subjectConsensusState initialHeight,
          none⟩
        ({ recovered with latestHeight := some initialHeight }, copied H env s.2 initialHeight)

lemma returns_iff (htoVec : Function.Injective H.toVec) {fields : List (String × Json)}
    (hdata : response.data = some (H.toVec (.obj fields))) :
    Returns H response me newConsensusState ↔
      fields.lookup "new_client_state" = some me.json ∧
        fields.lookup "new_consensus_state" = newConsensusState.map ConsensusState.json := by
  constructor
  · rintro ⟨fields', hdata', hme, hconsensus⟩
    have hfields := Json.obj.inj (htoVec (Option.some.inj (hdata.symm.trans hdata')))
    rw [hfields]
    exact ⟨hme, hconsensus⟩
  · exact fun ⟨hme, hconsensus⟩ => ⟨fields, hdata, hme, hconsensus⟩

lemma returns_both (htoVec : Function.Injective H.toVec) {fields : List (String × Json)}
    {consensusState : ConsensusState} (hdata : response.data = some (H.toVec (.obj fields)))
    (hclient : fields.lookup "new_client_state" = some me.json)
    (hconsensus : fields.lookup "new_consensus_state" = some consensusState.json) :
    Returns H response me' newConsensusState ↔
      me' = me ∧ newConsensusState = some consensusState := by
  have hmap : some consensusState.json = newConsensusState.map ConsensusState.json ↔
      newConsensusState = some consensusState := by
    cases newConsensusState with
    | none => simp
    | some c => simp [ConsensusState.json_injective.eq_iff, eq_comm]
  rw [returns_iff htoVec hdata, hclient, hconsensus, hmap, Option.some.injEq,
    ClientState.json_injective.eq_iff, eq_comm]

lemma returns_one (htoVec : Function.Injective H.toVec) {fields : List (String × Json)}
    (hdata : response.data = some (H.toVec (.obj fields)))
    (hclient : fields.lookup "new_client_state" = some me.json)
    (hconsensus : fields.lookup "new_consensus_state" = none) :
    Returns H response me' newConsensusState ↔ me' = me ∧ newConsensusState = none := by
  rw [returns_iff htoVec hdata, hclient, hconsensus, Option.some.injEq,
    ClientState.json_injective.eq_iff, eq_comm, eq_comm (a := none), Option.map_eq_none_iff]

/-- **What each event does**, and when it is accepted. -/
theorem eventStep_iff (htoVec : Function.Injective H.toVec) :
    EventStep H s o s' ↔ Happens H s o s' := by
  obtain ⟨env, event, newConsensusState⟩ := o
  obtain ⟨me', storage'⟩ := s'
  constructor
  · rintro ⟨response, hexec, hreturns⟩
    cases event with
    | header wasmHeader consensusState =>
      obtain ⟨header, snapshot, state, light, hupdates, rfl, rfl⟩ :=
        checkHeaderAndUpdateState_eq_ok.mp hexec
      obtain ⟨rfl, rfl⟩ := (returns_both htoVec rfl rfl rfl).mp hreturns
      exact .header header snapshot state light hupdates
    | misbehaviour evidence consensusState₁ consensusState₂ =>
      obtain ⟨hcheck, rfl⟩ := Prod.mk.inj (exec_lift _ _ ▸ hexec)
      obtain ⟨⟨header₁, header₂, snapshot₁, snapshot₂, he⟩, rfl⟩ :=
        checkMisbehaviour_eq_ok.mp hcheck
      obtain ⟨rfl, rfl⟩ := (returns_one htoVec rfl rfl rfl).mp hreturns
      exact .misbehaviour header₁ header₂ snapshot₁ snapshot₂ he
    | upgrade u =>
      obtain ⟨d, hd, hclient, hconsensus, rfl, rfl⟩ := verifyUpgradeAndUpdateState_eq_ok.mp hexec
      obtain ⟨rfl, rfl⟩ := (returns_both htoVec rfl rfl rfl).mp hreturns
      exact .upgrade d hd hclient hconsensus
    | substitution substituteClientState subjectConsensusState initialHeight =>
      obtain ⟨light, recovered, hc, hnew, hlt, hfresh, rfl, rfl⟩ :=
        checkSubstituteClientState_eq_ok.mp hexec
      obtain ⟨rfl, rfl⟩ := (returns_one htoVec rfl rfl rfl).mp hreturns
      exact .substitution light recovered hc hnew hlt hfresh
  · rintro (⟨header, snapshot, state, light, hupdates⟩ | ⟨_, _, _, _, he⟩ |
      ⟨d, hd, hclient, hconsensus⟩ | ⟨light, recovered, hc, hnew, hlt, hfresh⟩)
    · exact ⟨_, checkHeaderAndUpdateState_eq_ok.mpr ⟨_, _, _, _, hupdates, rfl, rfl⟩,
        (returns_both htoVec rfl rfl rfl).mpr ⟨rfl, rfl⟩⟩
    · have hok := checkMisbehaviour_eq_ok.mpr ⟨⟨_, _, _, _, he⟩, rfl⟩
      exact ⟨_, (exec_lift _ _).trans (by rw [hok]),
        (returns_one htoVec rfl rfl rfl).mpr ⟨rfl, rfl⟩⟩
    · exact ⟨_, verifyUpgradeAndUpdateState_eq_ok.mpr ⟨d, hd, hclient, hconsensus, rfl, rfl⟩,
        (returns_both htoVec rfl rfl rfl).mpr ⟨rfl, rfl⟩⟩
    · exact ⟨_, checkSubstituteClientState_eq_ok.mpr ⟨light, recovered, hc, hnew, hlt, hfresh, rfl,
        rfl⟩, (returns_one htoVec rfl rfl rfl).mpr ⟨rfl, rfl⟩⟩

/-! ### Freezing -/

/-- The height that an event freezes the client at, if it does. -/
def Event.freezeHeight : Event → Option Height
  | .misbehaviour evidence _ _ => some evidence.header₁.height
  | _ => none

/-- The event is a header, or misbehaviour. -/
def Event.Ordinary : Event → Prop
  | .header .. => True
  | .misbehaviour .. => True
  | _ => False

/-- The heights that a run freezes the client at, one after another. -/
def freezeHeights (l : List (Occurrence × ClientStore)) : List Height :=
  l.filterMap fun x => x.1.event.freezeHeight

/-- The client is frozen at the height, unless there is none. -/
def freezeAt (me : ClientState) : Option Height → ClientState
  | some height => me.freeze height
  | none => me

lemma Height.lt_of_not_le {a b : Height} (h : ¬ a ≤ b) : b < a := by
  simp only [Height.le_iff, Height.lt_iff, UInt64.lt_iff_toNat_lt, UInt64.le_iff_toNat_le,
    ← UInt64.toNat_inj] at h ⊢
  omega

lemma lt_of_frozenBy {frozenHeight : Height} (h : frozenBy me height = none)
    (hfrozen : me.frozen = true) (hheight : me.frozenHeight = some frozenHeight) :
    height < frozenHeight := by
  refine Height.lt_of_not_le fun hle => ?_
  simp [frozenBy, hfrozen, hheight, hle] at h

/-- **One ordinary event**: it leaves the client as it is, or freezes it, lower than before. -/
lemma Happens.ordinary (h : Happens H s o s') (ho : o.event.Ordinary) :
    s'.1 = freezeAt s.1 o.event.freezeHeight ∧
      ∀ height ∈ o.event.freezeHeight, frozenBy s.1 height = none := by
  cases h with
  | header => exact ⟨rfl, by simp [Event.freezeHeight]⟩
  | misbehaviour _ _ _ _ he =>
    exact ⟨rfl, fun height hheight => Option.some.inj hheight ▸ he.notFrozen⟩
  | upgrade => cases ho
  | substitution => cases ho

/-- **A client is frozen lower and lower.** In a stretch of a run without upgrades and substitutions
the heights that the client is frozen at fall, from the one that it is frozen at already; and it is
left frozen at the last of them. -/
theorem freezes_fall (htoVec : Function.Injective H.toVec) (h : Trace (EventStep H) s l)
    (hordinary : ∀ x ∈ l, x.1.event.Ordinary) :
    (freezeHeights l).Pairwise (· > ·) ∧
      (∀ frozenHeight, s.1.frozen = true → s.1.frozenHeight = some frozenHeight →
        ∀ height ∈ freezeHeights l, height < frozenHeight) ∧
      (final s l).1 = freezeAt s.1 (freezeHeights l).getLast? := by
  induction h with
  | nil s => exact ⟨.nil, by simp [freezeHeights], rfl⟩
  | @cons s s' o l hstep _ ih =>
    obtain ⟨hnext, hnot⟩ :=
      ((eventStep_iff htoVec).mp hstep).ordinary (hordinary (o, s') (by simp))
    obtain ⟨hfall, hbelow, hlast⟩ := ih fun x hx => hordinary x (by simp [hx])
    rw [final_cons]
    cases hfreeze : o.event.freezeHeight with
    | none =>
      -- the client is what it was
      rw [hfreeze] at hnext
      have hheights : freezeHeights ((o, s') :: l) = freezeHeights l := by
        simp [freezeHeights, hfreeze]
      rw [hheights, ← show s'.1 = s.1 from hnext]
      exact ⟨hfall, hbelow, hlast⟩
    | some height =>
      rw [hfreeze] at hnext hnot
      have hheights : freezeHeights ((o, s') :: l) = height :: freezeHeights l := by
        simp [freezeHeights, hfreeze]
      -- from here on every height is below this one
      have hrest : ∀ height' ∈ freezeHeights l, height' < height :=
        hbelow height (by rw [hnext]; rfl) (by rw [hnext]; rfl)
      rw [hheights]
      refine ⟨List.pairwise_cons.mpr ⟨hrest, hfall⟩, ?_, ?_⟩
      · intro frozenHeight hfrozen hheight
        have hlt := lt_of_frozenBy (hnot height rfl) hfrozen hheight
        exact List.forall_mem_cons.mpr ⟨hlt, fun height' hmem => (hrest height' hmem).trans hlt⟩
      · rw [hlast, hnext]
        cases hl : (freezeHeights l).getLast? with
        | none => rw [List.getLast?_cons, hl]; rfl
        | some last => rw [List.getLast?_cons, hl]; rfl

/-! ### What freezing stops -/

def Event.isMisbehaviour : Event → Bool
  | .misbehaviour .. => true
  | _ => false

def Event.isSubstitution : Event → Bool
  | .substitution .. => true
  | _ => false

/-- The client states differ in whether they are frozen at most, and the stores do not differ. -/
structure SameButFrozen (s t : ClientStore) : Prop where
  codeId_eq : s.1.codeId = t.1.codeId
  data_eq : s.1.data = t.1.data
  latestHeight_eq : s.1.latestHeight = t.1.latestHeight
  storage_eq : s.2 = t.2

lemma SameButFrozen.refl (s : ClientStore) : SameButFrozen s s := ⟨rfl, rfl, rfl, rfl⟩

lemma Happens.unless_frozen {t : ClientStore} (hst : SameButFrozen s t) (h : Happens H s o s')
    (hmisbehaviour : o.event.isMisbehaviour = false)
    (hsubstitution : o.event.isSubstitution = false) :
    ∃ t', Happens H t o t' ∧ SameButFrozen s' t' := by
  obtain ⟨hcode, hdata, hlatest, hstorage⟩ := hst
  cases h with
  | @header env wasmHeader consensusState header snapshot state light hupdates =>
    have hupdates' : Updates H env t.1 consensusState wasmHeader header snapshot state light :=
      ⟨hupdates.header_eq, hupdates.snapshot_eq, hdata ▸ hupdates.lightClientState_eq,
        hupdates.inserted⟩
    exact ⟨_, .header header snapshot state light hupdates', hcode, hdata, hlatest,
      congrArg (withConsensusMeta H env EMPTY_PREFIX _) hstorage⟩
  | misbehaviour => cases hmisbehaviour
  | @upgrade env u d hd hclient hconsensus =>
    obtain ⟨h₁, h₂, h₃, h₄, h₅, h₆, h₇, h₈⟩ := hd
    have hd' : Upgradable H env { u with me := t.1 } d :=
      ⟨h₁, h₂, h₃, hdata ▸ h₄, h₅, hlatest ▸ h₆, h₇, h₈⟩
    exact ⟨_, .upgrade d hd' hclient hconsensus, rfl, rfl, rfl,
      congrArg (withConsensusMeta H env EMPTY_PREFIX _) hstorage⟩
  | substitution => cases hsubstitution

lemma Happens.misbehaviour_same {t : ClientStore} (hst : SameButFrozen s t) (h : Happens H s o s')
    (hmisbehaviour : o.event.isMisbehaviour = true) : SameButFrozen s' t := by
  cases h with
  | misbehaviour => exact ⟨hst.codeId_eq, hst.data_eq, hst.latestHeight_eq, hst.storage_eq⟩
  | header => cases hmisbehaviour
  | upgrade => cases hmisbehaviour
  | substitution => cases hmisbehaviour

/-- **Freezing stops nothing.** In a run without substitutions, leave out the misbehaviour, or start
from a client that is frozen: every header and every upgrade is accepted as before, with the same
consensus states, and leaves the same store behind. It is up to the host chain not to ask. -/
theorem freezing_stops_nothing (htoVec : Function.Injective H.toVec)
    (h : Trace (EventStep H) s l) (hno : ∀ x ∈ l, x.1.event.isSubstitution = false)
    {t : ClientStore} (hst : SameButFrozen s t) :
    ∃ m, Trace (EventStep H) t m ∧
      List.Forall₂ (fun x y => x.1 = y.1 ∧ SameButFrozen x.2 y.2)
        (l.filter fun x => !x.1.event.isMisbehaviour) m ∧
      SameButFrozen (final s l) (final t m) := by
  refine h.simulates_filter (EventStep H) (fun o => !o.event.isMisbehaviour) SameButFrozen ?_ ?_
    hst
  · intro s t o s' hmem hkept hst hstep
    have hhappens := (eventStep_iff htoVec).mp hstep
    obtain ⟨t', ht', hst'⟩ := hhappens.unless_frozen hst (by simpa using hkept) (hno _ hmem)
    exact ⟨t', (eventStep_iff htoVec).mpr ht', hst'⟩
  · intro s t o s' hother hst hstep
    exact ((eventStep_iff htoVec).mp hstep).misbehaviour_same hst (by simpa using hother)

/-! ### What a client is configured as -/

/-- The configuration of a client, and the contract that it is of. -/
def configuration (s : ClientStore) : String × String := (s.1.codeId, s.1.data)

def Event.IsUpgrade (event : Event) : Prop := ∃ u, event = .upgrade u

/-- The client state of the upgrade has been shown under the path of the configuration in force. -/
def Shown (H : Host) (env : Env) (me : ClientState) (u : Upgrade) : Prop :=
  ∃ d : UpgradeData H, Upgradable H env { u with me := me } d ∧
    ShowsClient H { u with me := me } d d.proofConsensus

lemma Happens.configuration_eq (h : Happens H s o s') (ho : ¬ o.event.IsUpgrade) :
    configuration s' = configuration s := by
  cases h with
  | header => rfl
  | misbehaviour => rfl
  | upgrade => exact absurd ⟨_, rfl⟩ ho
  | @substitution env _ subjectConsensusState _ light recovered _ hnew _ _ =>
    have hsame : recovered.codeId = s.1.codeId ∧ recovered.data = s.1.data := by
      unfold recoveredClientState at hnew
      split_ifs at hnew
      · obtain ⟨_, -, hnew⟩ := bind_eq_ok.mp hnew
        obtain rfl := Except.ok.inj hnew
        exact ⟨rfl, rfl⟩
      · obtain ⟨_, -, hnew⟩ := bind_eq_ok.mp hnew
        obtain ⟨_, -, hnew⟩ := bind_eq_ok.mp hnew
        obtain rfl := Except.ok.inj hnew
        exact ⟨rfl, rfl⟩
    exact Prod.ext hsame.1 hsame.2

/-- **Only an upgrade changes the configuration.** After any run it is that of the start, or that of
the last upgrade, whose client state was shown under the upgrade path of the configuration
before. -/
theorem configuration_of_last_upgrade (htoVec : Function.Injective H.toVec)
    (h : Trace (EventStep H) s l) :
    (configuration (final s l) = configuration s ∧ ∀ x ∈ l, ¬ x.1.event.IsUpgrade) ∨
      ∃ l₁ x l₂ u, l = l₁ ++ x :: l₂ ∧ x.1.event = .upgrade u ∧
        (∀ y ∈ l₂, ¬ y.1.event.IsUpgrade) ∧
        configuration (final s l) = (u.newClientState.codeId, u.newClientState.data) ∧
        Shown H x.1.env (final s l₁).1 u := by
  rcases h.last_write configuration (fun o => o.event.IsUpgrade)
    (fun _ _ _ hstep ho => ((eventStep_iff htoVec).mp hstep).configuration_eq ho) with
    hnone | ⟨l₁, ⟨o, s'⟩, l₂, rfl, ⟨u, hu⟩, hstep, hnone, hlast⟩
  · exact .inl hnone
  · refine .inr ⟨l₁, _, l₂, u, rfl, hu, hnone, ?_⟩
    have hhappens := (eventStep_iff htoVec).mp hstep
    cases hhappens with
    | upgrade d hd hclient _ =>
      cases hu
      exact ⟨hlast, d, hd, hclient⟩
    | header => cases hu
    | misbehaviour => cases hu
    | substitution => cases hu

namespace Reference

/-- Block 8 is accepted, and then it is shown that there are two of it. -/
def forkReport : Event := .misbehaviour (report ⟨0, 8⟩ header₈ header₈') trusted trusted

lemma fork_run : ∃ o s storage, o.event = .header (wasmHeader ⟨0, 8⟩ header₈) trusted ∧
    Trace (EventStep (host [])) (client ⟨0, 7⟩, fun _ => none)
      [(o, s), (⟨⟨2, 100⟩, forkReport, none⟩, ((client ⟨0, 7⟩).freeze ⟨0, 8⟩, storage))] := by
  obtain ⟨state, hupdates⟩ := header₈_updates 1 ⟨0, 8⟩ ⟨0, 7⟩
  have hheader : Happens (host []) (client ⟨0, 7⟩, fun _ => none) ⟨⟨1, 100⟩,
      .header (wasmHeader ⟨0, 8⟩ header₈) trusted, some (headerConsensusState (host []) trusted
        header₈ state)⟩ (client ⟨0, 7⟩, withConsensusMeta (host []) ⟨1, 100⟩ EMPTY_PREFIX ⟨0, 8⟩
        fun _ => none) := .header header₈ sealedStart state lightClient hupdates
  have he : Evidence (host []) (client ⟨0, 7⟩) (report ⟨0, 8⟩ header₈ header₈') trusted trusted
      header₈ header₈' sealedStart sealedStart :=
    ⟨by decide, rfl, wasmHeader_read header₈_accepted.1 _ _, wasmHeader_read header₈'_read.1 _ _,
      by decide +kernel, sealedUnder_of_verify header₈_accepted.2.2,
      sealedUnder_of_verify header₈'_accepted.2, _, lightClient_read _ _⟩
  exact ⟨_, _, _, rfl, .cons ((eventStep_iff Json.toVec_injective).mpr hheader) (.cons
    ((eventStep_iff Json.toVec_injective).mpr (.misbehaviour _ _ _ _ he)) (.nil _))⟩

/-- The upgrade to height 9, with its proofs the wrong way round. -/
def nineUpgrade : Upgrade := upgradeWith clientEntry.root consensusProof clientProof

lemma nineUpgrade_run : ∃ s, Trace (EventStep upgradeHost) (client ⟨0, 7⟩, fun _ => none)
    [(⟨⟨1, 100⟩, .upgrade nineUpgrade, some trusted⟩, s)] := by
  have hupgradable : Upgradable upgradeHost ⟨1, 100⟩ nineUpgrade
      (upgradeData _ clientEntry.root consensusProof clientProof) :=
    upgradable (by simp) (by simp)
  have hhappens : Happens upgradeHost (client ⟨0, 7⟩, fun _ => none)
      ⟨⟨1, 100⟩, .upgrade nineUpgrade, some trusted⟩ _ :=
    .upgrade _ hupgradable clientProof_shows consensusProof_shows
  exact ⟨_, .cons ((eventStep_iff Json.toVec_injective).mpr hhappens) (.nil _)⟩

end Reference

/-- The two headers of block 8 freeze the client at height 8. -/
theorem freezes_fall_fork :
    ∃ l, Trace (EventStep (Reference.host [])) (Reference.client ⟨0, 7⟩, fun _ => none) l ∧
      freezeHeights l = [⟨0, 8⟩] ∧
      (final (Reference.client ⟨0, 7⟩, fun _ => none) l).1 =
        (Reference.client ⟨0, 7⟩).freeze ⟨0, 8⟩ := by
  obtain ⟨o, s, storage, ho, hrun⟩ := Reference.fork_run
  have hheights : freezeHeights [(o, s), (⟨⟨2, 100⟩, Reference.forkReport, none⟩,
      ((Reference.client ⟨0, 7⟩).freeze ⟨0, 8⟩, storage))] = [⟨0, 8⟩] := by
    simp [freezeHeights, ho, Event.freezeHeight, Reference.forkReport, Reference.report,
      Reference.wasmHeader]
  have hlast := (freezes_fall Json.toVec_injective hrun (by
    simp [ho, Event.Ordinary, Reference.forkReport])).2.2
  rw [hheights] at hlast
  exact ⟨_, hrun, hheights, hlast⟩

/-- The frozen client accepts header 8 as well. -/
theorem freezing_stops_nothing_fork :
    ∃ m, Trace (EventStep (Reference.host []))
        ((Reference.client ⟨0, 7⟩).freeze ⟨0, 8⟩, fun _ => none) m ∧
      m.length = 1 := by
  obtain ⟨o, s, storage, ho, hrun⟩ := Reference.fork_run
  obtain ⟨m, hm, hall, -⟩ := freezing_stops_nothing Json.toVec_injective hrun
    (by simp [ho, Event.isSubstitution, Reference.forkReport])
    (t := ((Reference.client ⟨0, 7⟩).freeze ⟨0, 8⟩, fun _ => none)) ⟨rfl, rfl, rfl, rfl⟩
  refine ⟨m, hm, ?_⟩
  rw [← hall.length_eq]
  simp [ho, Event.isMisbehaviour, Reference.forkReport]

theorem configuration_of_last_upgrade_nine :
    ∃ l, Trace (EventStep Reference.upgradeHost) (Reference.client ⟨0, 7⟩, fun _ => none) l ∧
      ∃ l₁ x l₂, l = l₁ ++ x :: l₂ ∧ x.1.event = .upgrade Reference.nineUpgrade ∧
        configuration (final (Reference.client ⟨0, 7⟩, fun _ => none) l) =
          ("", Reference.upgraded.data) := by
  obtain ⟨s, hrun⟩ := Reference.nineUpgrade_run
  refine ⟨_, hrun, ?_⟩
  rcases configuration_of_last_upgrade Json.toVec_injective hrun with
    ⟨-, hnone⟩ | ⟨l₁, x, l₂, u, hl, hu, -, hconfiguration, -⟩
  · exact absurd ⟨_, rfl⟩ (hnone _ List.mem_cons_self)
  · have hmem : x ∈ [((⟨⟨1, 100⟩, .upgrade Reference.nineUpgrade, some Reference.trusted⟩ :
        Occurrence), s)] := by simp [hl]
    rw [List.mem_singleton.mp hmem] at hu
    obtain rfl := Event.upgrade.inj hu
    exact ⟨l₁, x, l₂, hl, by rw [List.mem_singleton.mp hmem], hconfiguration⟩

end CeloLightClient.Contract

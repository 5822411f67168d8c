import CeloLightClient.Contract.Lockstep

/-!
The status of a client over time.

A frozen client is frozen, whatever else is wrong with it. Any other client expires once its
snapshot is older than the trusting period, and does not come back unless there is a newer
snapshot; and every header that is accepted puts the end of the period off.
-/

namespace CeloLightClient.Contract

open Lib Lib.Outcome Lib.Action State

variable {H : Host} {me : ClientState} {consensusState : ConsensusState} {light : LightClientState}
  {s s' : Snapshot} {packet : Packet} {now now' : UInt64} {status status' : Status}
  {t : ConsensusState × Storage} {l : List (Packet × (ConsensusState × Storage))}
  {m : List (Packet × Snapshot)}

/-- The contract says that this is the client's status, in every block of this time. -/
def Reports (H : Host) (now : UInt64) (me : ClientState) (consensusState : ConsensusState)
    (status : Status) : Prop :=
  ∀ storage height, query H storage ⟨height, now⟩ (.Status me consensusState) =
    .ok (H.toVec (.obj [("status", status.json)]))

/-- The end of the trusting period of the snapshot. -/
def expiry (light : LightClientState) (s : Snapshot) : ℕ :=
  s.timestamp.toNat + light.trustingPeriod.toNat

/-- The status by the flag and the time. An expiry that is no word is never reached: the contract
aborts. -/
inductive StatusOf (H : Host) (light : LightClientState) (now : UInt64) (me : ClientState)
    (consensusState : ConsensusState) : Status → Prop
  | frozen : me.frozen = true → StatusOf H light now me consensusState .Frozen
  | active (s : Snapshot) : me.frozen = false → fromBase64Rlp H (Snapshot.fromRlp H.rlp)
      consensusState.data "msg.light_consensus_state" = .ok s → expiry light s < 2 ^ 64 →
    now.toNat ≤ expiry light s → StatusOf H light now me consensusState .Active
  | expired (s : Snapshot) : me.frozen = false → fromBase64Rlp H (Snapshot.fromRlp H.rlp)
      consensusState.data "msg.light_consensus_state" = .ok s → expiry light s < 2 ^ 64 →
    expiry light s < now.toNat → StatusOf H light now me consensusState .Exipred

lemma Status.json_injective : Function.Injective Status.json := by
  intro a b h
  cases a <;> cases b <;> first | rfl | exact absurd (Json.str.inj h) (by decide)

lemma isExpired_eq_ok {expired : Bool} : isExpired now s.timestamp light = .ok expired ↔
    expiry light s < 2 ^ 64 ∧ expired = decide (expiry light s < now.toNat) := by
  unfold isExpired expiry
  by_cases hroom : s.timestamp.toNat + light.trustingPeriod.toNat < 2 ^ 64
  · have hlimit := add_of_lt (ε := StdError) hroom
    have hlt : s.timestamp + light.trustingPeriod < now ↔
        s.timestamp.toNat + light.trustingPeriod.toNat < now.toNat := by
      rw [UInt64.lt_iff_toNat_lt, add_eq_ok.mp hlimit]
    rw [hlimit, ok_bind, pure_eq_ok, Except.ok.injEq]
    simp only [hroom, true_and, hlt, eq_comm]
  · rw [add_of_le (Nat.le_of_not_lt hroom)]
    constructor
    · intro h
      cases h
    · rintro ⟨h, -⟩
      exact absurd h hroom

lemma query_status_eq_ok (htoVec : Function.Injective H.toVec)
    (hme : fromBase64Rlp H (LightClientState.fromRlp H.rlp) me.data "msg.light_client_state" =
      .ok light) {storage : Storage} {height : UInt64} :
    query H storage ⟨height, now⟩ (.Status me consensusState) =
      .ok (H.toVec (.obj [("status", status.json)])) ↔
    StatusOf H light now me consensusState status := by
  have hdata (a : Status) : H.toVec (.obj [("status", a.json)]) =
      H.toVec (.obj [("status", status.json)]) ↔ a = status := by
    rw [htoVec.eq_iff, Json.obj.injEq, List.cons.injEq, Prod.mk.injEq]
    simp [Status.json_injective.eq_iff]
  cases hfrozen : me.frozen with
  | true =>
    have hquery : query H storage ⟨height, now⟩ (.Status me consensusState) =
        .ok (H.toVec (.obj [("status", Status.Frozen.json)])) := by
      simp [query, QueryMsg.answer, Contract.status, hme, hfrozen, wrapResponse, toBinary]
    rw [hquery, Except.ok.injEq, hdata]
    constructor
    · rintro rfl
      exact .frozen hfrozen
    · rintro (_ | ⟨_, hnot⟩ | ⟨_, hnot⟩)
      · rfl
      · simp [hfrozen] at hnot
      · simp [hfrozen] at hnot
  | false =>
    have hquery : query H storage ⟨height, now⟩ (.Status me consensusState) =
        .ok (H.toVec (.obj [("status", status.json)])) ↔
        ∃ s, fromBase64Rlp H (Snapshot.fromRlp H.rlp) consensusState.data
          "msg.light_consensus_state" = .ok s ∧ ∃ expired,
          isExpired now s.timestamp light = .ok expired ∧
            (if expired then Status.Exipred else Status.Active) = status := by
      simp only [query, QueryMsg.answer, Contract.status, hme, ok_bind, hfrozen,
        Bool.false_eq_true, if_false, bind_assoc, pure_bind, bind_eq_ok, wrapResponse, toBinary,
        unwrap_eq_ok, Option.some.injEq, hdata]
    simp only [hquery, isExpired_eq_ok]
    constructor
    · rintro ⟨s, hs, _, ⟨hroom, rfl⟩, rfl⟩
      by_cases hexpired : expiry light s < now.toNat
      · rw [if_pos (decide_eq_true hexpired)]
        exact .expired s hfrozen hs hroom hexpired
      · rw [if_neg fun h => hexpired (of_decide_eq_true h)]
        exact .active s hfrozen hs hroom (Nat.le_of_not_lt hexpired)
    · rintro (hnot | ⟨s, _, hs, hroom, hle⟩ | ⟨s, _, hs, hroom, hlt⟩)
      · simp [hfrozen] at hnot
      · exact ⟨s, hs, _, ⟨hroom, rfl⟩,
          if_neg fun h => absurd (of_decide_eq_true h) (Nat.not_lt.mpr hle)⟩
      · exact ⟨s, hs, _, ⟨hroom, rfl⟩, if_pos (decide_eq_true hlt)⟩

/-- **What the status is**, in a block of any height and whatever is in the store. -/
lemma reports_iff (htoVec : Function.Injective H.toVec)
    (hme : fromBase64Rlp H (LightClientState.fromRlp H.rlp) me.data "msg.light_client_state" =
      .ok light) :
    Reports H now me consensusState status ↔ StatusOf H light now me consensusState status := by
  constructor
  · intro h
    exact (query_status_eq_ok htoVec hme).mp (h (fun _ => none) 0)
  · intro h storage height
    exact (query_status_eq_ok htoVec hme).mpr h

/-! ### Runs -/

/-- The headers are verified in full, and none of them is the genesis block's. -/
structure Verified (H : Host) (config : StateConfig) (packets : List Packet) : Prop where
  epoch : config.verifyEpochHeaders
  nonEpoch : config.verifyNonEpochHeaders
  timestamp : config.verifyHeaderTimestamp
  nonGenesis : ∀ packet ∈ packets, ∀ header,
    Header.fromRlp H.rlp packet.header = .ok header → header.number ≠ 0

variable {config : StateConfig} {packets : List Packet}

lemma Verified.tail (h : Verified H config (packet :: packets)) : Verified H config packets :=
  ⟨h.epoch, h.nonEpoch, h.timestamp,
    fun packet hpacket => h.nonGenesis packet (List.mem_cons_of_mem _ hpacket)⟩

lemma timely_of_memoryStep (hverified : Verified H config (packet :: packets))
    (h : MemoryStep H config s packet s') :
    s.timestamp.toNat < s'.timestamp.toNat ∧
      s'.timestamp.toNat ≤ packet.env.time.toNat + config.allowedClockSkew.toNat := by
  obtain ⟨header, hheader, hinsert⟩ := h
  have hsize := epochSize_pos_of_insert hinsert
  have hstep : Chain.step H.toPlatform config s ⟨header, packet.env.time⟩ = some s' :=
    Chain.step_eq_some.mpr hinsert
  have hnz := hverified.nonGenesis packet (by simp) header hheader
  have hv := Chain.step_verified hsize hverified.epoch hverified.nonEpoch hnz hstep
  obtain ⟨-, htimely, -⟩ := verifyHeader_eq_ok.mp hv
  obtain ⟨hnewer, -, hskew⟩ := htimely hverified.timestamp
  rw [(Chain.step_spec hsize hstep).1.timestamp]
  exact ⟨UInt64.lt_iff_toNat_lt.mp hnewer, hskew⟩

lemma expiry_of_memory (hverified : Verified H light.config (m.map Prod.fst))
    (hroom : ∀ packet ∈ m.map Prod.fst, packet.env.time.toNat +
      light.config.allowedClockSkew.toNat + light.trustingPeriod.toNat < 2 ^ 64)
    (hstart : expiry light s < 2 ^ 64) (h : Trace (MemoryStep H light.config) s m) :
    expiry light (final s m) < 2 ^ 64 ∧ expiry light s ≤ expiry light (final s m) ∧
      (m ≠ [] → expiry light s < expiry light (final s m)) := by
  induction h with
  | nil s => exact ⟨hstart, le_rfl, fun hne => absurd rfl hne⟩
  | @cons s s' packet m hstep _ ih =>
    obtain ⟨hnewer, hskew⟩ := timely_of_memoryStep hverified hstep
    have hpacket : packet.env.time.toNat + light.config.allowedClockSkew.toNat +
        light.trustingPeriod.toNat < 2 ^ 64 := hroom packet (by simp)
    simp only at hskew
    have hnext : expiry light s' < 2 ^ 64 := by
      unfold expiry
      omega
    have hlater : expiry light s < expiry light s' := Nat.add_lt_add_right hnewer _
    obtain ⟨hend, hle, -⟩ := ih hverified.tail (fun packet h => hroom packet (by simp [h])) hnext
    exact ⟨hend, hlater.le.trans hle, fun _ => hlater.trans_le hle⟩

/-- Up to this time the client is active, and from then on it is expired. -/
def LivesUntil (H : Host) (me : ClientState) (consensusState : ConsensusState) (time : ℕ) : Prop :=
  ∀ now, (Reports H now me consensusState .Active ↔ now.toNat ≤ time) ∧
    (Reports H now me consensusState .Exipred ↔ time < now.toNat)

lemma livesUntil_expiry (htoVec : Function.Injective H.toVec)
    (hme : fromBase64Rlp H (LightClientState.fromRlp H.rlp) me.data "msg.light_client_state" =
      .ok light) (hfrozen : me.frozen = false)
    (hs : fromBase64Rlp H (Snapshot.fromRlp H.rlp) consensusState.data
      "msg.light_consensus_state" = .ok s) (hroom : expiry light s < 2 ^ 64) :
    LivesUntil H me consensusState (expiry light s) := by
  intro now
  rw [reports_iff htoVec hme, reports_iff htoVec hme]
  constructor
  · constructor
    · rintro (_ | ⟨t, _, ht, _, hle⟩)
      rwa [← Except.ok.inj (ht.symm.trans hs)]
    · exact .active s hfrozen hs hroom
  · constructor
    · rintro (_ | _ | ⟨t, _, ht, _, hlt⟩)
      rwa [← Except.ok.inj (ht.symm.trans hs)]
    · exact .expired s hfrozen hs hroom

/-- **Every update puts the end off.** A client that is not frozen lives until its snapshot is
older than the trusting period; after a run of updates it lives at least as long, and longer if
there was one. -/
theorem updates_put_end_off (hrlp : H.rlp.Lawful) (hbase64 : H.base64.Lawful)
    (htoVec : Function.Injective H.toVec)
    (hme : fromBase64Rlp H (LightClientState.fromRlp H.rlp) me.data "msg.light_client_state" =
      .ok light)
    (hs : ∀ target, fromBase64Rlp H (Snapshot.fromRlp H.rlp) t.1.data target = .ok s)
    (hfits : ∀ m, Trace (MemoryStep H light.config) s m →
      m.map Prod.fst <+: l.map Prod.fst → m ≠ [] → H.rlp.Fits ((final s m).item H.rlp))
    (hverified : Verified H light.config (l.map Prod.fst))
    (hroom : ∀ packet ∈ l.map Prod.fst, packet.env.time.toNat +
      light.config.allowedClockSkew.toNat + light.trustingPeriod.toNat < 2 ^ 64)
    (hstart : expiry light s < 2 ^ 64) (hfrozen : me.frozen = false)
    (h : Trace (ContractStep H me) t l) :
    LivesUntil H me t.1 (expiry light s) ∧ ∃ time, LivesUntil H me (final t l).1 time ∧
      expiry light s ≤ time ∧ (l ≠ [] → expiry light s < time) := by
  obtain ⟨m, hm, hall, hread⟩ := exists_memory hrlp hbase64 htoVec hme hs hfits h
  have hpackets : l.map Prod.fst = m.map Prod.fst := Trace.inputs_eq hall
  rw [hpackets] at hverified hroom
  obtain ⟨hend, hle, hlt⟩ := expiry_of_memory hverified hroom hstart hm
  refine ⟨livesUntil_expiry htoVec hme hfrozen (hs _) hstart, _,
    livesUntil_expiry htoVec hme hfrozen (hread _) hend, hle, fun hne => hlt ?_⟩
  rintro rfl
  exact hne (List.map_eq_nil_iff.mp hpackets)

namespace Reference

lemma packet₁₀_verified : Verified (host []) lightClient.config [packet₁₀] where
  epoch := rfl
  nonEpoch := rfl
  timestamp := rfl
  nonGenesis := by
    intro packet hpacket header hheader
    rw [List.mem_singleton.mp hpacket] at hheader
    have hread := Except.ok.inj (hheader.symm.trans packet₁₀_computed.1)
    rw [hread]
    decide +kernel

lemma packet₁₀_in_time : ∀ packet ∈ [packet₁₀], packet.env.time.toNat +
    lightClient.config.allowedClockSkew.toNat + lightClient.trustingPeriod.toNat < 2 ^ 64 := by
  intro packet hpacket
  rw [List.mem_singleton.mp hpacket]
  decide

end Reference

/-- At block 7 the client lives until time 1100, and from block 10 on longer. -/
theorem updates_put_end_off_ten :
    LivesUntil (Reference.host []) (Reference.client ⟨0, 7⟩) Reference.trusted 1100 ∧
      ∃ (t' : ConsensusState × Storage) (time : ℕ),
        LivesUntil (Reference.host []) (Reference.client ⟨0, 7⟩) t'.1 time ∧ 1100 < time := by
  obtain ⟨t', hrun⟩ := Reference.packet₁₀_accepted
  obtain ⟨hstart, time, hlives, -, hlater⟩ :=
    updates_put_end_off (l := [(Reference.packet₁₀, t')])
      (t := (Reference.trusted, fun _ => none)) Rlp.reference_lawful Base64.reference_lawful
      Json.toVec_injective (Reference.lightClient_read _ _) Reference.trusted_read
      (fun m hm hfront hne => Reference.fits_of_packet₁₀ hm hfront hne)
      Reference.packet₁₀_verified
      Reference.packet₁₀_in_time (by decide) rfl hrun
  exact ⟨hstart, t', time, hlives, hlater (by simp)⟩

end CeloLightClient.Contract

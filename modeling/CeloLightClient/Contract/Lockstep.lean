import CeloLightClient.Contract.Refinement

/-!
The contract and the state machine in memory, step by step.

The contract accepts nothing that the state machine does not. What it accepts, header by header, is
accepted in memory, and the consensus state that it has returned last says what the snapshot in
memory says. So whatever header comes next, if one of the two refuses it then so does the other,
and with the same error.
-/

namespace CeloLightClient.Contract

open Lib Lib.Outcome Lib.Action State

variable {H : Host} {me : ClientState} {consensusState : ConsensusState} {storage : Storage}
  {light : LightClientState} {config : StateConfig} {s s' : Snapshot} {packet : Packet}
  {t t' : ConsensusState × Storage} {l : List (Packet × (ConsensusState × Storage))}
  {fault : Fault StdError}

/-- The call of the contract for a packet. -/
def Packet.msg (H : Host) (packet : Packet) (consensusState : ConsensusState) (me : ClientState) :
    HandleMsg :=
  .CheckHeaderAndUpdateState ⟨H.base64.encode packet.header, packet.height⟩ consensusState me

/-- In memory, the header cannot be read, or cannot be inserted. An error is reported under the
name of what it is an error of. -/
inductive Refuses (H : Host) (config : StateConfig) (s : Snapshot) (packet : Packet) :
    Fault StdError → Prop
  | unread (e : Error) : Header.fromRlp H.rlp packet.header = fail e →
    Refuses H config s packet (.err (.ParseErr "msg.header"
      ("Unable to rlp decode from base64 data. Error: " ++ H.errorToString e)))
  | unreadable : Header.fromRlp H.rlp packet.header = abort → Refuses H config s packet .panic
  | refused (header : Header) (e : Error) : Header.fromRlp H.rlp packet.header = .ok header →
    (exec (insertHeader H.toPlatform config header packet.env.time) s).1 = fail e →
    Refuses H config s packet (.err (.GenericErr
      ("Unable to ingest header. Error: " ++ H.errorToString e)))
  | aborted (header : Header) : Header.fromRlp H.rlp packet.header = .ok header →
    (exec (insertHeader H.toPlatform config header packet.env.time) s).1 = abort →
    Refuses H config s packet .panic

/-! ### One step -/

lemma ingest_eq_ok {header : Header} {now : UInt64} :
    ingest H config s header now = .ok s' ↔
      exec (insertHeader H.toPlatform config header now) s = (.ok (), s') := by
  unfold ingest
  rcases exec (insertHeader H.toPlatform config header now) s with ⟨(e | _) | _, u⟩ <;>
    simp

lemma ingest_eq_error {header : Header} {now : UInt64} :
    ingest H config s header now = .error fault ↔
      (∃ e, (exec (insertHeader H.toPlatform config header now) s).1 = fail e ∧ fault =
        .err (.GenericErr ("Unable to ingest header. Error: " ++ H.errorToString e))) ∨
      (exec (insertHeader H.toPlatform config header now) s).1 = abort ∧ fault = .panic := by
  unfold ingest
  rcases exec (insertHeader H.toPlatform config header now) s with ⟨(e | _) | _, u⟩ <;>
    simp [fail, abort, eq_comm]

lemma readHeader_eq_error (hbase64 : H.base64.Lawful) {bytes : Bytes} :
    fromBase64Rlp H (Header.fromRlp H.rlp) (H.base64.encode bytes) "msg.header" = .error fault ↔
      (∃ e, Header.fromRlp H.rlp bytes = fail e ∧ fault = .err (.ParseErr "msg.header"
        ("Unable to rlp decode from base64 data. Error: " ++ H.errorToString e))) ∨
      Header.fromRlp H.rlp bytes = abort ∧ fault = .panic := by
  rw [fromBase64Rlp, fromBase64, hbase64, ofExcept_ok, mapErr_ok, ok_bind]
  rcases Header.fromRlp H.rlp bytes with (e | _) | header <;> simp [fail, abort, mapErr, eq_comm]

lemma readHeader_eq_ok (hbase64 : H.base64.Lawful) {bytes : Bytes} {header : Header} :
    fromBase64Rlp H (Header.fromRlp H.rlp) (H.base64.encode bytes) "msg.header" = .ok header ↔
      Header.fromRlp H.rlp bytes = .ok header := by
  rw [fromBase64Rlp, fromBase64, hbase64, ofExcept_ok, mapErr_ok, ok_bind, mapErr_eq_ok]

lemma refuses_iff : Refuses H config s packet fault ↔
    ((∃ e, Header.fromRlp H.rlp packet.header = fail e ∧ fault = .err (.ParseErr "msg.header"
        ("Unable to rlp decode from base64 data. Error: " ++ H.errorToString e))) ∨
      Header.fromRlp H.rlp packet.header = abort ∧ fault = .panic) ∨
    ∃ header, Header.fromRlp H.rlp packet.header = .ok header ∧
      ((∃ e, (exec (insertHeader H.toPlatform config header packet.env.time) s).1 = fail e ∧ fault =
        .err (.GenericErr ("Unable to ingest header. Error: " ++ H.errorToString e))) ∨
      (exec (insertHeader H.toPlatform config header packet.env.time) s).1 = abort ∧
        fault = .panic) := by
  constructor
  · rintro (⟨e, he⟩ | he | ⟨header, e, hheader, he⟩ | ⟨header, hheader, he⟩)
    · exact .inl (.inl ⟨e, he, rfl⟩)
    · exact .inl (.inr ⟨he, rfl⟩)
    · exact .inr ⟨header, hheader, .inl ⟨e, he, rfl⟩⟩
    · exact .inr ⟨header, hheader, .inr ⟨he, rfl⟩⟩
  · rintro ((⟨e, he, rfl⟩ | ⟨he, rfl⟩) | ⟨header, hheader, ⟨e, he, rfl⟩ | ⟨he, rfl⟩⟩)
    · exact .unread e he
    · exact .unreadable he
    · exact .refused header e hheader he
    · exact .aborted header hheader he

section

variable (hbase64 : H.base64.Lawful)
  (hme : fromBase64Rlp H (LightClientState.fromRlp H.rlp) me.data "msg.light_client_state" =
    .ok light)
  (hs : ∀ target, fromBase64Rlp H (Snapshot.fromRlp H.rlp) t.1.data target = .ok s)

include hbase64 hme hs

/-- **A refused step.** The contract refuses what is refused in memory. -/
lemma handle_eq_error_iff :
    (exec (handle H packet.env (packet.msg H t.1 me)) t.2).1 = .error fault ↔
      Refuses H light.config s packet fault := by
  rw [Packet.msg, handle, checkHeaderAndUpdateState, fst_exec_lift_bind, bind_eq_error,
    readHeader_eq_error hbase64, refuses_iff]
  refine or_congr_right (exists_congr fun header => ?_)
  rw [readHeader_eq_ok hbase64, exec_lift_bind_of_ok (hs _), exec_lift_bind_of_ok hme,
    fst_exec_lift_bind, bind_eq_error, ingest_eq_error]
  -- once the header is inserted, nothing can go wrong
  simp only [exec_setConsensusMeta_bind, exec_pure]
  simp

/-- **An accepted step.** What the contract accepts is accepted in memory, and what it returns says
what the snapshot says. -/
lemma memoryStep_of_contractStep (hrlp : H.rlp.Lawful) (htoVec : Function.Injective H.toVec)
    (h : ContractStep H me t packet t') :
    ∃ s', MemoryStep H light.config s packet s' ∧
      (H.rlp.Fits (s'.item H.rlp) → Mirrors H packet s' t'.1) := by
  obtain ⟨response, hexec, hdata⟩ := h
  obtain ⟨header, snapshot, s', light', hupdates, rfl, -⟩ :=
    checkHeaderAndUpdateState_eq_ok.mp hexec
  have hheader := (readHeader_eq_ok hbase64).mp hupdates.header_eq
  obtain rfl := Except.ok.inj (hupdates.snapshot_eq.symm.trans (hs _))
  obtain rfl := Except.ok.inj (hupdates.lightClientState_eq.symm.trans hme)
  have hinsert := ingest_eq_ok.mp hupdates.inserted
  refine ⟨s', ⟨header, hheader, hinsert⟩, fun hfits => ?_⟩
  obtain ⟨htime, hnonneg⟩ := snapshot_of_insert (epochSize_pos_of_insert hinsert) hinsert
  have hjson := htoVec (Option.some.inj hdata)
  simp only [updateResult, Json.obj.injEq, List.cons.injEq, Prod.mk.injEq, true_and,
    and_true] at hjson
  rw [← ConsensusState.json_injective hjson]
  exact ⟨consensusStateOf_read hrlp hbase64 hnonneg hfits, htime.symm, header, hheader, rfl⟩

end

/-! ### Runs -/

section

variable (hrlp : H.rlp.Lawful) (hbase64 : H.base64.Lawful) (htoVec : Function.Injective H.toVec)
  (hme : fromBase64Rlp H (LightClientState.fromRlp H.rlp) me.data "msg.light_client_state" =
    .ok light)
  (hs : ∀ target, fromBase64Rlp H (Snapshot.fromRlp H.rlp) t.1.data target = .ok s)
  (hfits : ∀ m, Trace (MemoryStep H light.config) s m →
    m.map Prod.fst <+: l.map Prod.fst → m ≠ [] → H.rlp.Fits ((final s m).item H.rlp))

include hrlp hbase64 htoVec hme hs hfits

lemma exists_memory (h : Trace (ContractStep H me) t l) :
    ∃ m, Trace (MemoryStep H light.config) s m ∧
      List.Forall₂ (fun x y => x.1 = y.1 ∧ Mirrors H x.1 y.2 x.2.1) l m ∧
      ∀ target, fromBase64Rlp H (Snapshot.fromRlp H.rlp) (final t l).1.data target =
        .ok (final s m) := by
  induction h generalizing s with
  | nil t => exact ⟨[], .nil s, .nil, hs⟩
  | @cons t t' packet l hstep _ ih =>
    obtain ⟨s', hmemory, hmirrors⟩ :=
      memoryStep_of_contractStep hbase64 hme hs hrlp htoVec hstep
    have hone := hfits [(packet, s')] (.cons hmemory (.nil s')) (by simp) (by simp)
    have hmirror := hmirrors hone
    obtain ⟨m, hm, hall, hread⟩ := ih hmirror.data_eq fun m hm hfront hne =>
      hfits ((packet, s') :: m) (.cons hmemory hm) (by simpa using hfront) (by simp)
    exact ⟨(packet, s') :: m, .cons hmemory hm, .cons ⟨rfl, hmirror⟩ hall, hread⟩

/-- **Lockstep.** A run of the contract is a run in memory, with the same packets and the same
states; and after it, the next packet is refused by the contract if and only if it is refused in
memory, with the same error. -/
theorem contract_lockstep (h : Trace (ContractStep H me) t l) :
    ∃ m, Trace (MemoryStep H light.config) s m ∧
      List.Forall₂ (fun x y => x.1 = y.1 ∧ Mirrors H x.1 y.2 x.2.1) l m ∧
      ∀ packet fault, (exec (handle H packet.env (packet.msg H (final t l).1 me)) (final t l).2).1 =
        .error fault ↔ Refuses H light.config (final s m) packet fault := by
  obtain ⟨m, hm, hall, hread⟩ := exists_memory hrlp hbase64 htoVec hme hs hfits h
  exact ⟨m, hm, hall, fun packet fault => handle_eq_error_iff hbase64 hme hread⟩

end

namespace Reference

lemma fits_of_packet₁₀ {m : List (Packet × Snapshot)}
    (hm : Trace (MemoryStep (host []) lightClient.config) sealedStart m)
    (hfront : m.map Prod.fst <+: [packet₁₀]) (hne : m ≠ []) :
    Rlp.reference.Fits ((final sealedStart m).item Rlp.reference) := by
  obtain ⟨x, rfl, hx⟩ : ∃ x, m = [x] ∧ x.1 = packet₁₀ := by
    rcases m with _ | ⟨x, _ | ⟨y, m⟩⟩
    · exact absurd rfl hne
    · exact ⟨x, rfl, by simpa using hfront⟩
    · have hlen := hfront.length_le
      simp at hlen
  obtain ⟨hstep, -⟩ := Trace.cons_iff.mp hm
  rw [hx] at hstep
  obtain ⟨header, hheader, hinsert⟩ := hstep
  have hread := Except.ok.inj (hheader.symm.trans packet₁₀_computed.1)
  rw [hread] at hinsert
  have hpair := hinsert.symm.trans packet₁₀_computed.2.1
  rw [final_cons, final_nil, (Prod.mk.inj hpair).2]
  exact packet₁₀_computed.2.2

lemma packet₁₀_accepted : ∃ t', Trace (ContractStep (host []) (client ⟨0, 7⟩))
    (trusted, fun _ => none) [(packet₁₀, t')] := by
  have hstep : MemoryStep (host []) lightClient.config sealedStart packet₁₀ snapshot₁₀ :=
    ⟨_, packet₁₀_computed.1, packet₁₀_computed.2.1⟩
  have hfits : Rlp.reference.Fits (snapshot₁₀.item Rlp.reference) := packet₁₀_computed.2.2
  obtain ⟨t', ht', -⟩ := @contractStep_of_memoryStep (host []) (client ⟨0, 7⟩) trusted
    (fun _ => none) lightClient sealedStart snapshot₁₀ packet₁₀ Rlp.reference_lawful
    Base64.reference_lawful (by decide) (lightClient_read _ _) hfits trusted_read hstep
  exact ⟨t', .cons ht' (.nil _)⟩

end Reference

/-- Block 10 is accepted by both, and what one refuses after it the other refuses too. -/
theorem contract_lockstep_ten :
    ∃ (t' : ConsensusState × Storage) (s : Snapshot), ∀ packet fault,
      (exec (handle (Reference.host []) packet.env
          (packet.msg (Reference.host []) t'.1 (Reference.client ⟨0, 7⟩))) t'.2).1 =
        .error fault ↔
      Refuses (Reference.host []) Reference.lightClient.config s packet fault := by
  obtain ⟨t', hrun⟩ := Reference.packet₁₀_accepted
  obtain ⟨m, -, -, hnext⟩ := contract_lockstep (l := [(Reference.packet₁₀, t')])
    (t := (Reference.trusted, fun _ => none)) Rlp.reference_lawful Base64.reference_lawful
    Json.toVec_injective (Reference.lightClient_read _ _) Reference.trusted_read
    (fun m hm hfront hne => Reference.fits_of_packet₁₀ hm hfront hne) hrun
  exact ⟨t', _, hnext⟩

end CeloLightClient.Contract

import CeloLightClient.Chain

/-!
Clients that do not verify the headers within the epochs.

Such a header does not touch the validators, but it is stored all the same, and its number and
its time are what the next epoch's last header is compared with. So it can shut that header out,
or let in one that is older than another already stored.
-/

namespace CeloLightClient.Interference

open Lib Lib.Outcome Lib.Action State Chain

/-- A client that skips the headers it rejects, with the epochs' last headers it has accepted. -/
structure Client where
  snapshot : Snapshot
  accepted : List Header
  deriving DecidableEq

variable (P : Platform) (config : StateConfig)

/-- Offer a header to the client. A rejected one is skipped, with whatever it has done to the
snapshot; an abort ends the run. -/
def offer (c : Client) (b : Submission) : Option Client :=
  match exec (insertHeader P config b.header b.now) c.snapshot with
  | (.ok (), s') =>
    some ⟨s', if isEpochHeader config b.header then c.accepted ++ [b.header] else c.accepted⟩
  | (.error (.err _), s') => some ⟨s', c.accepted⟩
  | (.error .panic, _) => none

/-- Two marks of a number and a time let the same header pass. -/
def SameGate (header : Header) (number number' : ℤ) (time time' : UInt64) : Prop :=
  (number < header.number ↔ number' < header.number) ∧
    (config.verifyHeaderTimestamp → (time < header.time ↔ time' < header.time))

/-- The extra field of the header can be read, so that without verification it is stored. -/
def Readable (header : Header) : Prop :=
  ∃ hash extra, header.hash P = .ok hash ∧ IstanbulExtra.fromRlp P.rlp header.extra = .ok extra

/-- At no step does a header within an epoch move the snapshot's number, or its time where times
are verified, past that of an epoch's last header still to come, in either direction. -/
def Undisturbed : Client → List Submission → Prop
  | _, [] => True
  | c, b :: l =>
    (¬ isEpochHeader config b.header → Readable P b.header →
      ∀ e ∈ l, isEpochHeader config e.header →
        SameGate config e.header c.snapshot.number.toNat b.header.number
          c.snapshot.timestamp b.header.time) ∧
      ∀ c', offer P config c b = some c' → Undisturbed c' l

variable {P config} {s t : Snapshot} {header : Header} {number : UInt64}
  {c c' d : Client} {b : Submission} {l : List Submission}

/-! ### An epoch's last header -/

lemma ensure_congr {ε : Type} {p q : Prop} [Decidable p] [Decidable q] (h : p ↔ q) (e : ε) :
    ensure p e = ensure q e := by simp [ensure, h]

lemma verifyHeader_congr (now : UInt64) (hvals : t.validators = s.validators)
    (hgate : SameGate config header s.number.toNat t.number.toNat s.timestamp t.timestamp) :
    verifyHeader P config t header now = verifyHeader P config s header now := by
  unfold verifyHeader
  rcases hn : toU64 header.number with _ | number
  · rfl
  have hnumber : t.number < number ↔ s.number < number := by
    have h := hgate.1.symm
    rwa [← toU64_toNat hn, Int.ofNat_lt, Int.ofNat_lt, ← UInt64.lt_iff_toNat_lt,
      ← UInt64.lt_iff_toNat_lt] at h
  rw [unwrap_some, ok_bind, ok_bind, ensure_congr hnumber, verifyHeaderSeal, verifyHeaderSeal,
    hvals]
  by_cases htime : config.verifyHeaderTimestamp
  · simp only [htime, verifyTimestamp, ensure_congr (hgate.2 htime)]
  · simp [htime]

lemma epochChecks_congr (now : UInt64) (hvals : t.validators = s.validators)
    (hgate : SameGate config header s.number.toNat t.number.toNat s.timestamp t.timestamp) :
    epochChecks P config t header now = epochChecks P config s header now := by
  simp only [epochChecks, verifyUnlessGenesis, verifyHeader_congr now hvals hgate]

/-- **The epoch path depends on the snapshot through its validators and the gate.** A refused
header changes the validators at most. -/
lemma storeEpochHeader_congr (now : UInt64) (hn : toU64 header.number = some number)
    (hvals : t.validators = s.validators)
    (hgate : SameGate config header s.number.toNat t.number.toNat s.timestamp t.timestamp) :
    (exec (storeEpochHeader P config header now) t =
        exec (storeEpochHeader P config header now) s) ∨
      ∃ e vs, exec (storeEpochHeader P config header now) t =
          (.error e, { t with validators := vs }) ∧
        exec (storeEpochHeader P config header now) s =
          (.error e, { s with validators := vs }) := by
  have hcongr := epochChecks_congr (P := P) now hvals hgate
  rcases hc : epochChecks P config s header now with e | ⟨hash, extra⟩
  · refine Or.inr ⟨e, s.validators, ?_, storeEpochHeader_of_error hc⟩
    rw [storeEpochHeader_of_error (hcongr.trans hc), ← hvals]
  rw [storeEpochHeader_of_ok (hcongr.trans hc) hn, storeEpochHeader_of_ok hc hn, hvals]
  split
  · split
    · exact Or.inr ⟨_, _, rfl, rfl⟩
    · exact Or.inl rfl
  · exact Or.inr ⟨_, s.validators, by rw [← hvals]; rfl, rfl⟩

/-! ### Two clients -/

/-- Both clients have accepted the same, and will let the same of the headers to come pass. -/
structure Agree (config : StateConfig) (l : List Submission) (c d : Client) : Prop where
  accepted : d.accepted = c.accepted
  validators : d.snapshot.validators = c.snapshot.validators
  gate : ∀ e ∈ l, isEpochHeader config e.header →
    SameGate config e.header c.snapshot.number.toNat d.snapshot.number.toNat
      c.snapshot.timestamp d.snapshot.timestamp

lemma SameGate.refl (header : Header) (number : ℤ) (time : UInt64) :
    SameGate config header number number time time := ⟨Iff.rfl, fun _ => Iff.rfl⟩

lemma SameGate.trans_left {n m k : ℤ} {u v w : UInt64} (h : SameGate config header n m u v)
    (h' : SameGate config header n k u w) : SameGate config header m k v w :=
  ⟨h.1.symm.trans h'.1, fun hc => (h.2 hc).symm.trans (h'.2 hc)⟩

lemma Agree.refl (l : List Submission) (c : Client) : Agree config l c c :=
  ⟨rfl, rfl, fun _ _ _ => SameGate.refl ..⟩

lemma Agree.tail (h : Agree config (b :: l) c d) : Agree config l c d :=
  ⟨h.accepted, h.validators, fun e he => h.gate e (by simp [he])⟩

lemma Agree.offer_epoch (h : Agree config (b :: l) c d) (hsize : 0 < config.epochSize)
    (hend : isEpochHeader config b.header) (ho : offer P config c b = some c') :
    ∃ d', offer P config d b = some d' ∧ Agree config l c' d' := by
  rcases hn : toU64 b.header.number with _ | number
  · simp [offer, insertHeader_of_none hn, abort] at ho
  have hend' := (isEpochHeader_iff config hn).mp hend
  have hexec : ∀ s, exec (insertHeader P config b.header b.now) s =
      exec (storeEpochHeader P config b.header b.now) s :=
    fun s => (insertHeader_exec hsize hn).trans (if_pos hend')
  have hgate := h.gate b (by simp) hend
  rcases storeEpochHeader_congr (P := P) b.now hn h.validators hgate with heq | ⟨e, vs, ht, hs⟩
  · rcases hr : exec (storeEpochHeader P config b.header b.now) c.snapshot with ⟨(e | _) | _, s'⟩
    all_goals simp only [offer, hexec, heq, hr, hend, if_true, Option.some.injEq] at ho ⊢
    · exact ⟨_, rfl, ho ▸ ⟨h.accepted, rfl, fun _ _ _ => SameGate.refl ..⟩⟩
    · cases ho
    · exact ⟨_, rfl, ho ▸ ⟨by rw [h.accepted], rfl, fun _ _ _ => SameGate.refl ..⟩⟩
  · rcases e with e | _ <;> simp only [offer, hexec, ht, hs, Option.some.injEq] at ho ⊢
    · exact ⟨_, rfl, ho ▸ ⟨h.accepted, rfl, h.tail.gate⟩⟩
    · cases ho

/-- A header within an epoch that disturbs nothing may as well be left out. -/
lemma Agree.offer_inner (h : Agree config (b :: l) c d) (hsize : 0 < config.epochSize)
    (hinner : ¬ isEpochHeader config b.header)
    (hquiet : Readable P b.header → ∀ e ∈ l, isEpochHeader config e.header →
      SameGate config e.header c.snapshot.number.toNat b.header.number
        c.snapshot.timestamp b.header.time)
    (ho : offer P config c b = some c') : Agree config l c' d := by
  rcases hn : toU64 b.header.number with _ | number
  · simp [offer, insertHeader_of_none hn, abort] at ho
  have hend := mt (isEpochHeader_iff config hn).mpr hinner
  have hexec : exec (insertHeader P config b.header b.now) c.snapshot =
      exec (storeNonEpochHeader P config b.header b.now) c.snapshot :=
    (insertHeader_exec hsize hn).trans (if_neg hend)
  rcases hc : headerChecks P config c.snapshot b.header b.now with e | ⟨hash, extra⟩
  · rw [storeNonEpochHeader_of_error hc hn] at hexec
    rcases e with e | _ <;> simp only [offer, hexec, Option.some.injEq] at ho
    · exact ho ▸ h.tail
    · cases ho
  · rw [storeNonEpochHeader_of_ok hc hn] at hexec
    simp only [offer, hexec, hinner, Option.some.injEq] at ho
    obtain ⟨-, hh, hx⟩ := headerChecks_eq_ok.mp hc
    refine ho ▸ ⟨h.accepted, h.validators, fun e he hepoch => ?_⟩
    have hmoved := hquiet ⟨hash, extra, hh, hx⟩ e he hepoch
    rw [← toU64_toNat hn] at hmoved
    exact hmoved.trans_left (h.tail.gate e he hepoch)

/-- **No interference**, in a run where no header within an epoch moves the snapshot past an
epoch's last header still to come: the client accepts the same epochs' last headers as when it is
offered nothing else, and ends with the same validators. -/
theorem undisturbed_run (hsize : 1 ≤ config.epochSize) (hquiet : Undisturbed P config c l)
    (hrun : run (offer P config) c l = some c') :
    ∃ d, run (offer P config) c (l.filter fun b => isEpochHeader config b.header) = some d ∧
      d.accepted = c'.accepted ∧ d.snapshot.validators = c'.snapshot.validators := by
  have hpos := epochSize_pos hsize
  obtain ⟨d, hd, -, hagree⟩ := run_filter (offer P config)
    (fun b => isEpochHeader config b.header)
    (fun l c d => Undisturbed P config c l ∧ Agree config l c d)
    (by
      intro b l c d c' hR hend ho
      have hrest : Undisturbed P config c' l := hR.1.2 c' ho
      obtain ⟨d', ho', hagree⟩ := hR.2.offer_epoch hpos hend ho
      exact ⟨d', ho', hrest, hagree⟩)
    (by
      intro b l c d c' hR hinner ho
      have hrest : Undisturbed P config c' l := hR.1.2 c' ho
      have hquiet := hR.1.1 hinner
      exact ⟨hrest, hR.2.offer_inner hpos hinner hquiet ho⟩)
    ⟨hquiet, Agree.refl l c⟩ hrun
  exact ⟨d, hd, hagree.accepted, hagree.validators⟩

/-- `Reference.config` without the verification of the headers within the epochs. -/
def trusting : StateConfig := { Reference.config with verifyNonEpochHeaders := false }

def newClient : Client := ⟨Reference.start, []⟩

set_option maxRecDepth 10000 in
lemma twoBlocks_offered :
    ∃ c, run (offer Reference.platform trusting) newClient [innerBlock, lastBlock] = some c :=
  Option.isSome_iff_exists.mp (by decide +kernel)

lemma twoBlocks_undisturbed :
    Undisturbed Reference.platform trusting newClient [innerBlock, lastBlock] := by
  have hlast : isEpochHeader trusting lastBlock.header := by decide +kernel
  have hgate : SameGate trusting lastBlock.header newClient.snapshot.number.toNat
      innerBlock.header.number newClient.snapshot.timestamp innerBlock.header.time := by
    unfold SameGate
    decide +kernel
  refine ⟨fun _ _ e he _ => ?_, fun c _ => ⟨fun h => absurd hlast h, fun _ _ => trivial⟩⟩
  rwa [List.mem_singleton.mp he]

theorem undisturbed_run_two :
    ∃ c d, run (offer Reference.platform trusting) newClient [innerBlock, lastBlock] = some c ∧
      run (offer Reference.platform trusting) newClient ([innerBlock, lastBlock].filter
        fun b => isEpochHeader trusting b.header) = some d ∧
      d.accepted = c.accepted ∧ d.snapshot.validators = c.snapshot.validators :=
  have ⟨c, hrun⟩ := twoBlocks_offered
  have ⟨d, hd⟩ := undisturbed_run (by decide) twoBlocks_undisturbed hrun
  ⟨c, d, hrun, hd⟩

/-- A header of block 11 that nobody has sealed. -/
def unsealedBlock : Submission :=
  ⟨Reference.headerOf 11 101 (zeroBytes _) (Reference.diff 0 []), 100⟩

set_option maxRecDepth 10000 in
/-- The unsealed header of block 11 shuts out the sealed header of block 10, and the validators
stay those of the epoch before. -/
theorem unsealed_header_interferes :
    (run (offer Reference.platform trusting) newClient [unsealedBlock, lastBlock]).map
        (fun c => (c.accepted.length, c.snapshot.validators)) =
      some (0, [Reference.validator 1, Reference.validator 2, Reference.validator 3]) ∧
    (run (offer Reference.platform trusting) newClient ([unsealedBlock, lastBlock].filter
        fun b => isEpochHeader trusting b.header)).map
        (fun c => (c.accepted.length, c.snapshot.validators)) =
      some (1, [Reference.validator 2, Reference.validator 3, Reference.validator 4]) := by
  decide +kernel

end CeloLightClient.Interference

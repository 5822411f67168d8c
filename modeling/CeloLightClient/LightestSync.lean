import CeloLightClient.Aborts
import CeloLightClient.Epochs
import CeloLightClient.Relayer

/-!
The lightest sync: a client that starts with nothing, and is brought up to the latest block.

It is shown the last header of every epoch, from the genesis block on, and then verifies the latest
header against the validators it has arrived at. An error is logged and passed over. In fast mode
the headers on the way are not verified.
-/

namespace CeloLightClient.LightestSync

open Lib Lib.Outcome Lib.Action State Chain

/-- A line of the log. -/
inductive Entry
  | inserted (epoch currentEpochNumber : UInt64) (epochBlockNumberHex : String)
  | notInserted (epochBlockNumberHex : String) (e : Error)
  | notFetched (epochBlockNumberHex : String)
  | validated (number : ℤ)
  | notValidated (e : Error)

/-- The snapshot, and the log so far. -/
structure Progress where
  snapshot : Snapshot
  log : List Entry

/-- What the relayer fetches for the number of a block, or for its name. -/
abbrev Fetches := String → Outcome Relayer.FetchError Header

/-- `matches.occurrences_of("fast")` is what decides. -/
def validateAllHeaders (fast : ℕ) : Bool :=
  match fast with
  | 1 => false
  | _ => true

def stateConfig (fast : ℕ) (epochSize : UInt64) : StateConfig where
  epochSize := epochSize
  allowedClockSkew := 5
  verifyEpochHeaders := validateAllHeaders fast
  verifyNonEpochHeaders := validateAllHeaders fast
  verifyHeaderTimestamp := true

def hexOf (n : UInt64) : String := "0x" ++ Hex.u64ToHex n

variable (P : Platform) (fetches : Fetches) (clock : UInt64 → UInt64)

/-- One epoch, at the time that the clock shows then. -/
def syncEpoch (config : StateConfig) (currentEpochNumber : UInt64) (c : Progress)
    (epoch : UInt64) : Outcome Error Progress := do
  let epochBlockNum ← getEpochLastBlockNumber epoch config.epochSize
  let epochBlockNumberHex := hexOf epochBlockNum
  match fetches epochBlockNumberHex with
  | .ok header =>
    match exec (insertHeader P config header (clock epoch)) c.snapshot with
    | (.ok (), s) => pure ⟨s, c.log ++ [.inserted epoch currentEpochNumber epochBlockNumberHex]⟩
    | (.error (.err e), s) => pure ⟨s, c.log ++ [.notInserted epochBlockNumberHex e]⟩
    | (.error .panic, _) => abort
  | .error (.err _) => pure ⟨c.snapshot, c.log ++ [.notFetched epochBlockNumberHex]⟩
  | .error .panic => abort

/-- `0..currentEpochNumber`. -/
def epochs (currentEpochNumber : UInt64) : List UInt64 :=
  (List.range currentEpochNumber.toNat).map UInt64.ofNat

/-- `main`. -/
def lightestSync (fast : ℕ) (epochSize now : UInt64) : Outcome Error Progress := do
  let config := stateConfig fast epochSize
  let currentBlockHeader ← unwrap (fetches "latest").toOption
  let number ← unwrap (toU64 currentBlockHeader.number)
  let currentEpochNumber ← getEpochNumber number epochSize
  let c ← (epochs currentEpochNumber).foldlM
    (syncEpoch P fetches clock config currentEpochNumber) ⟨.new, []⟩
  match verifyHeader P config c.snapshot currentBlockHeader now with
  | .ok () => pure ⟨c.snapshot, c.log ++ [.validated currentBlockHeader.number]⟩
  | .error (.err e) => pure ⟨c.snapshot, c.log ++ [.notValidated e]⟩
  | .error .panic => abort

/-! ### One epoch -/

/-- The line is no error. -/
def Entry.isInfo : Entry → Bool
  | .inserted .. => true
  | .validated _ => true
  | _ => false

/-- Nothing has gone wrong so far. -/
def Clean (c : Progress) : Prop := ∀ entry ∈ c.log, entry.isInfo

variable {P fetches clock} {config : StateConfig} {current epoch epochSize now : UInt64}
  {c c' : Progress} {fast : ℕ} {latest : Header} {s' : Snapshot}

/-- What happens in a round of the loop. -/
inductive Round (P : Platform) (fetches : Fetches) (clock : UInt64 → UInt64)
    (config : StateConfig) (current : UInt64) (c : Progress) (epoch last : UInt64) :
    Progress → Prop
  | inserted (header : Header) (s' : Snapshot) : fetches (hexOf last) = .ok header →
    Chain.step P config c.snapshot ⟨header, clock epoch⟩ = some s' →
    Round P fetches clock config current c epoch last
      ⟨s', c.log ++ [.inserted epoch current (hexOf last)]⟩
  | notInserted (header : Header) (e : Error) (s' : Snapshot) :
    fetches (hexOf last) = .ok header →
    exec (insertHeader P config header (clock epoch)) c.snapshot = (fail e, s') →
    Round P fetches clock config current c epoch last
      ⟨s', c.log ++ [.notInserted (hexOf last) e]⟩
  | notFetched (e : Relayer.FetchError) : fetches (hexOf last) = fail e →
    Round P fetches clock config current c epoch last
      ⟨c.snapshot, c.log ++ [.notFetched (hexOf last)]⟩

lemma syncEpoch_eq_ok : syncEpoch P fetches clock config current c epoch = .ok c' ↔
    ∃ last : UInt64, last.toNat = epoch.toNat * config.epochSize.toNat ∧
      Round P fetches clock config current c epoch last c' := by
  simp only [syncEpoch, bind_eq_ok, getEpochLastBlockNumber_eq_ok]
  refine exists_congr fun last => and_congr_right fun _ => ?_
  constructor
  · intro h
    rcases hf : fetches (hexOf last) with (e | _) | header
    · simp only [hf] at h
      obtain rfl := Except.ok.inj h
      exact .notFetched e hf
    · simp [hf, abort] at h
    · rcases hexec : exec (insertHeader P config header (clock epoch)) c.snapshot with
        ⟨(e | _) | _, s'⟩
      · simp only [hf, hexec] at h
        obtain rfl := Except.ok.inj h
        exact .notInserted header e s' hf hexec
      · simp [hf, hexec, abort] at h
      · simp only [hf, hexec] at h
        obtain rfl := Except.ok.inj h
        exact .inserted header s' hf (step_eq_some.mpr hexec)
  · rintro (⟨header, s', hf, hstep⟩ | ⟨header, e, s', hf, hexec⟩ | ⟨e, hf⟩)
    · simp only [hf, step_eq_some.mp hstep, pure_eq_ok]
    · simp only [hf, hexec, fail, pure_eq_ok]
    · simp only [hf, fail, pure_eq_ok]

/-- How the sync ends. -/
inductive Verdict (P : Platform) (config : StateConfig) (now : UInt64) (c : Progress)
    (latest : Header) : Progress → Prop
  | validated : verifyHeader P config c.snapshot latest now = .ok () →
    Verdict P config now c latest ⟨c.snapshot, c.log ++ [.validated latest.number]⟩
  | notValidated (e : Error) : verifyHeader P config c.snapshot latest now = fail e →
    Verdict P config now c latest ⟨c.snapshot, c.log ++ [.notValidated e]⟩

/-- A sync that does not abort: the latest header, its number and epoch, and the loop. -/
structure Synced (P : Platform) (fetches : Fetches) (clock : UInt64 → UInt64)
    (config : StateConfig) (now : UInt64) (latest : Header) (number current : UInt64)
    (c c' : Progress) : Prop where
  latest_eq : fetches "latest" = .ok latest
  number_eq : toU64 latest.number = some number
  current_eq : (getEpochNumber number config.epochSize : Outcome Error UInt64) = .ok current
  loop : (epochs current).foldlM (syncEpoch P fetches clock config current) ⟨.new, []⟩ = .ok c
  verdict : Verdict P config now c latest c'

lemma lightestSync_eq_ok : lightestSync P fetches clock fast epochSize now = .ok c' ↔
    ∃ latest number current c, Synced P fetches clock (stateConfig fast epochSize) now latest number
      current c c' := by
  simp only [lightestSync, bind_eq_ok, unwrap_eq_ok, toOption_eq_some]
  constructor
  · rintro ⟨latest, hlatest, number, hnumber, current, hcurrent, c, hloop, h⟩
    refine ⟨latest, number, current, c, hlatest, hnumber, hcurrent, hloop, ?_⟩
    rcases hv : verifyHeader P (stateConfig fast epochSize) c.snapshot latest now with
      (e | _) | ⟨⟩
    · simp only [hv] at h
      obtain rfl := Except.ok.inj h
      exact .notValidated e hv
    · simp [hv, abort] at h
    · simp only [hv] at h
      obtain rfl := Except.ok.inj h
      exact .validated hv
  · rintro ⟨latest, number, current, c, hlatest, hnumber, hcurrent, hloop, hverdict⟩
    refine ⟨latest, hlatest, number, hnumber, current, hcurrent, c, hloop, ?_⟩
    rcases hverdict with hv | ⟨e, hv⟩
    · simp only [hv, pure_eq_ok]
    · simp only [hv, fail, pure_eq_ok]

lemma Synced.epochSize_pos {number : UInt64}
    (h : Synced P fetches clock config now latest number current c c') : 0 < config.epochSize := by
  rcases eq_or_ne config.epochSize 0 with hzero | hne
  · simpa [getEpochNumber, div, hzero, abort] using h.current_eq
  · exact UInt64.pos_iff_ne_zero.mpr hne

/-! ### What is asked for -/

/-- The last blocks of the epochs before block `n`. -/
def epochEnds (s n : ℕ) : List ℕ := (List.range (n ⌈/⌉ s)).map (· * s)

lemma lt_ceilDiv_iff {s n k : ℕ} (hs : 0 < s) : k < n ⌈/⌉ s ↔ k * s < n := by
  rw [← not_le, ceilDiv_le_iff_le_smul hs, not_le, smul_eq_mul, Nat.mul_comm]

lemma mem_epochEnds {s n m : ℕ} (hs : 0 < s) : m ∈ epochEnds s n ↔ EpochEnd s m ∧ m < n := by
  simp only [epochEnds, List.mem_map, List.mem_range, lt_ceilDiv_iff hs]
  constructor
  · rintro ⟨k, hk, rfl⟩
    exact ⟨Nat.mul_mod_left k s, hk⟩
  · rintro ⟨hend, hm⟩
    have hmul := Nat.div_mul_cancel (Nat.dvd_of_mod_eq_zero hend)
    exact ⟨m / s, by rwa [hmul], hmul⟩

lemma pairwise_epochEnds {s n : ℕ} (hs : 0 < s) : (epochEnds s n).Pairwise (· < ·) := by
  refine List.pairwise_map.mpr (List.pairwise_lt_range.imp ?_)
  exact fun hlt => Nat.mul_lt_mul_of_pos_right hlt hs

/-- The text that a block is asked for by. -/
def hexText (n : ℕ) : String := "0x" ++ String.ofList (Nat.toDigits 16 n)

lemma hexText_injective : Function.Injective hexText := by
  intro n m h
  have htext : "0x".toList ++ Nat.toDigits 16 n = "0x".toList ++ Nat.toDigits 16 m := by
    have := congrArg String.toList h
    simpa only [hexText, String.toList_append, String.toList_ofList] using this
  exact Hex.toDigits_injective (List.append_cancel_left htext)

lemma hexOf_eq (n : UInt64) : hexOf n = hexText n.toNat := rfl

/-- What was asked for, where the line says it. -/
def Entry.requested : Entry → Option String
  | .inserted _ _ epochBlockNumberHex => some epochBlockNumberHex
  | .notInserted epochBlockNumberHex _ => some epochBlockNumberHex
  | .notFetched epochBlockNumberHex => some epochBlockNumberHex
  | _ => none

lemma map_epochs {α : Type} (f : ℕ → α) (current : UInt64) :
    (epochs current).map (fun e => f e.toNat) = (List.range current.toNat).map f := by
  rw [epochs, List.map_map]
  refine List.map_congr_left fun k hk => ?_
  have hlt : k < 2 ^ 64 := (List.mem_range.mp hk).trans current.toNat_lt
  exact congrArg f (UInt64.toNat_ofNat_of_lt' hlt)

lemma Round.requested {last : UInt64} (h : Round P fetches clock config current c epoch last c') :
    c'.log.filterMap Entry.requested =
      c.log.filterMap Entry.requested ++ [hexText last.toNat] := by
  rw [← hexOf_eq]
  cases h <;> simp [Entry.requested]

/-- The last blocks of the epochs have been asked for. -/
def Asked (epochSize : UInt64) (l : List UInt64) (c : Progress) : Prop :=
  c.log.filterMap Entry.requested = l.map fun epoch => hexText (epoch.toNat * epochSize.toNat)

lemma Asked.round {l : List UInt64} {last : UInt64} (h : Asked epochSize l c)
    (hround : Round P fetches clock config current c epoch last c')
    (hlast : last.toNat = epoch.toNat * epochSize.toNat) : Asked epochSize (l ++ [epoch]) c' := by
  unfold Asked at h ⊢
  rw [hround.requested, h, hlast, List.map_append, List.map_singleton]

/-- The texts asked for are those of the numbers in `ends`, which are the last blocks of the epochs
that have ended before the latest block. -/
structure Requested (fetches : Fetches) (epochSize : UInt64) (c : Progress) (latest : Header)
    (ends : List ℕ) : Prop where
  latest_eq : fetches "latest" = .ok latest
  requested : c.log.filterMap Entry.requested = ends.map hexText
  once : (c.log.filterMap Entry.requested).Nodup
  rises : ends.Pairwise (· < ·)
  mem_iff : ∀ m : ℕ, m ∈ ends ↔ EpochEnd epochSize.toNat m ∧ (m : ℤ) < latest.number

/-- **What the sync asks for.** After the latest block it asks for the last block of every epoch
that has ended before that block, once each and in order. -/
theorem requests (h : lightestSync P fetches clock fast epochSize now = .ok c') :
    ∃ latest ends, Requested fetches epochSize c' latest ends := by
  obtain ⟨latest, number, current, c, hsync⟩ := lightestSync_eq_ok.mp h
  have hpos : 0 < epochSize := hsync.epochSize_pos
  have hpos' : 0 < epochSize.toNat := UInt64.lt_iff_toNat_lt.mp hpos
  obtain ⟨e, he, hceil⟩ := getEpochNumber_eq (ε := Error) number hpos
  obtain rfl := Except.ok.inj (he.symm.trans hsync.current_eq)
  have hloop : Asked epochSize (epochs e) c := by
    refine foldlM_invariant (I := Asked epochSize) hsync.loop rfl ?_
    intro l₁ epoch l₂ u v _ hu hround
    obtain ⟨last, hlast, hround⟩ := syncEpoch_eq_ok.mp hround
    exact hu.round hround hlast
  -- the latest block is not asked for again
  have hverdict : c'.log.filterMap Entry.requested = c.log.filterMap Entry.requested := by
    rcases hsync.verdict with _ | _ <;> simp [Entry.requested]
  have hrequested : c'.log.filterMap Entry.requested =
      (epochEnds epochSize.toNat number.toNat).map hexText := by
    rw [hverdict, show c.log.filterMap Entry.requested = _ from hloop,
      map_epochs (fun k => hexText (k * epochSize.toNat)), hceil, epochEnds, List.map_map,
      Function.comp_def]
  have hrises := pairwise_epochEnds hpos' (n := number.toNat)
  refine ⟨latest, _, hsync.latest_eq, hrequested, ?_, hrises, fun m => ?_⟩
  · rw [hrequested]
    exact List.Nodup.map hexText_injective (hrises.imp Nat.ne_of_lt)
  · have hnumber := toU64_toNat hsync.number_eq
    rw [mem_epochEnds hpos', ← hnumber, Int.ofNat_lt]

/-- The genesis block, where the validators are those of `start`. -/
def genesisHeader : Header :=
  Reference.headerOf 0 1 (zeroBytes _) (Reference.diff 0 Reference.start.validators)

/-- A chain of which blocks 0 and 10 can be fetched, and block 11 is the latest. -/
def smallFetches : Fetches := fun number =>
  if number = hexOf 0 then .ok genesisHeader
  else if number = hexOf 10 then .ok (Reference.nextHeader 10 101 (Reference.diff 0 []))
  else if number = "latest" then .ok (Reference.nextHeader 11 102 (Reference.diff 0 []))
  else fail .Http

lemma exists_smallSync : ∃ c, lightestSync Reference.platform smallFetches (fun _ => 100) 0 10 100 =
    .ok c ∧ Clean c := by
  have hclean : (lightestSync Reference.platform smallFetches (fun _ => 100) 0 10 100).toOption.any
      (fun c => c.log.all Entry.isInfo) = true := by
    decide +kernel
  obtain ⟨c, hc, hlog⟩ := Option.any_eq_true .. |>.mp hclean
  exact ⟨c, toOption_eq_some.mp hc, List.all_eq_true.mp hlog⟩

theorem requests_small :
    ∃ c, lightestSync Reference.platform smallFetches (fun _ => 100) 0 10 100 = .ok c ∧
      ∃ latest ends, Requested smallFetches 10 c latest ends :=
  let ⟨c, hc, _⟩ := exists_smallSync
  ⟨c, hc, requests hc⟩

/-! ### A sync without errors -/

/-- The relayer gives the block that it is asked for, if any. -/
def Honest (fetches : Fetches) : Prop :=
  ∀ (n : UInt64) header, fetches (hexOf n) = .ok header → header.number = n.toNat

lemma Round.of_clean {last : UInt64} (h : Round P fetches clock config current c epoch last c')
    (hclean : Clean c') : Clean c ∧ ∃ header, fetches (hexOf last) = .ok header ∧
      Chain.step P config c.snapshot ⟨header, clock epoch⟩ = some c'.snapshot ∧
      c'.log = c.log ++ [.inserted epoch current (hexOf last)] := by
  have hbefore (entry : Entry) (hlog : c'.log = c.log ++ [entry]) : Clean c :=
    fun e he => hclean e (by simp [hlog, he])
  cases h with
  | inserted header s' hf hstep => exact ⟨hbefore _ rfl, header, hf, hstep, rfl⟩
  | notInserted _ e =>
    exact absurd (hclean (.notInserted (hexOf last) e) (by simp)) (by simp [Entry.isInfo])
  | notFetched =>
    exact absurd (hclean (.notFetched (hexOf last)) (by simp)) (by simp [Entry.isInfo])

lemma Verdict.of_clean (h : Verdict P config now c latest c') (hclean : Clean c') :
    Clean c ∧ verifyHeader P config c.snapshot latest now = .ok () ∧
      c' = ⟨c.snapshot, c.log ++ [.validated latest.number]⟩ := by
  cases h with
  | validated hv => exact ⟨fun e he => hclean e (by simp [he]), hv, rfl⟩
  | notValidated e => exact absurd (hclean (.notValidated e) (by simp)) (by simp [Entry.isInfo])

/-- The headers of the epochs, all of them inserted, have led here. -/
def Fed (P : Platform) (config : StateConfig) (l : List UInt64) (c : Progress) : Prop :=
  Clean c → ∃ blocks : List Submission,
    (blocks.map fun b => b.header.number) =
      l.map (fun epoch => ((epoch.toNat * config.epochSize.toNat : ℕ) : ℤ)) ∧
    run (Chain.step P config) .new blocks = some c.snapshot

lemma Fed.round {l : List UInt64} {last : UInt64} (h : Fed P config l c) (hhonest : Honest fetches)
    (hround : Round P fetches clock config current c epoch last c')
    (hlast : last.toNat = epoch.toNat * config.epochSize.toNat) :
    Fed P config (l ++ [epoch]) c' := by
  intro hclean
  obtain ⟨hbefore, header, hf, hstep, -⟩ := hround.of_clean hclean
  obtain ⟨blocks, hnumbers, hrun⟩ := h hbefore
  refine ⟨blocks ++ [⟨header, clock epoch⟩], ?_, ?_⟩
  · rw [List.map_append, hnumbers, List.map_append, List.map_singleton, List.map_singleton,
      hhonest last header hf, hlast]
  · exact run_append_eq_some.mpr ⟨_, hrun, run_cons_eq_some.mpr ⟨_, hstep, rfl⟩⟩

lemma stateConfig_verifies (epochSize : UInt64) (hfast : fast ≠ 1) :
    (stateConfig fast epochSize).verifyEpochHeaders ∧
      (stateConfig fast epochSize).verifyNonEpochHeaders := by
  unfold stateConfig validateAllHeaders
  split
  · exact absurd rfl hfast
  · exact ⟨rfl, rfl⟩

lemma le_getLast_of_pairwise {l : List ℤ} (h : l.Pairwise (· < ·)) {a b : ℤ}
    (hlast : l.getLast? = some b) (ha : a ∈ l) : a ≤ b := by
  obtain ⟨m, rfl⟩ := List.getLast?_eq_some_iff.mp hlast
  rcases List.mem_append.mp ha with ha | ha
  · exact ((List.pairwise_append.mp h).2.2 a ha b (by simp)).le
  · exact (List.mem_singleton.mp ha).le

/-- `blocks` are the last blocks of all the epochs before the latest block, inserted one after
another. Each but the genesis block is sealed by a quorum of the validators that those before it
lead to; so is the latest one, and no epoch ends between it and the last block inserted. -/
structure Shown (P : Platform) (config : StateConfig) (s : Snapshot) (latest : Header)
    (blocks : List Submission) : Prop where
  ends_iff : ∀ m : ℕ, (m : ℤ) ∈ (blocks.map fun b => b.header.number) ↔
    EpochEnd config.epochSize.toNat m ∧ (m : ℤ) < latest.number
  rises : (blocks.map fun b => b.header.number).Pairwise (· < ·)
  inserted : run (Chain.step P config) .new blocks = some s
  blocks_sealed : ∀ l₁ b l₂, blocks = l₁ ++ b :: l₂ → b.header.number ≠ 0 →
    SealedByQuorum P (validatorsAfter P config [] (l₁.map Submission.header)) b.header
  latest_sealed :
    SealedByQuorum P (validatorsAfter P config [] (blocks.map Submission.header)) latest
  no_epoch_between : ∀ m : ℕ, s.number.toNat < m → (m : ℤ) < latest.number →
    ¬ EpochEnd config.epochSize.toNat m

/-- **What a sync without errors has shown**, if the relayer gives the blocks that it is asked
for. -/
theorem sync_sound (hfast : fast ≠ 1) (hhonest : Honest fetches)
    (h : lightestSync P fetches clock fast epochSize now = .ok c') (hclean : Clean c') :
    ∃ latest blocks, fetches "latest" = .ok latest ∧
      Shown P (stateConfig fast epochSize) c'.snapshot latest blocks := by
  obtain ⟨latest, number, current, c, hsync⟩ := lightestSync_eq_ok.mp h
  have hpos := hsync.epochSize_pos
  have hpos' : 0 < epochSize.toNat := UInt64.lt_iff_toNat_lt.mp hpos
  obtain ⟨e, he, hceil⟩ := getEpochNumber_eq (ε := Error) number hpos
  obtain rfl := Except.ok.inj (he.symm.trans hsync.current_eq)
  have hloop : Fed P (stateConfig fast epochSize) (epochs e) c := by
    refine foldlM_invariant (I := Fed P (stateConfig fast epochSize)) hsync.loop
      (fun _ => ⟨[], rfl, rfl⟩) ?_
    intro l₁ epoch l₂ u v _ hu hround
    obtain ⟨last, hlast, hround⟩ := syncEpoch_eq_ok.mp hround
    exact hu.round hhonest hround hlast
  obtain ⟨hbefore, hv, rfl⟩ := hsync.verdict.of_clean hclean
  obtain ⟨blocks, hnumbers, hrun⟩ := hloop hbefore
  have hends : (blocks.map fun b => b.header.number) =
      (epochEnds epochSize.toNat number.toNat).map Nat.cast := by
    rw [hnumbers,
      map_epochs (fun k => ((k * (stateConfig fast epochSize).epochSize.toNat : ℕ) : ℤ)), hceil,
      epochEnds, List.map_map]
    rfl
  obtain ⟨hlt, hsealed⟩ := sealed_of_verifyHeader hv
  have hvalidators := run_validators hpos hrun
  have hnumber := toU64_toNat hsync.number_eq
  have hends_iff (m : ℕ) : (m : ℤ) ∈ (blocks.map fun b => b.header.number) ↔
      EpochEnd epochSize.toNat m ∧ (m : ℤ) < latest.number := by
    rw [hends, ← hnumber, Int.ofNat_lt, ← mem_epochEnds hpos']
    simp
  have hrise : (blocks.map fun b => b.header.number).Pairwise (· < ·) := by
    rw [hends]
    exact List.pairwise_map.mpr ((pairwise_epochEnds hpos').imp Int.ofNat_lt.mpr)
  refine ⟨latest, blocks, hsync.latest_eq, hends_iff, hrise, hrun, ?_, ?_, ?_⟩
  · intro l₁ b l₂ hl hnz
    obtain ⟨t, t', hl₁, hb, -⟩ := run_split (hl ▸ hrun)
    obtain ⟨hepoch, hnonEpoch⟩ := stateConfig_verifies epochSize hfast
    have hsealed := (sealed_of_verifyHeader (step_verified hpos hepoch hnonEpoch hnz hb)).2
    rw [run_validators hpos hl₁] at hsealed
    exact sealedByQuorum_of_sealed hsealed
  · rw [hvalidators] at hsealed
    exact sealedByQuorum_of_sealed hsealed
  · -- the last block that was inserted is the last of these
    intro m hm hmn hend
    change c.snapshot.number.toNat < m at hm
    obtain ⟨b, hb, hbm⟩ := List.mem_map.mp ((hends_iff m).mpr ⟨hend, hmn⟩)
    obtain ⟨last, hlast⟩ : ∃ last, blocks.getLast? = some last :=
      ⟨_, List.getLast?_eq_some_getLast (List.ne_nil_of_mem hb)⟩
    have hrecords := (run_records hpos hrun hlast).number
    have hle : b.header.number ≤ last.header.number :=
      le_getLast_of_pairwise hrise (by rw [List.getLast?_map, hlast]; rfl)
        (List.mem_map_of_mem hb)
    omega

lemma hexOf_injective : Function.Injective hexOf :=
  fun n m h => UInt64.toNat_inj.mp (hexText_injective (by rwa [← hexOf_eq, ← hexOf_eq]))

lemma hexOf_ne_latest (n : UInt64) : hexOf n ≠ "latest" := by
  intro h
  have hlist := congrArg String.toList h
  rw [hexOf, String.toList_append] at hlist
  cases hlist

lemma smallFetches_honest : Honest smallFetches := by
  intro n header h
  unfold smallFetches at h
  split at h
  · next hn =>
    cases h
    rw [hexOf_injective hn]
    rfl
  · split at h
    · next hn =>
      cases h
      rw [hexOf_injective hn]
      decide +kernel
    · rw [if_neg (hexOf_ne_latest n)] at h
      cases h

theorem sync_sound_small :
    ∃ c, lightestSync Reference.platform smallFetches (fun _ => 100) 0 10 100 = .ok c ∧
      ∃ latest blocks, smallFetches "latest" = .ok latest ∧
        Shown Reference.platform (stateConfig 0 10) c.snapshot latest blocks :=
  let ⟨c, hc, hclean⟩ := exists_smallSync
  ⟨c, hc, sync_sound (by decide) smallFetches_honest hc hclean⟩

/-! ### Fast mode -/

lemma step_fast {s : Snapshot} {b : Submission} (hsize : 0 < epochSize)
    (h : Chain.step P (stateConfig fast epochSize) s b = some s') :
    Chain.step P (stateConfig 1 epochSize) s b = some s' := by
  have hfull : 0 < (stateConfig fast epochSize).epochSize := hsize
  have hfast : 0 < (stateConfig 1 epochSize).epochSize := hsize
  obtain ⟨number, hash, extra, ha, rfl⟩ := (insertHeader_eq_ok hfull).mp (step_eq_some.mp h)
  have hunverified : Verifies (stateConfig 1 epochSize) number = false := by
    simp [Verifies, stateConfig, validateAllHeaders]
  refine step_eq_some.mpr ((insertHeader_eq_ok hfast).mpr
    ⟨number, hash, extra, ⟨ha.number_eq, fun hv => ?_, ha.hash_eq, ha.extra_eq, ha.diff⟩, rfl⟩)
  rw [hunverified] at hv
  cases hv

/-- **Fast mode.** Where the full sync logs no error, the fast one does the same. -/
theorem fast_agrees
    (h : lightestSync P fetches clock fast epochSize now = .ok c') (hclean : Clean c') :
    lightestSync P fetches clock 1 epochSize now = .ok c' := by
  obtain ⟨latest, number, current, c, hsync⟩ := lightestSync_eq_ok.mp h
  have hloop : Clean c → (epochs current).foldlM (syncEpoch P fetches clock
      (stateConfig 1 epochSize) current) ⟨.new, []⟩ = .ok c := by
    refine foldlM_invariant (I := fun l (c : Progress) => Clean c → l.foldlM (syncEpoch P fetches
      clock (stateConfig 1 epochSize) current) ⟨.new, []⟩ = .ok c) hsync.loop (fun _ => rfl) ?_
    intro l₁ epoch l₂ u v _ hu hround hv
    obtain ⟨last, hlast, hround⟩ := syncEpoch_eq_ok.mp hround
    obtain ⟨hbefore, header, hf, hstep, hlog⟩ := hround.of_clean hv
    have hstep' := step_fast hsync.epochSize_pos hstep
    have hround' : Round P fetches clock (stateConfig 1 epochSize) current u epoch last
        ⟨v.snapshot, u.log ++ [.inserted epoch current (hexOf last)]⟩ :=
      .inserted header v.snapshot hf hstep'
    rw [← hlog] at hround'
    have hepoch : syncEpoch P fetches clock (stateConfig 1 epochSize) current u epoch = .ok v :=
      syncEpoch_eq_ok.mpr ⟨last, hlast, hround'⟩
    rw [List.foldlM_append, hu hbefore, ok_bind, List.foldlM_cons, hepoch, ok_bind,
      List.foldlM_nil, pure_eq_ok]
  obtain ⟨hbefore, -, -⟩ := hsync.verdict.of_clean hclean
  refine lightestSync_eq_ok.mpr ⟨latest, number, current, c, hsync.latest_eq, hsync.number_eq,
    hsync.current_eq, hloop hbefore, ?_⟩
  -- the latest header is verified in either mode
  rcases hsync.verdict with hv | ⟨e, hv⟩
  · exact .validated hv
  · exact .notValidated e hv

theorem fast_agrees_small :
    ∃ c, lightestSync Reference.platform smallFetches (fun _ => 100) 1 10 100 = .ok c ∧ Clean c :=
  let ⟨c, hc, hclean⟩ := exists_smallSync
  ⟨c, fast_agrees hc hclean, hclean⟩

/-! ### Without the genesis block -/

/-- A header is hashed wherever the decoder of its extra field does not abort: where the header
cannot be filtered, it is hashed as it is. -/
lemma exists_hash {header : Header} (hx : IstanbulExtra.fromRlp P.rlp header.extra ≠ abort) :
    ∃ hash, header.hash P = .ok hash := by
  have hne := mt hash_eq_abort.mp hx
  unfold Header.hash at hne ⊢
  by_cases hlen : ISTANBUL_EXTRA_VANITY_LENGTH ≤ header.extra.length
  · rw [if_pos hlen] at hne ⊢
    rcases hf : istanbulFilteredHeader P header true with (e | _) | filtered
    · exact ⟨_, rlpHash_eq header⟩
    · exact absurd (by rw [hf]; rfl) hne
    · exact ⟨_, rlpHash_eq filtered⟩
  · rw [if_neg hlen]
    exact ⟨_, rlpHash_eq header⟩

lemma verifyHeader_new_ne_ok {header : Header} {config : StateConfig} :
    verifyHeader P config .new header now ≠ .ok () := by
  intro hv
  obtain ⟨hash, extra, -, -, hseal⟩ := (sealed_of_verifyHeader hv).2
  exact (verifyAggregatedSeal_eq_ok.mp hseal).1 rfl

/-- Nothing has been inserted so far. -/
def Untouched (c : Progress) : Prop := c.snapshot = .new ∧ ∀ entry ∈ c.log, entry.isInfo = false

lemma insertHeader_of_nobody {header : Header} (hsize : 0 < config.epochSize)
    (hepoch : config.verifyEpochHeaders) (hnonEpoch : config.verifyNonEpochHeaders)
    (hnz : header.number ≠ 0) :
    ∃ e, exec (insertHeader P config header now) .new = (.error e, .new) := by
  rcases hn : toU64 header.number with _ | number
  · exact ⟨_, insertHeader_of_none hn⟩
  rw [insertHeader_exec hsize hn]
  split
  · rcases hc : epochChecks P config .new header now with e | ⟨hash, extra⟩
    · exact ⟨e, storeEpochHeader_of_error hc⟩
    · exact absurd ((epochChecks_eq_ok.mp hc).1 hepoch hnz) verifyHeader_new_ne_ok
  · rcases hc : headerChecks P config .new header now with e | ⟨hash, extra⟩
    · exact ⟨e, storeNonEpochHeader_of_error hc hn⟩
    · exact absurd ((headerChecks_eq_ok.mp hc).1 hnonEpoch hnz) verifyHeader_new_ne_ok

lemma Untouched.round {last : UInt64} (h : Untouched c) (hsize : 0 < epochSize) (hfast : fast ≠ 1)
    (hgenesis : ∀ (n : UInt64) header, fetches (hexOf n) = .ok header → header.number ≠ 0)
    (hround : Round P fetches clock (stateConfig fast epochSize) current c epoch last c') :
    Untouched c' := by
  obtain ⟨hnew, hlog⟩ := h
  have hfail (entry : Entry) (hinfo : entry.isInfo = false) :
      ∀ e ∈ c.log ++ [entry], e.isInfo = false := by
    intro e he
    rcases List.mem_append.mp he with he | he
    · exact hlog e he
    · rwa [List.mem_singleton.mp he]
  obtain ⟨hepoch, hnonEpoch⟩ := stateConfig_verifies epochSize hfast
  have hrefused (header : Header) (hf : fetches (hexOf last) = .ok header) :
      ∃ e, exec (insertHeader P (stateConfig fast epochSize) header (clock epoch)) c.snapshot =
        (.error e, c.snapshot) := by
    rw [hnew]
    exact insertHeader_of_nobody hsize hepoch hnonEpoch (hgenesis last header hf)
  cases hround with
  | inserted header s' hf hstep =>
    obtain ⟨e, hexec⟩ := hrefused header hf
    rw [step_eq_some.mp hstep] at hexec
    cases hexec
  | notInserted header e s' hf hexec =>
    obtain ⟨e', hexec'⟩ := hrefused header hf
    rw [hexec] at hexec'
    obtain rfl := (Prod.mk.inj hexec').2
    exact ⟨hnew, hfail _ rfl⟩
  | notFetched => exact ⟨hnew, hfail _ rfl⟩

lemma verifyHeader_of_nobody {s : Snapshot} {header : Header} {number : UInt64}
    {extra : IstanbulExtra} (hv : s.validators = []) (hn : toU64 header.number = some number)
    (hlt : s.number < number) (ht : config.verifyHeaderTimestamp → Timely config s header now)
    (hx : IstanbulExtra.fromRlp P.rlp header.extra = .ok extra) :
    verifyHeader P config s header now = abort := by
  have hxne : IstanbulExtra.fromRlp P.rlp header.extra ≠ abort := by simp [hx]
  obtain ⟨hash, hhash⟩ := exists_hash hxne
  have hseal : verifyAggregatedSeal P hash s.validators extra.aggregatedSeal = abort :=
    verifyAggregatedSeal_eq_abort.mpr hv
  have htime : (if config.verifyHeaderTimestamp then verifyTimestamp config s header now
      else pure ()) = (.ok () : Outcome Error Unit) := by
    split
    · next hc => exact verifyTimestamp_eq_ok.mpr (ht hc)
    · rfl
  rw [verifyHeader, hn, unwrap_some, ok_bind, ensure_of hlt, ok_bind, htime, ok_bind,
    verifyHeaderSeal, hhash, ok_bind, hx, ok_bind, hseal]

/-- **Without the genesis block** nothing is ever inserted or validated, unless in fast mode. The
sync ends where it began, and it only ends where the latest header is not to be checked at all: in
front of one that is past genesis, timely and can be decoded, it aborts. -/
theorem nothing_without_genesis (hfast : fast ≠ 1)
    (hgenesis : ∀ (n : UInt64) header, fetches (hexOf n) = .ok header → header.number ≠ 0)
    (h : lightestSync P fetches clock fast epochSize now = .ok c') :
    Untouched c' ∧ ∀ latest extra, fetches "latest" = .ok latest → 0 < latest.number →
      IstanbulExtra.fromRlp P.rlp latest.extra = .ok extra →
      ¬ Timely (stateConfig fast epochSize) .new latest now := by
  obtain ⟨latest, number, current, c, hsync⟩ := lightestSync_eq_ok.mp h
  have hloop : Untouched c := by
    refine foldlM_invariant (I := fun _ c => Untouched c) hsync.loop ⟨rfl, by simp⟩ ?_
    intro l₁ epoch l₂ u v _ hu hround
    obtain ⟨last, -, hround⟩ := syncEpoch_eq_ok.mp hround
    exact hu.round hsync.epochSize_pos hfast hgenesis hround
  obtain ⟨hnew, hlog⟩ := hloop
  rcases hsync.verdict with hv | ⟨e, hv⟩
  · rw [hnew] at hv
    exact absurd hv verifyHeader_new_ne_ok
  · refine ⟨⟨hnew, fun entry hentry => ?_⟩, ?_⟩
    · rcases List.mem_append.mp hentry with hentry | hentry
      · exact hlog entry hentry
      · rw [List.mem_singleton.mp hentry]
        rfl
    · intro header extra hheader hpos hx htimely
      obtain rfl := Except.ok.inj (hsync.latest_eq.symm.trans hheader)
      have hnumber := toU64_toNat hsync.number_eq
      have hlt : Snapshot.new.number < number := by
        rw [UInt64.lt_iff_toNat_lt]
        change 0 < number.toNat
        omega
      rw [hnew, verifyHeader_of_nobody rfl hsync.number_eq hlt (fun _ => htimely) hx] at hv
      cases hv

/-- The small chain, but for the genesis block. -/
def withoutGenesis : Fetches := fun number =>
  if number = hexOf 0 then fail .Http else smallFetches number

lemma withoutGenesis_eq_ok {number : String} {header : Header}
    (h : withoutGenesis number = .ok header) :
    number ≠ hexOf 0 ∧ smallFetches number = .ok header := by
  unfold withoutGenesis at h
  split at h
  · cases h
  · next hne => exact ⟨hne, h⟩

/-- Both headers are still in the future here. -/
theorem nothing_without_genesis_small :
    ∃ c, lightestSync Reference.platform withoutGenesis (fun _ => 0) 0 10 0 = .ok c ∧
      Untouched c ∧ ∀ latest extra, withoutGenesis "latest" = .ok latest → 0 < latest.number →
        IstanbulExtra.fromRlp Reference.platform.rlp latest.extra = .ok extra →
        ¬ Timely (stateConfig 0 10) .new latest 0 := by
  have hends :
      (lightestSync Reference.platform withoutGenesis (fun _ => 0) 0 10 0).toOption.isSome := by
    decide +kernel
  obtain ⟨c, hc⟩ := Option.isSome_iff_exists.mp hends
  rw [toOption_eq_some] at hc
  refine ⟨c, hc, nothing_without_genesis (by decide) (fun n header hf => ?_) hc⟩
  obtain ⟨hne, hserved⟩ := withoutGenesis_eq_ok hf
  rw [smallFetches_honest n header hserved]
  exact_mod_cast fun hzero => hne (congrArg hexOf (UInt64.toNat_inj.mp hzero))

end CeloLightClient.LightestSync

import CeloLightClient.LightestSync
import CeloLightClient.Ultralight

/-!
The lightest sync beside a client that has been given every block since genesis.

Of what the other client has accepted nothing is refused here. A relayer that serves its blocks
leads to its validators, as long as the clock shows no earlier times than the other client was
given.
-/

namespace CeloLightClient.LightestSync

open Lib Lib.Outcome Lib.Action State Chain Ultralight

variable {P : Platform} {fetches : Fetches} {clock : UInt64 → UInt64} {config : StateConfig}
  {current epoch epochSize now now' : UInt64} {c : Progress} {fast : ℕ} {s s' : Snapshot}
  {header : Header} {b top : Submission} {chain blocks : List Submission}

/-! ### At a later time -/

/-- The time is no earlier, and the skew can be added to it. -/
structure Later (config : StateConfig) (now now' : UInt64) : Prop where
  le : now ≤ now'
  room : now'.toNat + config.allowedClockSkew.toNat < 2 ^ 64

lemma Later.verifyHeader (h : Later config now now')
    (hv : State.verifyHeader P config s header now = .ok ()) :
    State.verifyHeader P config s header now' = .ok () := by
  obtain ⟨hnumber, htime, hsealed⟩ := verifyHeader_eq_ok.mp hv
  refine verifyHeader_eq_ok.mpr ⟨hnumber, fun hc => ?_, hsealed⟩
  obtain ⟨hnewer, -, hnow⟩ := htime hc
  have hle := UInt64.le_iff_toNat_le.mp h.le
  exact ⟨hnewer, h.room, by omega⟩

lemma Later.step (h : Later config b.now now') (hsize : 0 < config.epochSize)
    (hs : Chain.step P config s b = some s') :
    Chain.step P config s ⟨b.header, now'⟩ = some s' := by
  obtain ⟨number, hash, extra, ha, rfl⟩ := (insertHeader_eq_ok hsize).mp (step_eq_some.mp hs)
  have hverified : Verifies config number → b.header.number ≠ 0 →
      State.verifyHeader P config s b.header now' = .ok () :=
    fun hver hnz => h.verifyHeader (ha.verified hver hnz)
  exact step_eq_some.mpr ((insertHeader_eq_ok hsize).mpr
    ⟨number, hash, extra, ⟨ha.number_eq, hverified, ha.hash_eq, ha.extra_eq, ha.diff⟩, rfl⟩)

lemma step_mode (fast : ℕ) (hsize : 0 < epochSize)
    (h : Chain.step P (stateConfig 0 epochSize) s b = some s') :
    Chain.step P (stateConfig fast epochSize) s b = some s' := by
  by_cases hfast : fast = 1
  · rw [hfast]
    exact step_fast hsize h
  · have hmode : validateAllHeaders fast = validateAllHeaders 0 := by
      unfold validateAllHeaders
      split
      · exact absurd rfl hfast
      · rfl
    rwa [stateConfig, hmode]

/-! ### The last blocks of the epochs -/

/-- A client that is only given the last blocks of the epochs stays behind. The genesis block is
one of them. -/
lemma exists_behind (hsize : 0 < config.epochSize) (hepoch : config.verifyEpochHeaders)
    (hnonEpoch : config.verifyNonEpochHeaders)
    (hrun : run (Chain.step P config) s chain = some s') :
    ∃ t, run (Chain.step P config) s (chain.filter fun b => isEpochHeader config b.header) =
      some t ∧ Behind config t s' := by
  refine run_filter (Chain.step P config) (fun b => isEpochHeader config b.header)
    (fun _ s t => Behind config t s) ?_ ?_ (Behind.refl config s) hrun
  · intro b _ u v u' hbehind _ hu
    exact ⟨u', hbehind.step hsize hu, Behind.refl config u'⟩
  · intro b _ u v u' hbehind hunseen hu
    have hnz : b.header.number ≠ 0 := by
      intro hzero
      simp [isEpochHeader, hzero] at hunseen
    exact hbehind.of_unseen hsize hepoch hnonEpoch hnz hunseen hu

lemma filter_dvd_range {s n : ℕ} (hs : 0 < s) :
    (List.range n).filter (s ∣ ·) = epochEnds s n := by
  have hends := pairwise_epochEnds hs (n := n)
  have hfilter : ((List.range n).filter (s ∣ ·)).Pairwise (· < ·) :=
    List.pairwise_lt_range.filter _
  refine List.Perm.eq_of_pairwise (fun a b _ _ hab hba => absurd hab hba.not_gt) hfilter hends ?_
  refine (List.perm_ext_iff_of_nodup (hfilter.imp Nat.ne_of_lt) (hends.imp Nat.ne_of_lt)).mpr ?_
  intro m
  rw [mem_epochEnds hs, List.mem_filter, List.mem_range, decide_eq_true_eq, EpochEnd,
    Nat.dvd_iff_mod_eq_zero, and_comm]

/-- The chain is that of the blocks from genesis on. -/
def FromGenesis (chain : List Submission) : Prop :=
  (chain.map fun b => b.header.number) = (List.range chain.length).map Nat.cast

lemma FromGenesis.of_append (h : FromGenesis (chain ++ [top])) :
    FromGenesis chain ∧ top.header.number = (chain.length : ℤ) := by
  have hnumbers : (chain.map fun b => b.header.number) ++ [top.header.number] =
      (List.range chain.length).map Nat.cast ++ [(chain.length : ℤ)] := by
    simpa [FromGenesis, List.range_succ] using h
  exact (List.append_inj hnumbers (by simp)).imp_right List.singleton_inj.mp

lemma FromGenesis.ends (h : FromGenesis chain) (hsize : 0 < config.epochSize.toNat)
    (hcurrent : current.toNat = chain.length ⌈/⌉ config.epochSize.toNat) :
    List.Forall₂ (fun (b : Submission) (epoch : UInt64) =>
        b.header.number = ((epoch.toNat * config.epochSize.toNat : ℕ) : ℤ))
      (chain.filter fun b => isEpochHeader config b.header) (epochs current) := by
  have hfilter : ((chain.filter fun b => isEpochHeader config b.header).map fun b =>
      b.header.number) = (chain.map fun b => b.header.number).filter
        fun n => decide ((config.epochSize.toNat : ℤ) ∣ n) := by
    rw [List.filter_map]
    rfl
  have hends : ((chain.filter fun b => isEpochHeader config b.header).map fun b =>
      b.header.number) = (epochEnds config.epochSize.toNat chain.length).map Nat.cast := by
    rw [hfilter, h, List.filter_map, ← filter_dvd_range hsize]
    congr 2
    funext n
    simp [Int.natCast_dvd_natCast]
  have hepochs : (epochs current).map
      (fun epoch => ((epoch.toNat * config.epochSize.toNat : ℕ) : ℤ)) =
        (epochEnds config.epochSize.toNat chain.length).map Nat.cast := by
    rw [map_epochs (fun k => ((k * config.epochSize.toNat : ℕ) : ℤ)), hcurrent, epochEnds,
      List.map_map]
    rfl
  have heq := hends.trans hepochs.symm
  rwa [← List.forall₂_eq_eq_eq, List.forall₂_map_left_iff, List.forall₂_map_right_iff] at heq

/-! ### The sync -/

/-- The relayer serves the blocks of the chain and the latest one, at times no earlier than those
they were seen at. -/
structure Serves (fetches : Fetches) (clock : UInt64 → UInt64) (now : UInt64)
    (config : StateConfig) (chain : List Submission) (top : Submission) : Prop where
  block : ∀ b ∈ chain, ∀ n : UInt64, b.header.number = n.toNat → fetches (hexOf n) = .ok b.header
  latest : fetches "latest" = .ok top.header
  later : ∀ b ∈ chain, ∀ epoch, Later config b.now (clock epoch)
  later_latest : Later config top.now now

lemma Clean.append (h : Clean c) (entry : Entry) (hentry : entry.isInfo) (s : Snapshot) :
    Clean ⟨s, c.log ++ [entry]⟩ := by
  intro e he
  rcases List.mem_append.mp he with he | he
  · exact h e he
  · rwa [List.mem_singleton.mp he]

lemma exists_loop (fast : ℕ) (current : UInt64) (hsize : 0 < epochSize) {l : List UInt64}
    (hblocks : List.Forall₂ (fun (b : Submission) (epoch : UInt64) =>
      b.header.number = ((epoch.toNat * epochSize.toNat : ℕ) : ℤ)) blocks l)
    (hserves : Serves fetches clock now (stateConfig 0 epochSize) chain top)
    (hsub : blocks ⊆ chain)
    (hrun : run (Chain.step P (stateConfig 0 epochSize)) c.snapshot blocks = some s')
    (hclean : Clean c) :
    ∃ c', l.foldlM (syncEpoch P fetches clock (stateConfig fast epochSize) current) c = .ok c' ∧
      c'.snapshot = s' ∧ Clean c' := by
  induction hblocks generalizing c with
  | nil =>
    cases hrun
    exact ⟨c, rfl, rfl, hclean⟩
  | @cons b epoch blocks l hnumber hblocks ih =>
    obtain ⟨t, hb, hrest⟩ := run_cons_eq_some.mp hrun
    obtain ⟨hmem, hsub'⟩ := List.cons_subset.mp hsub
    -- the number of the block is in range, for it has been accepted
    obtain ⟨number, _, _, ha, -⟩ := (insertHeader_eq_ok
      (show 0 < (stateConfig 0 epochSize).epochSize from hsize)).mp (step_eq_some.mp hb)
    have hlast : number.toNat = epoch.toNat * epochSize.toNat := by
      exact_mod_cast (toU64_toNat ha.number_eq).trans hnumber
    have hstep := step_mode fast hsize ((hserves.later b hmem epoch).step hsize hb)
    have hround : syncEpoch P fetches clock (stateConfig fast epochSize) current c epoch =
        .ok ⟨t, c.log ++ [.inserted epoch current (hexOf number)]⟩ :=
      syncEpoch_eq_ok.mpr ⟨number, hlast, .inserted b.header t
        (hserves.block b hmem number (toU64_toNat ha.number_eq).symm) hstep⟩
    obtain ⟨c', hloop, hsnapshot, hclean'⟩ := ih hsub' hrest
      (hclean.append (.inserted epoch current (hexOf number)) rfl t)
    refine ⟨c', ?_, hsnapshot, hclean'⟩
    rw [List.foldlM_cons, hround, ok_bind, hloop]

/-- **Nothing that has been accepted is refused.** Let a client that verifies everything have
accepted all the blocks from genesis up to the latest one. If the relayer serves these blocks, then
the lightest sync logs no error in either mode: it inserts the last block of every epoch before the
latest block, arrives at the validators that the other client had there, and validates the latest
header. -/
theorem sync_complete (hsize : 1 ≤ epochSize) (hne : chain ≠ [])
    (hgenesis : FromGenesis (chain ++ [top]))
    (hrun : run (Chain.step P (stateConfig 0 epochSize)) .new (chain ++ [top]) = some s')
    (hserves : Serves fetches clock now (stateConfig 0 epochSize) chain top) (fast : ℕ) :
    ∃ s c, run (Chain.step P (stateConfig 0 epochSize)) .new chain = some s ∧
      lightestSync P fetches clock fast epochSize now = .ok c ∧ Clean c ∧
      run (Chain.step P (stateConfig 0 epochSize)) .new
        (chain.filter fun b => isEpochHeader (stateConfig 0 epochSize) b.header) =
          some c.snapshot ∧
      Behind (stateConfig 0 epochSize) c.snapshot s := by
  obtain ⟨s, hchain, hlast⟩ := run_append_eq_some.mp hrun
  obtain ⟨_, htop, -⟩ := run_cons_eq_some.mp hlast
  have hpos : 0 < (stateConfig 0 epochSize).epochSize := epochSize_pos hsize
  have hpos' : 0 < epochSize.toNat := UInt64.lt_iff_toNat_lt.mp hpos
  obtain ⟨hfront, hnumber⟩ := hgenesis.of_append
  obtain ⟨t, hends, hbehind⟩ := exists_behind hpos rfl rfl hchain
  -- the latest block is not that of genesis, so it has been verified
  have hnz : top.header.number ≠ 0 := by
    rw [hnumber]
    exact_mod_cast mt List.length_eq_zero_iff.mp hne
  have hv := step_verified hpos rfl rfl hnz htop
  obtain ⟨⟨number, hn, -⟩, -, -⟩ := verifyHeader_eq_ok.mp hv
  obtain ⟨current, hcurrent, hceil⟩ := getEpochNumber_eq (ε := Error) number hpos
  have hlength : number.toNat = chain.length := by
    exact_mod_cast (toU64_toNat hn).trans hnumber
  obtain ⟨c, hloop, rfl, hclean⟩ := exists_loop (c := ⟨.new, []⟩) fast current hpos
    (hfront.ends hpos' (hlength ▸ hceil)) hserves (List.filter_subset_self _) hends nofun
  refine ⟨s, ⟨c.snapshot, c.log ++ [.validated top.header.number]⟩, hchain, ?_,
    hclean.append _ rfl _, hends, hbehind⟩
  refine lightestSync_eq_ok.mpr ⟨top.header, number, current, c, hserves.latest, hn, hcurrent,
    hloop, .validated ?_⟩
  exact hserves.later_latest.verifyHeader (hbehind.verifyHeader hv)

/-- Block `n` of a chain whose epochs have two blocks, and whose validators stay the same. -/
def smallBlock (n : ℕ) : Submission :=
  ⟨Reference.nextHeader n (100 + UInt64.ofNat n) (Reference.diff 0 []), 100⟩

def smallChain : List Submission := [⟨genesisHeader, 100⟩, smallBlock 1, smallBlock 2]

def serve : Fetches := fun number =>
  if number = hexOf 0 then .ok genesisHeader
  else if number = hexOf 1 then .ok (smallBlock 1).header
  else if number = hexOf 2 then .ok (smallBlock 2).header
  else .ok (smallBlock 3).header

lemma serve_hexOf (n : UInt64) : serve (hexOf n) = if n = 0 then .ok genesisHeader
    else if n = 1 then .ok (smallBlock 1).header else if n = 2 then .ok (smallBlock 2).header
    else .ok (smallBlock 3).header := by
  simp only [serve, hexOf_injective.eq_iff]

lemma serve_serves :
    Serves serve (fun _ => 100) 100 (stateConfig 0 2) smallChain (smallBlock 3) := by
  have hlater : Later (stateConfig 0 2) 100 100 := ⟨UInt64.le_refl _, by decide⟩
  refine ⟨fun b hb n hn => ?_, ?_, fun b hb epoch => ?_, hlater⟩
  · have hserved (k : UInt64) (hk : b.header.number = k.toNat)
        (hb : serve (hexOf k) = .ok b.header) : serve (hexOf n) = .ok b.header := by
      obtain rfl : n = k := UInt64.toNat_inj.mp (by omega)
      exact hb
    simp only [smallChain, List.mem_cons, List.not_mem_nil, or_false] at hb
    rcases hb with rfl | rfl | rfl
    · exact hserved 0 rfl (by rw [serve_hexOf]; rfl)
    · exact hserved 1 (by decide +kernel) (by rw [serve_hexOf]; rfl)
    · exact hserved 2 (by decide +kernel) (by rw [serve_hexOf]; rfl)
  · simp [serve, (hexOf_ne_latest _).symm]
  · simp only [smallChain, List.mem_cons, List.not_mem_nil, or_false] at hb
    rcases hb with rfl | rfl | rfl <;> exact hlater

theorem sync_complete_small : ∃ s c, run (Chain.step Reference.platform (stateConfig 0 2)) .new
      smallChain = some s ∧
    lightestSync Reference.platform serve (fun _ => 100) 1 2 100 = .ok c ∧ Clean c ∧
      run (Chain.step Reference.platform (stateConfig 0 2)) .new
        (smallChain.filter fun b => isEpochHeader (stateConfig 0 2) b.header) = some c.snapshot ∧
      Behind (stateConfig 0 2) c.snapshot s := by
  have haccepted : (run (Chain.step Reference.platform (stateConfig 0 2)) .new
      (smallChain ++ [smallBlock 3])).isSome := by
    decide +kernel
  obtain ⟨s', hrun⟩ := Option.isSome_iff_exists.mp haccepted
  have hgenesis : FromGenesis (smallChain ++ [smallBlock 3]) := by
    unfold FromGenesis
    decide +kernel
  exact sync_complete (by decide) (by simp [smallChain]) hgenesis hrun serve_serves 1

end CeloLightClient.LightestSync

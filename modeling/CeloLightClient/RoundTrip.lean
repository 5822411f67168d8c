import CeloLightClient.Codec

/-!
What is written as RLP is read back.

The one thing that is not kept is the sign of a big integer, so the numbers must not be negative;
those that have been read never are.
-/

namespace CeloLightClient

open Lib Lib.Rlp Lib.Outcome

variable {R : Codec}

/-! ### Numbers that have been read -/

def IstanbulAggregatedSeal.Nonneg (s : IstanbulAggregatedSeal) : Prop := 0 ≤ s.bitmap ∧ 0 ≤ s.round

/-- No number in the extra field is negative. -/
structure IstanbulExtra.Nonneg (e : IstanbulExtra) : Prop where
  removedValidators : 0 ≤ e.removedValidators
  aggregatedSeal : e.aggregatedSeal.Nonneg
  parentAggregatedSeal : e.parentAggregatedSeal.Nonneg

lemma IstanbulAggregatedSeal.nonneg_new : IstanbulAggregatedSeal.new.Nonneg := ⟨le_rfl, le_rfl⟩

lemma rlpToBigInt_nonneg {rlp : Bytes} {i : ℕ} {n : ℤ} (h : rlpToBigInt R rlp i = .ok n) :
    0 ≤ n := by
  obtain ⟨data, -, h⟩ := bind_eq_ok.mp h
  cases h
  exact Int.natCast_nonneg _

lemma IstanbulAggregatedSeal.nonneg_of_decode {rlp : Bytes} {s : IstanbulAggregatedSeal}
    (h : IstanbulAggregatedSeal.decode R rlp = .ok s) : s.Nonneg := by
  unfold IstanbulAggregatedSeal.decode at h
  obtain ⟨bitmap, hbitmap, h⟩ := bind_eq_ok.mp h
  obtain ⟨signature, -, h⟩ := bind_eq_ok.mp h
  obtain ⟨round, hround, h⟩ := bind_eq_ok.mp h
  cases h
  exact ⟨rlpToBigInt_nonneg hbitmap, rlpToBigInt_nonneg hround⟩

lemma sealAt_nonneg {rlp : Bytes} {i : ℕ} {s : IstanbulAggregatedSeal}
    (h : sealAt R rlp i = .ok s) : s.Nonneg := by
  obtain ⟨item, -, h⟩ := bind_eq_ok.mp h
  exact IstanbulAggregatedSeal.nonneg_of_decode h

/-- **What is read of an extra field is not negative.** -/
theorem IstanbulExtra.nonneg_of_fromRlp {bytes : Bytes} {e : IstanbulExtra}
    (h : IstanbulExtra.fromRlp R bytes = .ok e) : e.Nonneg := by
  unfold IstanbulExtra.fromRlp at h
  split at h
  · cases h
  obtain ⟨payload, -, h⟩ := bind_eq_ok.mp h
  unfold decodeWith IstanbulExtra.decode at h
  rw [mapErr_eq_ok] at h
  obtain ⟨_, -, h⟩ := bind_eq_ok.mp h
  obtain ⟨_, -, h⟩ := bind_eq_ok.mp h
  obtain ⟨_, -, h⟩ := bind_eq_ok.mp h
  obtain ⟨_, -, h⟩ := bind_eq_ok.mp h
  obtain ⟨_, -, h⟩ := bind_eq_ok.mp h
  obtain ⟨_, -, h⟩ := bind_eq_ok.mp h
  obtain ⟨removed, hremoved, h⟩ := bind_eq_ok.mp h
  obtain ⟨_, -, h⟩ := bind_eq_ok.mp h
  obtain ⟨aggregated, haggregated, h⟩ := bind_eq_ok.mp h
  obtain ⟨parent, hparent, h⟩ := bind_eq_ok.mp h
  cases h
  exact ⟨rlpToBigInt_nonneg hremoved, sealAt_nonneg haggregated, sealAt_nonneg hparent⟩

lemma Header.number_nonneg_of_fromRlp {bytes : Bytes} {header : Header}
    (h : Header.fromRlp R bytes = .ok header) : 0 ≤ header.number := by
  rw [Header.fromRlp, decodeWith, mapErr_eq_ok, Header.decode] at h
  obtain ⟨_, -, h⟩ := bind_eq_ok.mp h
  obtain ⟨_, -, h⟩ := bind_eq_ok.mp h
  obtain ⟨_, -, h⟩ := bind_eq_ok.mp h
  obtain ⟨_, -, h⟩ := bind_eq_ok.mp h
  obtain ⟨_, -, h⟩ := bind_eq_ok.mp h
  obtain ⟨_, -, h⟩ := bind_eq_ok.mp h
  obtain ⟨number, hnumber, h⟩ := bind_eq_ok.mp h
  obtain ⟨_, -, h⟩ := bind_eq_ok.mp h
  obtain ⟨_, -, h⟩ := bind_eq_ok.mp h
  obtain ⟨_, -, h⟩ := bind_eq_ok.mp h
  cases h
  exact rlpToBigInt_nonneg hnumber

/-! ### The fields of a list -/

@[simp] lemma fromBytes_val {n : ℕ} (b : FixedBytes n) : fromBytes n b.1 = .ok b := by
  rw [fromBytes, sliceTo_of_le b.2.ge, ok_bind, List.take_of_length_le b.2.le]
  exact dif_pos b.2

lemma mapErr_fromBytes_val {n : ℕ} (b : FixedBytes n) :
    mapErr invalidLength (fromBytes n b.1) = .ok b := by
  rw [fromBytes_val, mapErr_ok]

lemma ofBytesBE_bigIntToRlpCompatBytes {n : ℤ} (h : 0 ≤ n) :
    (ofBytesBE (bigIntToRlpCompatBytes n) : ℤ) = n := by
  unfold bigIntToRlpCompatBytes
  split
  · next hz => simp [hz]
  · rw [ofBytesBE_toBytesBE]
    exact Int.natAbs_of_nonneg h

lemma mapM_map_eq_ok {ε α β : Type} {f : β → Outcome ε α} {g : α → β} {l : List α}
    (h : ∀ a ∈ l, f (g a) = .ok a) : (l.map g).mapM f = .ok l := by
  induction l with
  | nil => rfl
  | cons a l ih =>
    have ha := h a (by simp)
    have hl := ih fun b hb => h b (by simp [hb])
    rw [List.map_cons, List.mapM_cons, ha, hl]
    rfl

section Fields

variable (hR : R.Lawful) {l : List Item} (hl : R.Fits (.list l)) {i : ℕ}

include hR hl

lemma atIndex_encode {t : Item} (h : l[i]? = some t) :
    R.atIndex (R.encode (.list l)) i = .ok (R.encode t) := by
  obtain ⟨hi, rfl⟩ := List.getElem?_eq_some_iff.mp h
  exact hR.atIndex_list l i hi hl

lemma dataAt_encode {b : Bytes} (h : l[i]? = some (.data b)) :
    dataAt R (R.encode (.list l)) i = .ok b := by
  have hb : R.Fits (.data b) := hR.fits_of_mem hl (List.mem_of_getElem? h)
  rw [dataAt, atIndex_encode hR hl h, ofExcept_ok, ok_bind, hR.value_data b hb, ofExcept_ok]

lemma u64At_encode {n : UInt64} (h : l[i]? = some (.data (R.u64Data n))) :
    u64At R (R.encode (.list l)) i = .ok n := by
  rw [u64At, dataAt_encode hR hl h, ok_bind, hR.u64, ofExcept_ok]

lemma rlpToBigInt_encode {n : ℤ} (hn : 0 ≤ n)
    (h : l[i]? = some (.data (bigIntToRlpCompatBytes n))) :
    rlpToBigInt R (R.encode (.list l)) i = .ok n := by
  rw [rlpToBigInt, dataAt_encode hR hl h, ok_bind, ofBytesBE_bigIntToRlpCompatBytes hn, pure_eq_ok]

lemma rlpListFieldFromBytes_encode {n : ℕ} {b : FixedBytes n} (h : l[i]? = some (.data b.1)) :
    rlpListFieldFromBytes R n (R.encode (.list l)) i = .ok b := by
  rw [rlpListFieldFromBytes, dataAt_encode hR hl h, ok_bind, mapErr_fromBytes_val]

end Fields

lemma rlpFieldFromBytes_encode (hR : R.Lawful) {n : ℕ} {b : FixedBytes n}
    (h : R.Fits (.data b.1)) : rlpFieldFromBytes R n (R.encode (.data b.1)) = .ok b := by
  rw [rlpFieldFromBytes, hR.value_data _ h, ofExcept_ok, ok_bind, mapErr_fromBytes_val]

/-! ### Seals and extra fields -/

lemma IstanbulAggregatedSeal.decode_encode (hR : R.Lawful) {s : IstanbulAggregatedSeal}
    (hs : s.Nonneg) (h : R.Fits s.item) :
    IstanbulAggregatedSeal.decode R (R.encode s.item) = .ok s := by
  unfold IstanbulAggregatedSeal.item at h ⊢
  rw [IstanbulAggregatedSeal.decode, rlpToBigInt_encode hR h hs.1 rfl, ok_bind,
    dataAt_encode hR h rfl, ok_bind, rlpToBigInt_encode hR h hs.2 rfl, ok_bind, pure_eq_ok]

lemma sealAt_encode (hR : R.Lawful) {l : List Item} (hl : R.Fits (.list l)) {i : ℕ}
    {s : IstanbulAggregatedSeal} (hs : s.Nonneg) (h : l[i]? = some s.item) :
    sealAt R (R.encode (.list l)) i = .ok s := by
  have hfits : R.Fits s.item := hR.fits_of_mem hl (List.mem_of_getElem? h)
  rw [sealAt, atIndex_encode hR hl h, ofExcept_ok, ok_bind,
    IstanbulAggregatedSeal.decode_encode hR hs hfits]

lemma collectFields_encode (hR : R.Lawful) {n : ℕ} (fields : List (FixedBytes n))
    (h : R.Fits (.list (fields.map fun b => .data b.1))) :
    collectFields R n (R.encode (.list (fields.map fun b => .data b.1))) = .ok (.ok fields) := by
  rw [collectFields, hR.iter_list _ h, List.map_map, mapM_map_eq_ok, attempt_ok]
  intro b hb
  exact rlpFieldFromBytes_encode hR (hR.fits_of_mem h (List.mem_map_of_mem hb))

lemma IstanbulExtra.decode_encode (hR : R.Lawful) {e : IstanbulExtra} (he : e.Nonneg)
    (h : R.Fits e.item) : IstanbulExtra.decode R (R.encode e.item) = .ok e := by
  unfold IstanbulExtra.item at h ⊢
  have hvalidators := collectFields_encode hR e.addedValidators (hR.fits_of_mem h (by simp))
  have hkeys := collectFields_encode hR e.addedValidatorsPublicKeys (hR.fits_of_mem h (by simp))
  rw [IstanbulExtra.decode, atIndex_encode hR h rfl, ofExcept_ok, ok_bind, hvalidators, ok_bind,
    atIndex_encode hR h rfl, ofExcept_ok, ok_bind, hkeys, ok_bind, ofExcept_ok, ok_bind,
    ofExcept_ok, ok_bind, rlpToBigInt_encode hR h he.removedValidators rfl, ok_bind,
    dataAt_encode hR h rfl, ok_bind, sealAt_encode hR h he.aggregatedSeal rfl, ok_bind,
    sealAt_encode hR h he.parentAggregatedSeal rfl, ok_bind, pure_eq_ok]

/-- **The extra field is read back**, and so is the vanity in front of it. -/
theorem IstanbulExtra.fromRlp_toRlp (hR : R.Lawful) {e : IstanbulExtra} (he : e.Nonneg)
    (h : R.Fits e.item) (vanity : IstanbulExtraVanity) :
    IstanbulExtra.fromRlp R (e.toRlp R vanity) = .ok e ∧
      fromBytes ISTANBUL_EXTRA_VANITY_LENGTH (e.toRlp R vanity) = .ok vanity := by
  have hlen : ISTANBUL_EXTRA_VANITY_LENGTH ≤ (e.toRlp R vanity).length := by
    rw [IstanbulExtra.toRlp, List.length_append, vanity.2]
    exact Nat.le_add_right _ _
  have hdrop : (e.toRlp R vanity).drop ISTANBUL_EXTRA_VANITY_LENGTH = R.encode e.item := by
    rw [IstanbulExtra.toRlp, List.drop_left' vanity.2]
  have htake : (e.toRlp R vanity).take ISTANBUL_EXTRA_VANITY_LENGTH = vanity.1 := by
    rw [IstanbulExtra.toRlp, List.take_left' vanity.2]
  constructor
  · rw [IstanbulExtra.fromRlp, if_neg (Nat.not_lt.mpr hlen), sliceFrom_of_le hlen, ok_bind, hdrop,
      decodeWith, IstanbulExtra.decode_encode hR he h, mapErr_ok]
  · rw [fromBytes, sliceTo_of_le hlen, ok_bind, htake]
    exact dif_pos vanity.2

/-! ### Headers and snapshots -/

theorem Header.fromRlp_toRlp (hR : R.Lawful) {header : Header} (hn : 0 ≤ header.number)
    (h : R.Fits (header.item R)) : Header.fromRlp R (header.toRlp R) = .ok header := by
  unfold Header.item at h
  rw [Header.fromRlp, Header.toRlp, Header.item, decodeWith, Header.decode,
    rlpListFieldFromBytes_encode hR h rfl, ok_bind, rlpListFieldFromBytes_encode hR h rfl, ok_bind,
    rlpListFieldFromBytes_encode hR h rfl, ok_bind, rlpListFieldFromBytes_encode hR h rfl, ok_bind,
    rlpListFieldFromBytes_encode hR h rfl, ok_bind, rlpListFieldFromBytes_encode hR h rfl, ok_bind,
    rlpToBigInt_encode hR h hn rfl, ok_bind, u64At_encode hR h rfl, ok_bind, u64At_encode hR h rfl,
    ok_bind, dataAt_encode hR h rfl, ok_bind, pure_eq_ok, mapErr_ok]

lemma Validator.decode_encode (hR : R.Lawful) {v : Validator} (h : R.Fits v.item) :
    Validator.decode R (R.encode v.item) = .ok v := by
  unfold Validator.item at h ⊢
  rw [Validator.decode, atIndex_encode hR h rfl, ofExcept_ok, ok_bind,
    rlpFieldFromBytes_encode hR (hR.fits_of_mem h (by simp)), ok_bind, atIndex_encode hR h rfl,
    ofExcept_ok, ok_bind, rlpFieldFromBytes_encode hR (hR.fits_of_mem h (by simp)), ok_bind,
    pure_eq_ok]

lemma mapM_decode_encode (hR : R.Lawful) (validators : List Validator)
    (h : R.Fits (.list (validators.map Validator.item))) :
    (R.iter (R.encode (.list (validators.map Validator.item)))).mapM (Validator.decode R) =
      .ok validators := by
  rw [hR.iter_list _ h, List.map_map]
  refine mapM_map_eq_ok fun v hv => ?_
  exact Validator.decode_encode hR (hR.fits_of_mem h (List.mem_map_of_mem hv))

/-- **A list of validators is read back.** -/
theorem validatorsFromRlp_validatorsToRlp (hR : R.Lawful) {validators : List Validator}
    (h : R.Fits (.list (validators.map Validator.item))) :
    validatorsFromRlp R (validatorsToRlp R validators) = .ok validators := by
  rw [validatorsFromRlp, decodeList, expect_eq_ok]
  exact mapM_decode_encode hR _ h

/-- **A snapshot is read back.** -/
theorem Snapshot.fromRlp_toRlp (hR : R.Lawful) {s : Snapshot} (hs : s.aggregatedSeal.Nonneg)
    (h : R.Fits (s.item R)) : Snapshot.fromRlp R (s.toRlp R) = .ok s := by
  unfold Snapshot.item at h
  have hvalidators := mapM_decode_encode hR s.validators (hR.fits_of_mem h (by simp))
  rw [Snapshot.fromRlp, Snapshot.toRlp, Snapshot.item, decodeWith, Snapshot.decode,
    atIndex_encode hR h rfl, ofExcept_ok, ok_bind, hvalidators, attempt_ok, ok_bind, ofExcept_ok,
    ok_bind, u64At_encode hR h rfl, ok_bind, u64At_encode hR h rfl, ok_bind,
    rlpListFieldFromBytes_encode hR h rfl, ok_bind, sealAt_encode hR h hs rfl, ok_bind, pure_eq_ok,
    mapErr_ok]

/-! ### The whole format -/

/-- **The round trip.** What is written of a header, an extra field, a snapshot or a list of
validators is read back, if its numbers are not negative and it is short enough to be written. -/
theorem rlp_roundTrip (hR : R.Lawful) :
    (∀ header : Header, 0 ≤ header.number → (header.toRlp R).length < 2 ^ 64 →
        Header.fromRlp R (header.toRlp R) = .ok header) ∧
      (∀ (extra : IstanbulExtra) (vanity : IstanbulExtraVanity), extra.Nonneg →
        (extra.toRlp R vanity).length < 2 ^ 64 →
        IstanbulExtra.fromRlp R (extra.toRlp R vanity) = .ok extra ∧
          fromBytes ISTANBUL_EXTRA_VANITY_LENGTH (extra.toRlp R vanity) = .ok vanity) ∧
      (∀ s : Snapshot, s.aggregatedSeal.Nonneg → (s.toRlp R).length < 2 ^ 64 →
        Snapshot.fromRlp R (s.toRlp R) = .ok s) ∧
      ∀ validators : List Validator, (validatorsToRlp R validators).length < 2 ^ 64 →
        validatorsFromRlp R (validatorsToRlp R validators) = .ok validators := by
  refine ⟨fun header hn h => ?_, fun extra vanity he h => ?_, fun s hs h => ?_,
    fun validators h => ?_⟩
  · exact Header.fromRlp_toRlp hR hn h
  · -- the vanity comes on top of what has to fit
    have hfits : R.Fits extra.item := by
      rw [IstanbulExtra.toRlp, List.length_append] at h
      exact (Nat.le_add_left _ _).trans_lt h
    exact IstanbulExtra.fromRlp_toRlp hR he hfits vanity
  · exact Snapshot.fromRlp_toRlp hR hs h
  · exact validatorsFromRlp_validatorsToRlp hR h

/-- An extra field that adds a validator and removes those at positions 2, 3, 5 and 8. -/
def sampleExtra : IstanbulExtra where
  addedValidators := [zeroBytes _]
  addedValidatorsPublicKeys := [zeroBytes _]
  removedValidators := 300
  proposerSeal := [0]
  aggregatedSeal := ⟨7, [1, 2], 1⟩
  parentAggregatedSeal := .new

theorem rlp_roundTrip_sample :
    IstanbulExtra.fromRlp reference (sampleExtra.toRlp reference (zeroBytes _)) =
      .ok sampleExtra :=
  ((rlp_roundTrip reference_lawful).2.1 sampleExtra (zeroBytes _)
    ⟨by decide, ⟨by decide, by decide⟩, ⟨by decide, by decide⟩⟩ (by decide +kernel)).1

end CeloLightClient

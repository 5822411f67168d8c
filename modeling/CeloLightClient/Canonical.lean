import CeloLightClient.RoundTrip

/-!
Which extra fields are written again as they were read.

The reader is lenient: it stops at the end of the item and at the sixth field of the list, and it
takes a number with leading zeros. What it reads of such a field is written in fewer bytes, or in
others. A field is written again as it was exactly if it is canonical.
-/

namespace CeloLightClient

open Lib Lib.Rlp Lib.Outcome

variable {R : Codec}

/-! ### Canonical items -/

/-- A number without leading zeros; zero has no bytes at all. -/
def CanonicalNumber (data : Bytes) : Prop := data.head? ≠ some 0

instance (data : Bytes) : Decidable (CanonicalNumber data) := inferInstanceAs (Decidable (_ ≠ _))

/-- A list of three: a number, some bytes and a number. -/
def CanonicalSeal (t : Item) : Prop :=
  ∃ bitmap signature round : Bytes, t = .list [.data bitmap, .data signature, .data round] ∧
    CanonicalNumber bitmap ∧ CanonicalNumber round

/-- A list of six: the addresses and the keys, each with its length, the number of the removed
validators, a seal of bytes and two aggregated seals. -/
def CanonicalExtra (t : Item) : Prop :=
  ∃ (addresses keys : List Bytes) (removed proposerSeal : Bytes)
    (aggregatedSeal parentAggregatedSeal : Item),
    t = .list [.list (addresses.map .data), .list (keys.map .data), .data removed,
      .data proposerSeal, aggregatedSeal, parentAggregatedSeal] ∧
    (∀ a ∈ addresses, a.length = ADDRESS_LENGTH) ∧ (∀ k ∈ keys, k.length = PUBLIC_KEY_LENGTH) ∧
    CanonicalNumber removed ∧ CanonicalSeal aggregatedSeal ∧ CanonicalSeal parentAggregatedSeal

/-- After the vanity there is a canonical item, and nothing else. -/
def IstanbulExtra.Canonical (R : Codec) (bytes : Bytes) : Prop :=
  ISTANBUL_EXTRA_VANITY_LENGTH ≤ bytes.length ∧
    ∃ t, CanonicalExtra t ∧ bytes.drop ISTANBUL_EXTRA_VANITY_LENGTH = R.encode t

lemma canonicalNumber_bigInt (n : ℤ) : CanonicalNumber (bigIntToRlpCompatBytes n) := by
  unfold CanonicalNumber bigIntToRlpCompatBytes
  split
  · simp
  · rcases hb : toBytesBE n.natAbs with _ | ⟨x, b⟩
    · simp
    · simpa using head_toBytesBE_ne_zero hb

lemma bigInt_ofBytesBE {data : Bytes} (h : CanonicalNumber data) :
    bigIntToRlpCompatBytes (ofBytesBE data : ℤ) = data := by
  have hback := toBytesBE_ofBytesBE h
  unfold bigIntToRlpCompatBytes
  split
  · next hz =>
    rw [← hback, Nat.cast_eq_zero.mp hz, toBytesBE_zero]
  · rw [Int.natAbs_natCast, hback]

lemma canonicalSeal_item (s : IstanbulAggregatedSeal) : CanonicalSeal s.item :=
  ⟨_, _, _, rfl, canonicalNumber_bigInt _, canonicalNumber_bigInt _⟩

lemma CanonicalSeal.exists_item {t : Item} (h : CanonicalSeal t) :
    ∃ s : IstanbulAggregatedSeal, s.Nonneg ∧ t = s.item := by
  obtain ⟨bitmap, signature, round, rfl, hbitmap, hround⟩ := h
  refine ⟨⟨ofBytesBE bitmap, signature, ofBytesBE round⟩,
    ⟨Int.natCast_nonneg _, Int.natCast_nonneg _⟩, ?_⟩
  rw [IstanbulAggregatedSeal.item, bigInt_ofBytesBE hbitmap, bigInt_ofBytesBE hround]

lemma exists_fixedBytes {n : ℕ} {l : List Bytes} (h : ∀ b ∈ l, b.length = n) :
    ∃ fields : List (FixedBytes n), fields.map (fun b => Item.data b.1) = l.map .data := by
  have hl : (l.attachWith _ h).map Subtype.val = l := List.attachWith_map_subtype_val h
  refine ⟨l.attachWith _ h, ?_⟩
  conv_rhs => rw [← hl, List.map_map]
  rfl

lemma canonicalExtra_item (e : IstanbulExtra) : CanonicalExtra e.item := by
  refine ⟨e.addedValidators.map Subtype.val, e.addedValidatorsPublicKeys.map Subtype.val, _, _, _,
    _, by rw [List.map_map, List.map_map]; rfl, ?_, ?_, canonicalNumber_bigInt _,
    canonicalSeal_item _, canonicalSeal_item _⟩
  · rintro _ ha
    obtain ⟨a, -, rfl⟩ := List.mem_map.mp ha
    exact a.2
  · rintro _ hk
    obtain ⟨k, -, rfl⟩ := List.mem_map.mp hk
    exact k.2

lemma CanonicalExtra.exists_item {t : Item} (h : CanonicalExtra t) :
    ∃ e : IstanbulExtra, e.Nonneg ∧ t = e.item := by
  obtain ⟨addresses, keys, removed, proposerSeal, _, _, rfl, ha, hk, hremoved, hagg, hparent⟩ := h
  obtain ⟨aggregatedSeal, haggregated, rfl⟩ := hagg.exists_item
  obtain ⟨parentAggregatedSeal, hparent', rfl⟩ := hparent.exists_item
  obtain ⟨addedValidators, hadded⟩ := exists_fixedBytes ha
  obtain ⟨addedValidatorsPublicKeys, hkeys⟩ := exists_fixedBytes hk
  refine ⟨{
    addedValidators, addedValidatorsPublicKeys, removedValidators := ofBytesBE removed,
    proposerSeal, aggregatedSeal, parentAggregatedSeal },
    ⟨Int.natCast_nonneg _, haggregated, hparent'⟩, ?_⟩
  rw [IstanbulExtra.item, hadded, hkeys, bigInt_ofBytesBE hremoved]

/-! ### Reading and writing again -/

lemma exists_vanity {bytes : Bytes} (h : ISTANBUL_EXTRA_VANITY_LENGTH ≤ bytes.length) :
    ∃ vanity : IstanbulExtraVanity,
      fromBytes ISTANBUL_EXTRA_VANITY_LENGTH bytes = .ok vanity ∧
        vanity.1 ++ bytes.drop ISTANBUL_EXTRA_VANITY_LENGTH = bytes := by
  have hlen : (bytes.take ISTANBUL_EXTRA_VANITY_LENGTH).length = ISTANBUL_EXTRA_VANITY_LENGTH := by
    rw [List.length_take, Nat.min_eq_left h]
  refine ⟨⟨_, hlen⟩, ?_, List.take_append_drop _ _⟩
  rw [fromBytes, sliceTo_of_le h, ok_bind]
  exact dif_pos hlen

lemma IstanbulExtra.canonical_toRlp (e : IstanbulExtra) (vanity : IstanbulExtraVanity) :
    IstanbulExtra.Canonical R (e.toRlp R vanity) := by
  refine ⟨?_, e.item, canonicalExtra_item e, ?_⟩
  · rw [IstanbulExtra.toRlp, List.length_append, vanity.2]
    exact Nat.le_add_right _ _
  · rw [IstanbulExtra.toRlp, List.drop_left' vanity.2]

lemma IstanbulExtra.toRlp_of_canonical (hR : R.Lawful) {bytes : Bytes}
    (hb : bytes.length < 2 ^ 64) {e : IstanbulExtra} {vanity : IstanbulExtraVanity}
    (hc : IstanbulExtra.Canonical R bytes) (h : IstanbulExtra.fromRlp R bytes = .ok e)
    (hv : vanity.1 ++ bytes.drop ISTANBUL_EXTRA_VANITY_LENGTH = bytes) :
    e.toRlp R vanity = bytes := by
  obtain ⟨-, t, ht, hdrop⟩ := hc
  obtain ⟨e', he', rfl⟩ := ht.exists_item
  have hback : e'.toRlp R vanity = bytes := by rw [IstanbulExtra.toRlp, ← hdrop, hv]
  have hfits : R.Fits e'.item := by
    rw [← hv, List.length_append, hdrop] at hb
    exact (Nat.le_add_left _ _).trans_lt hb
  have hread := (IstanbulExtra.fromRlp_toRlp hR he' hfits vanity).1
  rw [hback, h] at hread
  cases hread
  exact hback

/-- **Reading and writing again.** Of the extra fields that are read, the canonical ones, and no
others, are written again as they were; what is written is canonical and is read back, with its
vanity; and two canonical ones with the same vanity and the same contents are the same. -/
theorem extra_toRlp_eq_iff (hR : R.Lawful) {bytes : Bytes} (hb : bytes.length < 2 ^ 64)
    {e : IstanbulExtra} (h : IstanbulExtra.fromRlp R bytes = .ok e) :
    ∃ vanity : IstanbulExtraVanity, fromBytes ISTANBUL_EXTRA_VANITY_LENGTH bytes = .ok vanity ∧
      (e.toRlp R vanity = bytes ↔ IstanbulExtra.Canonical R bytes) ∧
      IstanbulExtra.Canonical R (e.toRlp R vanity) ∧
      ((e.toRlp R vanity).length < 2 ^ 64 →
        IstanbulExtra.fromRlp R (e.toRlp R vanity) = .ok e ∧
          fromBytes ISTANBUL_EXTRA_VANITY_LENGTH (e.toRlp R vanity) = .ok vanity) ∧
      ∀ other : Bytes, other.length < 2 ^ 64 → IstanbulExtra.Canonical R bytes →
        IstanbulExtra.Canonical R other → IstanbulExtra.fromRlp R other = .ok e →
        fromBytes ISTANBUL_EXTRA_VANITY_LENGTH other = .ok vanity → other = bytes := by
  obtain ⟨vanity, hvanity, hv⟩ := exists_vanity (IstanbulExtra.length_le_of_fromRlp h (by simp))
  have hcanonical := IstanbulExtra.canonical_toRlp (R := R) e vanity
  refine ⟨vanity, hvanity, ⟨fun hback => hback ▸ hcanonical, fun hc => ?_⟩, hcanonical,
    fun hlen => ?_, fun other ho hc hco hread hvo => ?_⟩
  · exact IstanbulExtra.toRlp_of_canonical hR hb hc h hv
  · have hfits : R.Fits e.item := by
      rw [IstanbulExtra.toRlp, List.length_append] at hlen
      exact (Nat.le_add_left _ _).trans_lt hlen
    exact IstanbulExtra.fromRlp_toRlp hR (IstanbulExtra.nonneg_of_fromRlp h) hfits vanity
  · obtain ⟨vanity', hvanity', hv'⟩ := exists_vanity hco.1
    rw [hvanity'] at hvo
    cases hvo
    calc other = e.toRlp R vanity := (IstanbulExtra.toRlp_of_canonical hR ho hco hread hv').symm
      _ = bytes := IstanbulExtra.toRlp_of_canonical hR hb hc h hv

theorem extra_toRlp_eq_iff_sample :
    ∃ vanity : IstanbulExtraVanity,
      fromBytes ISTANBUL_EXTRA_VANITY_LENGTH (sampleExtra.toRlp reference (zeroBytes _)) =
        .ok vanity ∧
      sampleExtra.toRlp reference vanity = sampleExtra.toRlp reference (zeroBytes _) := by
  have hb : (sampleExtra.toRlp reference (zeroBytes _)).length < 2 ^ 64 := by decide +kernel
  have h : IstanbulExtra.fromRlp reference (sampleExtra.toRlp reference (zeroBytes _)) =
      .ok sampleExtra := by decide +kernel
  obtain ⟨vanity, hvanity, hiff, -⟩ := extra_toRlp_eq_iff reference_lawful hb h
  exact ⟨vanity, hvanity, hiff.mpr (IstanbulExtra.canonical_toRlp _ _)⟩

/-- A byte too many is read over, and is not written again. -/
theorem extra_trailing_byte :
    let bytes := sampleExtra.toRlp reference (zeroBytes _) ++ [0]
    fromBytes ISTANBUL_EXTRA_VANITY_LENGTH bytes = .ok (zeroBytes _) ∧
      IstanbulExtra.fromRlp reference bytes = .ok sampleExtra ∧
      sampleExtra.toRlp reference (zeroBytes _) ≠ bytes := by
  decide +kernel

end CeloLightClient

import CeloLightClient.HexFields
import CeloLightClient.Lib.JsonReader

/-!
Reading and writing the data of the light client as JSON.

The fields are those of the JSON-RPC interface of a node, and most of them are hexadecimal.
-/

namespace CeloLightClient

open Lib Lib.Outcome

variable (X : Hex.Codec)

/-! ### Seals and extra fields -/

def IstanbulAggregatedSeal.serialize (s : IstanbulAggregatedSeal) : Json :=
  .obj [
    ("bitmap", Hexbigint.serialize X s.bitmap),
    ("signature", Hexstring.serialize X s.signature),
    ("round", Hexbigint.serialize X s.round)]

def IstanbulAggregatedSeal.deserialize (j : Json) :
    Outcome Json.Error IstanbulAggregatedSeal := do
  let fields ← Json.struct "IstanbulAggregatedSeal" ["bitmap", "signature", "round"] j
  let bitmap ← Json.field fields "bitmap" (Hexbigint.deserialize X)
  let signature ← Json.field fields "signature" (Hexstring.deserialize X.decode)
  let round ← Json.field fields "round" (Hexbigint.deserialize X)
  pure { bitmap, signature, round }

def IstanbulExtra.serialize (e : IstanbulExtra) : Json :=
  .obj [
    ("addedValidators", Hexvec.serialize X e.addedValidators),
    ("addedValidatorsPublicKeys", Hexvec.serialize X e.addedValidatorsPublicKeys),
    ("removedValidators", Hexbigint.serialize X e.removedValidators),
    ("seal", Hexstring.serialize X e.proposerSeal),
    ("aggregatedSeal", e.aggregatedSeal.serialize X),
    ("parentAggregatedSeal", e.parentAggregatedSeal.serialize X)]

def IstanbulExtra.deserialize (j : Json) : Outcome Json.Error IstanbulExtra := do
  let fields ← Json.struct "IstanbulExtra" ["addedValidators", "addedValidatorsPublicKeys",
    "removedValidators", "seal", "aggregatedSeal", "parentAggregatedSeal"] j
  let addedValidators ← Json.field fields "addedValidators"
    (Hexvec.deserialize X (fromBytes ADDRESS_LENGTH))
  let addedValidatorsPublicKeys ← Json.field fields "addedValidatorsPublicKeys"
    (Hexvec.deserialize X (fromBytes PUBLIC_KEY_LENGTH))
  let removedValidators ← Json.field fields "removedValidators" (Hexbigint.deserialize X)
  let proposerSeal ← Json.field fields "seal" (Hexstring.deserialize X.decode)
  let aggregatedSeal ← Json.field fields "aggregatedSeal" (IstanbulAggregatedSeal.deserialize X)
  let parentAggregatedSeal ← Json.field fields "parentAggregatedSeal"
    (IstanbulAggregatedSeal.deserialize X)
  pure {
    addedValidators, addedValidatorsPublicKeys, removedValidators, proposerSeal, aggregatedSeal,
    parentAggregatedSeal }

/-! ### Headers -/

def Header.serialize (h : Header) : Json :=
  .obj [
    ("parentHash", Hexstring.serialize X h.parentHash.1),
    ("miner", Hexstring.serialize X h.coinbase.1),
    ("stateRoot", Hexstring.serialize X h.root.1),
    ("transactionsRoot", Hexstring.serialize X h.txHash.1),
    ("receiptsRoot", Hexstring.serialize X h.receiptHash.1),
    ("logsBloom", Hexstring.serialize X h.bloom.1),
    ("number", Hexbigint.serialize X h.number),
    ("gasUsed", Hexnum.serialize h.gasUsed),
    ("timestamp", Hexnum.serialize h.time),
    ("extraData", Hexstring.serialize X h.extra)]

def Header.deserialize (j : Json) : Outcome Json.Error Header := do
  let fields ← Json.struct "Header" ["parentHash", "miner", "stateRoot", "transactionsRoot",
    "receiptsRoot", "logsBloom", "number", "gasUsed", "timestamp", "extraData"] j
  let parentHash ← Json.field fields "parentHash"
    (Hexstring.deserialize (X.decodeArray HASH_LENGTH))
  let coinbase ← Json.field fields "miner" (Hexstring.deserialize (X.decodeArray ADDRESS_LENGTH))
  let root ← Json.field fields "stateRoot" (Hexstring.deserialize (X.decodeArray HASH_LENGTH))
  let txHash ← Json.field fields "transactionsRoot"
    (Hexstring.deserialize (X.decodeArray HASH_LENGTH))
  let receiptHash ← Json.field fields "receiptsRoot"
    (Hexstring.deserialize (X.decodeArray HASH_LENGTH))
  let bloom ← Json.field fields "logsBloom"
    (Hexstring.deserialize (X.decodeArray BLOOM_BYTE_LENGTH))
  let number ← Json.field fields "number" (Hexbigint.deserialize X)
  let gasUsed ← Json.field fields "gasUsed" Hexnum.deserialize
  let time ← Json.field fields "timestamp" Hexnum.deserialize
  let extra ← Json.field fields "extraData" (Hexstring.deserialize X.decode)
  pure {
    parentHash, coinbase, root, txHash, receiptHash, bloom, number, gasUsed, time, extra }

/-! ### Snapshots -/

def Validator.serialize (v : Validator) : Json :=
  .obj [
    ("address", Hexstring.serialize X v.address.1),
    ("public_key", Hexstring.serialize X v.publicKey.1)]

def Validator.deserialize (j : Json) : Outcome Json.Error Validator := do
  let fields ← Json.struct "Validator" ["address", "public_key"] j
  let address ← Json.field fields "address" (Hexstring.deserialize (X.decodeArray ADDRESS_LENGTH))
  let publicKey ← Json.field fields "public_key"
    (Hexstring.deserialize (X.decodeArray PUBLIC_KEY_LENGTH))
  pure { address, publicKey }

/-- A snapshot is not hexadecimal but for its validators and its seal. -/
def Snapshot.serialize (s : Snapshot) : Json :=
  .obj [
    ("number", .num s.number.toNat),
    ("timestamp", .num s.timestamp.toNat),
    ("validators", .arr (s.validators.map (Validator.serialize X))),
    ("hash", .bytes s.hash.1),
    ("aggregated_seal", s.aggregatedSeal.serialize X)]

def Snapshot.deserialize (j : Json) : Outcome Json.Error Snapshot := do
  let fields ← Json.struct "Snapshot"
    ["number", "timestamp", "validators", "hash", "aggregated_seal"] j
  let number ← Json.field fields "number" Json.u64
  let timestamp ← Json.field fields "timestamp" Json.u64
  let validators ← Json.field fields "validators" (Json.vec (Validator.deserialize X))
  let hash ← Json.field fields "hash" (Json.array HASH_LENGTH)
  let aggregatedSeal ← Json.field fields "aggregated_seal" (IstanbulAggregatedSeal.deserialize X)
  pure { number, timestamp, validators, hash, aggregatedSeal }

/-! ### The fields are read back -/

variable {X}

lemma utf8_eq_nil {s : String} (h : (utf8 s).length = 0) : s = "" := by
  have hlen := length_le_utf8 s.toList
  rw [String.ofList_toList, h, Nat.le_zero, List.length_eq_zero_iff] at hlen
  exact String.toList_eq_nil_iff.mp hlen

lemma Hexstring.deserialize_serialize {α : Type} {read : String → Except String α}
    {Says : List Char → α → Prop} (hread : Reads read Says) {value : Bytes} {a : α}
    (h : Says (X.encode value).toList a) :
    Hexstring.deserialize read (Hexstring.serialize X value) = .ok a := by
  unfold Hexstring.serialize
  dsimp only
  split
  · next hempty =>
    rw [utf8_eq_nil hempty] at h
    exact (hexstring_eq_ok hread).mpr (.inr ⟨.inl (by decide), Json.borrowed_str (by simp), h⟩)
  · exact (hexstring_eq_ok hread).mpr (.inl ⟨_, toList_append_digits _, h⟩)

lemma Hexstring.bytes_roundTrip (hX : X.Lawful) (value : Bytes) :
    Hexstring.deserialize X.decode (Hexstring.serialize X value) = .ok value :=
  Hexstring.deserialize_serialize (reads_decode hX) (hX.encode_spells value)

lemma Hexstring.array_roundTrip (hX : X.Lawful) {n : ℕ} (value : FixedBytes n) :
    Hexstring.deserialize (X.decodeArray n) (Hexstring.serialize X value.1) = .ok value :=
  Hexstring.deserialize_serialize (reads_decodeArray hX n) (hX.encode_spells value.1)

lemma Hexnum.roundTrip (value : UInt64) :
    Hexnum.deserialize (Hexnum.serialize value) = .ok value :=
  (hexNumber_eq_ok reads_u64 fun _ => not_natural_nil).mpr
    ⟨_, toList_append_digits _, Hex.natural_u64ToHex value⟩

lemma Hexbigint.roundTrip (hX : X.Lawful) (value : ℤ) :
    Hexbigint.deserialize X (Hexbigint.serialize X value) = .ok value :=
  (hexNumber_eq_ok (reads_toBigInt hX) fun _ => not_integer_nil).mpr
    ⟨_, toList_append_digits _, hX.ofBigInt_integer value⟩

lemma hexItem_roundTrip (hX : X.Lawful) {n : ℕ} (hn : 0 < n) (value : FixedBytes n) :
    hexItem X (fromBytes n) ("0x" ++ X.encode value.1) = .ok value := by
  have hitem := toList_append_digits (X.encode value.1)
  have hspells := hX.encode_spells value.1
  refine ((hexItem_eq_ok hX hn ?_).2 value).mpr ⟨_, hitem, hspells⟩
  -- whatever bytes the text spells, it has two digits for each
  rintro ⟨b, -, hsize, hb⟩
  have hlength := ((prefixed_iff hitem).mp hb).length_eq
  rw [hspells.length_eq, value.2] at hlength
  omega

lemma Hexvec.roundTrip (hX : X.Lawful) {n : ℕ} (hn : 0 < n) (value : List (FixedBytes n)) :
    Hexvec.deserialize X (fromBytes n) (Hexvec.serialize X value) = .ok value := by
  rw [Hexvec.serialize, hexvec_strings]
  exact mapM_map_eq_ok fun v _ => hexItem_roundTrip hX hn v

/-! ### The values are read back -/

lemma IstanbulAggregatedSeal.deserialize_serialize (hX : X.Lawful) (s : IstanbulAggregatedSeal) :
    IstanbulAggregatedSeal.deserialize X (s.serialize X) = .ok s := by
  unfold IstanbulAggregatedSeal.serialize
  generalize hfields : ([_, _, _] : List (String × Json)) = fields
  have hnodup : (fields.map Prod.fst).Nodup := by simp [← hfields]
  rw [IstanbulAggregatedSeal.deserialize, Json.struct, ok_bind,
    Json.field_eq_ok hnodup (Hexbigint.roundTrip hX s.bitmap) (by simp [← hfields]), ok_bind,
    Json.field_eq_ok hnodup (Hexstring.bytes_roundTrip hX s.signature) (by simp [← hfields]),
    ok_bind, Json.field_eq_ok hnodup (Hexbigint.roundTrip hX s.round) (by simp [← hfields]),
    ok_bind, pure_eq_ok]

lemma IstanbulExtra.deserialize_serialize (hX : X.Lawful) (e : IstanbulExtra) :
    IstanbulExtra.deserialize X (e.serialize X) = .ok e := by
  unfold IstanbulExtra.serialize
  generalize hfields : ([_, _, _, _, _, _] : List (String × Json)) = fields
  have hnodup : (fields.map Prod.fst).Nodup := by simp [← hfields]
  have haddress : 0 < ADDRESS_LENGTH := by decide
  have hkey : 0 < PUBLIC_KEY_LENGTH := by decide
  have haggregated := IstanbulAggregatedSeal.deserialize_serialize hX e.aggregatedSeal
  have hparent := IstanbulAggregatedSeal.deserialize_serialize hX e.parentAggregatedSeal
  rw [IstanbulExtra.deserialize, Json.struct, ok_bind,
    Json.field_eq_ok hnodup (Hexvec.roundTrip hX haddress e.addedValidators)
      (by simp [← hfields]), ok_bind,
    Json.field_eq_ok hnodup (Hexvec.roundTrip hX hkey e.addedValidatorsPublicKeys)
      (by simp [← hfields]), ok_bind,
    Json.field_eq_ok hnodup (Hexbigint.roundTrip hX e.removedValidators) (by simp [← hfields]),
    ok_bind, Json.field_eq_ok hnodup (Hexstring.bytes_roundTrip hX e.proposerSeal)
      (by simp [← hfields]), ok_bind,
    Json.field_eq_ok hnodup haggregated (by simp [← hfields]), ok_bind,
    Json.field_eq_ok hnodup hparent (by simp [← hfields]), ok_bind, pure_eq_ok]

lemma Header.deserialize_serialize (hX : X.Lawful) (h : Header) :
    Header.deserialize X (h.serialize X) = .ok h := by
  unfold Header.serialize
  generalize hfields : ([_, _, _, _, _, _, _, _, _, _] : List (String × Json)) = fields
  have hnodup : (fields.map Prod.fst).Nodup := by simp [← hfields]
  have harray {n : ℕ} {name : String} (value : FixedBytes n)
      (hmem : (name, Hexstring.serialize X value.1) ∈ fields) :
      Json.field fields name (Hexstring.deserialize (X.decodeArray n)) = .ok value :=
    Json.field_eq_ok hnodup (Hexstring.array_roundTrip hX value) hmem
  rw [Header.deserialize, Json.struct, ok_bind, harray h.parentHash (by simp [← hfields]), ok_bind,
    harray h.coinbase (by simp [← hfields]), ok_bind, harray h.root (by simp [← hfields]), ok_bind,
    harray h.txHash (by simp [← hfields]), ok_bind, harray h.receiptHash (by simp [← hfields]),
    ok_bind, harray h.bloom (by simp [← hfields]), ok_bind,
    Json.field_eq_ok hnodup (Hexbigint.roundTrip hX h.number) (by simp [← hfields]), ok_bind,
    Json.field_eq_ok hnodup (Hexnum.roundTrip h.gasUsed) (by simp [← hfields]), ok_bind,
    Json.field_eq_ok hnodup (Hexnum.roundTrip h.time) (by simp [← hfields]), ok_bind,
    Json.field_eq_ok hnodup (Hexstring.bytes_roundTrip hX h.extra) (by simp [← hfields]), ok_bind,
    pure_eq_ok]

lemma Validator.deserialize_serialize (hX : X.Lawful) (v : Validator) :
    Validator.deserialize X (v.serialize X) = .ok v := by
  unfold Validator.serialize
  generalize hfields : ([_, _] : List (String × Json)) = fields
  have hnodup : (fields.map Prod.fst).Nodup := by simp [← hfields]
  rw [Validator.deserialize, Json.struct, ok_bind,
    Json.field_eq_ok hnodup (Hexstring.array_roundTrip hX v.address) (by simp [← hfields]),
    ok_bind,
    Json.field_eq_ok hnodup (Hexstring.array_roundTrip hX v.publicKey) (by simp [← hfields]),
    ok_bind, pure_eq_ok]

lemma Snapshot.deserialize_serialize (hX : X.Lawful) (s : Snapshot) :
    Snapshot.deserialize X (s.serialize X) = .ok s := by
  unfold Snapshot.serialize
  generalize hfields : ([_, _, _, _, _] : List (String × Json)) = fields
  have hnodup : (fields.map Prod.fst).Nodup := by simp [← hfields]
  have hvalidators := Json.vec_arr (Validator.deserialize_serialize hX) s.validators
  have hseal := IstanbulAggregatedSeal.deserialize_serialize hX s.aggregatedSeal
  rw [Snapshot.deserialize, Json.struct, ok_bind,
    Json.field_eq_ok hnodup (Json.u64_num s.number) (by simp [← hfields]), ok_bind,
    Json.field_eq_ok hnodup (Json.u64_num s.timestamp) (by simp [← hfields]), ok_bind,
    Json.field_eq_ok hnodup hvalidators (by simp [← hfields]), ok_bind,
    Json.field_eq_ok hnodup (Json.array_bytes s.hash) (by simp [← hfields]), ok_bind,
    Json.field_eq_ok hnodup hseal (by simp [← hfields]), ok_bind, pure_eq_ok]

/-! ### The values fit the limits of a reader -/

section Fits

variable (depth : ℕ)

lemma Hexstring.fits (value : Bytes) : Json.Fits depth (Hexstring.serialize X value) := by
  unfold Hexstring.serialize
  dsimp only
  split <;> exact .str ..

lemma Hexvec.fits {n : ℕ} (value : List (FixedBytes n)) :
    Json.Fits (depth + 1) (Hexvec.serialize X value) := by
  refine .arr fun j hj => ?_
  obtain ⟨s, -, rfl⟩ := List.mem_map.mp hj
  exact .str ..

lemma IstanbulAggregatedSeal.fits (s : IstanbulAggregatedSeal) :
    Json.Fits (depth + 1) (s.serialize X) := by
  refine .obj fun field hfield => ?_
  simp only [List.mem_cons, List.not_mem_nil, or_false] at hfield
  rcases hfield with rfl | rfl | rfl
  · exact .str ..
  · exact Hexstring.fits ..
  · exact .str ..

lemma IstanbulExtra.fits (e : IstanbulExtra) : Json.Fits (depth + 2) (e.serialize X) := by
  refine .obj fun field hfield => ?_
  simp only [List.mem_cons, List.not_mem_nil, or_false] at hfield
  rcases hfield with rfl | rfl | rfl | rfl | rfl | rfl
  · exact Hexvec.fits ..
  · exact Hexvec.fits ..
  · exact .str ..
  · exact Hexstring.fits ..
  · exact IstanbulAggregatedSeal.fits ..
  · exact IstanbulAggregatedSeal.fits ..

lemma Header.fits (h : Header) : Json.Fits (depth + 1) (h.serialize X) := by
  refine .obj fun field hfield => ?_
  simp only [List.mem_cons, List.not_mem_nil, or_false] at hfield
  rcases hfield with rfl | rfl | rfl | rfl | rfl | rfl | rfl | rfl | rfl | rfl
  case inr.inr.inr.inr.inr.inr.inl => exact .str ..
  case inr.inr.inr.inr.inr.inr.inr.inl => exact .str ..
  case inr.inr.inr.inr.inr.inr.inr.inr.inl => exact .str ..
  all_goals exact Hexstring.fits ..

lemma Validator.fits (v : Validator) : Json.Fits (depth + 1) (v.serialize X) := by
  refine .obj fun field hfield => ?_
  simp only [List.mem_cons, List.not_mem_nil, or_false] at hfield
  rcases hfield with rfl | rfl <;> exact Hexstring.fits ..

lemma Snapshot.fits (s : Snapshot) : Json.Fits (depth + 3) (s.serialize X) := by
  refine .obj fun field hfield => ?_
  simp only [List.mem_cons, List.not_mem_nil, or_false] at hfield
  rcases hfield with rfl | rfl | rfl | rfl | rfl
  · exact .num ..
  · exact .num ..
  · refine .arr fun j hj => ?_
    obtain ⟨v, -, rfl⟩ := List.mem_map.mp hj
    exact Validator.fits ..
  · exact Json.fits_bytes ..
  · exact IstanbulAggregatedSeal.fits ..

end Fits

variable {T : Json.Text}

/-- **The round trip.** A header, an extra field or a snapshot is read back from the text that is
written of it. -/
theorem json_roundTrip (hX : X.Lawful) (hT : T.Lawful) :
    (∀ header : Header,
        T.fromSlice (Header.deserialize X) (T.toVec (header.serialize X)) = .ok header) ∧
      (∀ extra : IstanbulExtra,
        T.fromSlice (IstanbulExtra.deserialize X) (T.toVec (extra.serialize X)) = .ok extra) ∧
      ∀ s : Snapshot, T.fromSlice (Snapshot.deserialize X) (T.toVec (s.serialize X)) = .ok s := by
  refine ⟨fun header => ?_, fun extra => ?_, fun s => ?_⟩
  · rw [Json.Text.fromSlice_toVec hT (header.fits 126), Header.deserialize_serialize hX]
  · rw [Json.Text.fromSlice_toVec hT (extra.fits 125), IstanbulExtra.deserialize_serialize hX]
  · rw [Json.Text.fromSlice_toVec hT (s.fits 124), Snapshot.deserialize_serialize hX]

/-- An extra field with a negative number and without a seal of the proposer. -/
theorem json_roundTrip_sample :
    Json.reference.fromSlice (IstanbulExtra.deserialize Hex.reference) (Json.reference.toVec
        (({ sampleExtra with removedValidators := -300, proposerSeal := [] } :
          IstanbulExtra).serialize Hex.reference)) =
      .ok { sampleExtra with removedValidators := -300, proposerSeal := [] } :=
  (json_roundTrip Hex.reference_lawful Json.reference_lawful).2.1 _

end CeloLightClient

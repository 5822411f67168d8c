import CeloLightClient.Codec

/-!
Which byte strings a reader of RLP returns from, and with what.

A reader is total if it returns from every input, and returns an error where a fixed-size field
does not have its length. The length is checked, but only of a slice that is already as long as it
has to be: data that is too short aborts the reader when it is sliced, and data that is too long is
cut. Both are seen only if the reader gets there, past the fields before.
-/

namespace CeloLightClient

open Lib Lib.Rlp Lib.Outcome

/-! ### Fixed-size fields -/

variable {ε α : Type}

/-- The reading is of fewer than `n` bytes. -/
def Short (n : ℕ) (reading : Outcome ε Bytes) : Prop := ∃ data, reading = .ok data ∧ data.length < n

/-- The reading is of `n` bytes or more. -/
def Enough (n : ℕ) (reading : Outcome ε Bytes) : Prop :=
  ∃ data, reading = .ok data ∧ n ≤ data.length

/-- The reading is of some other number of bytes than `n`. -/
def Misfit (n : ℕ) (reading : Outcome ε Bytes) : Prop :=
  ∃ data, reading = .ok data ∧ data.length ≠ n

/-- The reading is of exactly `n` bytes. -/
def Exact (n : ℕ) (reading : Outcome ε Bytes) : Prop :=
  ∃ data, reading = .ok data ∧ data.length = n

instance decidableShort (n : ℕ) : ∀ reading : Outcome ε Bytes, Decidable (Short n reading)
  | .ok data => decidable_of_iff (data.length < n) (by simp [Short])
  | .error e => isFalse (by simp [Short])

instance decidableEnough (n : ℕ) : ∀ reading : Outcome ε Bytes, Decidable (Enough n reading)
  | .ok data => decidable_of_iff (n ≤ data.length) (by simp [Enough])
  | .error e => isFalse (by simp [Enough])

instance decidableMisfit (n : ℕ) : ∀ reading : Outcome ε Bytes, Decidable (Misfit n reading)
  | .ok data => decidable_of_iff (data.length ≠ n) (by simp [Misfit])
  | .error e => isFalse (by simp [Misfit])

lemma exact_iff {n : ℕ} {reading : Outcome ε Bytes} :
    Exact n reading ↔ Enough n reading ∧ ¬ Misfit n reading := by
  rcases reading with e | data
  · simp [Exact, Enough, Misfit]
  · simp only [Exact, Enough, Misfit, Except.ok.injEq, exists_eq_left']
    omega

lemma fromBytes_of_le {n : ℕ} {data : Bytes} (h : n ≤ data.length) :
    ∃ b, fromBytes n data = .ok b := by
  have hlen : (data.take n).length = n := by rw [List.length_take, Nat.min_eq_left h]
  rw [fromBytes, sliceTo_of_le h, ok_bind]
  exact ⟨_, dif_pos hlen⟩

lemma fromBytes_of_lt {n : ℕ} {data : Bytes} (h : data.length < n) :
    fromBytes n data = abort := by
  rw [fromBytes, sliceTo, if_neg (Nat.not_le.mpr h), abort_bind]

lemma fromBytes_eq_abort {n : ℕ} {data : Bytes} : fromBytes n data = abort ↔ data.length < n := by
  refine ⟨fun h => ?_, fromBytes_of_lt⟩
  by_contra hlen
  obtain ⟨b, hb⟩ := fromBytes_of_le (Nat.not_lt.mp hlen)
  simp [hb] at h

lemma exists_fromBytes {n : ℕ} {data : Bytes} :
    (∃ b, fromBytes n data = .ok b) ↔ n ≤ data.length := by
  refine ⟨fun ⟨b, hb⟩ => ?_, fromBytes_of_le⟩
  by_contra hlen
  rw [fromBytes_of_lt (Nat.not_le.mp hlen)] at hb
  cases hb

/-- The check of the length never fails, since the slice it is made of has the length. -/
lemma fromBytes_ne_fail {n : ℕ} {data : Bytes} {e : Error} : fromBytes n data ≠ fail e := by
  rcases lt_or_ge data.length n with h | h
  · simp [fromBytes_of_lt h]
  · obtain ⟨b, hb⟩ := fromBytes_of_le h
    simp [hb]

variable {R : Codec} {rlp : Bytes} {n i : ℕ}

@[simp] lemma dataAt_ne_abort : dataAt R rlp i ≠ abort := by simp [dataAt, bind_eq_abort]

lemma rlpListFieldFromBytes_eq_abort :
    rlpListFieldFromBytes R n rlp i = abort ↔ Short n (dataAt R rlp i) := by
  rw [rlpListFieldFromBytes, bind_eq_abort, or_iff_right dataAt_ne_abort]
  simp only [mapErr_eq_abort, fromBytes_eq_abort, Short]

lemma exists_rlpListFieldFromBytes :
    (∃ b, rlpListFieldFromBytes R n rlp i = .ok b) ↔ Enough n (dataAt R rlp i) := by
  rw [rlpListFieldFromBytes, exists_bind_eq_ok]
  simp only [mapErr_eq_ok, exists_fromBytes, Enough]

lemma rlpFieldFromBytes_eq_abort :
    rlpFieldFromBytes R n rlp = abort ↔ Short n (ofExcept (R.value rlp)) := by
  rw [rlpFieldFromBytes, bind_eq_abort, or_iff_right (ofExcept_ne_abort _)]
  simp only [mapErr_eq_abort, fromBytes_eq_abort, Short]

lemma exists_rlpFieldFromBytes :
    (∃ b, rlpFieldFromBytes R n rlp = .ok b) ↔ Enough n (ofExcept (R.value rlp)) := by
  rw [rlpFieldFromBytes, exists_bind_eq_ok]
  simp only [mapErr_eq_ok, exists_fromBytes, Enough]

/-! ### The other fields do not abort -/

@[simp] lemma u64At_ne_abort : u64At R rlp i ≠ abort := by simp [u64At, bind_eq_abort]

@[simp] lemma rlpToBigInt_ne_abort : rlpToBigInt R rlp i ≠ abort := by
  simp [rlpToBigInt, bind_eq_abort]

@[simp] lemma sealAt_ne_abort : sealAt R rlp i ≠ abort := by
  simp [sealAt, IstanbulAggregatedSeal.decode, bind_eq_abort]

/-! ### Total readers -/

/-- The call returns, and returns an error if some fixed-size field has not its length. -/
def Total (call : Outcome ε α) (misfit : Prop) : Prop :=
  call ≠ abort ∧ (misfit → ∃ e, call = fail e)

lemma total_iff {call : Outcome ε α} {misfit aborts returns : Prop} (ha : call = abort ↔ aborts)
    (hr : (∃ a, call = .ok a) ↔ returns) :
    Total call misfit ↔ ¬ (aborts ∨ misfit ∧ returns) := by
  rw [← ha, ← hr]
  rcases call with (e | _) | a
  · simp [Total, fail, abort]
  · simp [Total, abort]
  · simp [Total, abort, fail]

lemma decodeWith_eq_abort {decode : Bytes → Outcome DecoderError α} {bytes : Bytes} :
    decodeWith decode bytes = abort ↔ decode bytes = abort := mapErr_eq_abort

lemma exists_decodeWith {decode : Bytes → Outcome DecoderError α} {bytes : Bytes} :
    (∃ a, decodeWith decode bytes = .ok a) ↔ ∃ a, decode bytes = .ok a := by
  simp only [decodeWith, mapErr_eq_ok]

/-- The positions and the lengths of the fixed-size fields of a list, in the order of reading. -/
abbrev Layout := List (ℕ × ℕ)

namespace Layout

variable (R) (rlp : Bytes) (fields : Layout)

/-- A field is reached that is too short. -/
def Aborts : Prop :=
  Reaches (fun f => Enough f.2 (dataAt R rlp f.1)) (fun f => Short f.2 (dataAt R rlp f.1)) fields

/-- All are there, and none is too short. -/
def AllEnough : Prop := ∀ f ∈ fields, Enough f.2 (dataAt R rlp f.1)

/-- All are there, each with its length. -/
def AllExact : Prop := ∀ f ∈ fields, Exact f.2 (dataAt R rlp f.1)

/-- One of them has not its length. -/
def SomeMisfit : Prop := ∃ f ∈ fields, Misfit f.2 (dataAt R rlp f.1)

end Layout

/-! ### Headers -/

def Header.layout : Layout :=
  [(0, HASH_LENGTH), (1, ADDRESS_LENGTH), (2, HASH_LENGTH), (3, HASH_LENGTH), (4, HASH_LENGTH),
    (5, BLOOM_BYTE_LENGTH)]

/-- Every field can be read, and no fixed-size one is too short. -/
def Header.Readable (R : Codec) (rlp : Bytes) : Prop :=
  Header.layout.AllEnough R rlp ∧ (∃ n, rlpToBigInt R rlp 6 = .ok n) ∧
    (∃ n, u64At R rlp 7 = .ok n) ∧ (∃ n, u64At R rlp 8 = .ok n) ∧ ∃ data, dataAt R rlp 9 = .ok data

lemma Header.decode_eq_abort : Header.decode R rlp = abort ↔ Header.layout.Aborts R rlp := by
  simp only [Header.decode, bind_eq_abort, exists_and_right, rlpListFieldFromBytes_eq_abort,
    exists_rlpListFieldFromBytes, rlpToBigInt_ne_abort, u64At_ne_abort, dataAt_ne_abort, pure_eq_ok,
    ok_ne_abort, and_false, exists_false, or_false]
  simp [Layout.Aborts, Header.layout]

lemma Header.exists_decode : (∃ h, Header.decode R rlp = .ok h) ↔ Header.Readable R rlp := by
  simp only [Header.decode, exists_bind_eq_ok, exists_and_right, exists_rlpListFieldFromBytes,
    pure_eq_ok, Except.ok.injEq, exists_eq', and_true]
  simp [Header.Readable, Layout.AllEnough, Header.layout, and_assoc]

/-! ### The extra field -/

/-- An item of the list is reached that is too short. -/
def ItemsAbort (R : Codec) (n : ℕ) (rlp : Bytes) : Prop :=
  Reaches (fun r => Enough n (ofExcept (R.value r))) (fun r => Short n (ofExcept (R.value r)))
    (R.iter rlp)

/-- All items are byte strings, and none is too short. -/
def ItemsEnough (R : Codec) (n : ℕ) (rlp : Bytes) : Prop :=
  ∀ r ∈ R.iter rlp, Enough n (ofExcept (R.value r))

/-- An item has not the length. -/
def ItemsMisfit (R : Codec) (n : ℕ) (rlp : Bytes) : Prop :=
  ∃ r ∈ R.iter rlp, Misfit n (ofExcept (R.value r))

lemma collectFields_eq_abort : collectFields R n rlp = abort ↔ ItemsAbort R n rlp := by
  simp only [collectFields, attempt_eq_abort, mapM_eq_abort, exists_rlpFieldFromBytes,
    rlpFieldFromBytes_eq_abort, ItemsAbort]

lemma exists_collectFields : (∃ r, collectFields R n rlp = .ok r) ↔ ¬ ItemsAbort R n rlp := by
  rw [← collectFields_eq_abort, collectFields, exists_attempt_eq_ok, attempt_eq_abort]

lemma exists_collectFields_ok :
    (∃ l, collectFields R n rlp = .ok (.ok l)) ↔ ItemsEnough R n rlp := by
  simp only [collectFields, attempt_eq_ok_ok, exists_mapM_eq_ok, exists_rlpFieldFromBytes,
    ItemsEnough]

namespace IstanbulExtra

section Payload

variable (R) (rlp)

/-- An added address is reached that is too short, or a key is. The keys are read even where an
address has been refused, as its error is kept for later. -/
def Aborts : Prop :=
  ∃ validators, R.atIndex rlp 0 = .ok validators ∧
    (ItemsAbort R ADDRESS_LENGTH validators ∨
      ∃ keys, R.atIndex rlp 1 = .ok keys ∧ ItemsAbort R PUBLIC_KEY_LENGTH keys)

/-- Every field can be read, and no address or key is too short. -/
def Readable : Prop :=
  (∃ validators, R.atIndex rlp 0 = .ok validators ∧ ItemsEnough R ADDRESS_LENGTH validators) ∧
    (∃ keys, R.atIndex rlp 1 = .ok keys ∧ ItemsEnough R PUBLIC_KEY_LENGTH keys) ∧
    (∃ n, rlpToBigInt R rlp 2 = .ok n) ∧ (∃ data, dataAt R rlp 3 = .ok data) ∧
    (∃ s, sealAt R rlp 4 = .ok s) ∧ ∃ s, sealAt R rlp 5 = .ok s

/-- An added address or a key has not its length. -/
def SomeMisfit : Prop :=
  (∃ validators, R.atIndex rlp 0 = .ok validators ∧ ItemsMisfit R ADDRESS_LENGTH validators) ∨
    ∃ keys, R.atIndex rlp 1 = .ok keys ∧ ItemsMisfit R PUBLIC_KEY_LENGTH keys

end Payload

lemma decode_eq_abort : IstanbulExtra.decode R rlp = abort ↔ Aborts R rlp := by
  simp only [IstanbulExtra.decode, bind_eq_abort, exists_and_right, collectFields_eq_abort,
    exists_collectFields, ofExcept_ne_abort, ofExcept_eq_ok, rlpToBigInt_ne_abort, dataAt_ne_abort,
    sealAt_ne_abort, pure_eq_ok, ok_ne_abort, and_false, exists_false, or_false, false_or]
  refine exists_congr fun validators => and_congr_right fun _ => ?_
  by_cases h : ItemsAbort R ADDRESS_LENGTH validators <;> simp [h]

lemma exists_decode : (∃ e, IstanbulExtra.decode R rlp = .ok e) ↔ Readable R rlp := by
  simp only [IstanbulExtra.decode, exists_bind_eq_ok, exists_and_right, ofExcept_eq_ok, pure_eq_ok,
    Except.ok.injEq, exists_eq', and_true]
  simp only [Readable, ← exists_collectFields_ok]
  constructor
  · rintro ⟨validators, hv, _, hlv, keys, hk, _, hlk, ⟨lv, rfl⟩, ⟨lk, rfl⟩, hrest⟩
    exact ⟨⟨validators, hv, lv, hlv⟩, ⟨keys, hk, lk, hlk⟩, hrest⟩
  · rintro ⟨⟨validators, hv, lv, hlv⟩, ⟨keys, hk, lk, hlk⟩, hrest⟩
    exact ⟨validators, hv, _, hlv, keys, hk, _, hlk, ⟨lv, rfl⟩, ⟨lk, rfl⟩, hrest⟩

/-- After the vanity, an added address or a key is reached that is too short. -/
def TooShort (R : Codec) (bytes : Bytes) : Prop :=
  ISTANBUL_EXTRA_VANITY_LENGTH ≤ bytes.length ∧
    Aborts R (bytes.drop ISTANBUL_EXTRA_VANITY_LENGTH)

lemma fromRlp_eq_abort {bytes : Bytes} :
    IstanbulExtra.fromRlp R bytes = abort ↔ TooShort R bytes := by
  rw [IstanbulExtra.fromRlp, TooShort, ← decode_eq_abort]
  by_cases h : bytes.length < ISTANBUL_EXTRA_VANITY_LENGTH
  · rw [if_pos h]
    exact iff_of_false (fail_ne_abort _) fun hlong => absurd hlong.1 (Nat.not_le.mpr h)
  · have hle := Nat.not_lt.mp h
    rw [if_neg h, sliceFrom_of_le hle, ok_bind, decodeWith_eq_abort, and_iff_right hle]

end IstanbulExtra

/-! ### Validators and snapshots -/

def Validator.layout : Layout := [(0, ADDRESS_LENGTH), (1, PUBLIC_KEY_LENGTH)]

lemma atIndex_bind_rlpFieldFromBytes {k : FixedBytes n → Outcome DecoderError α} :
    (do
      let item ← ofExcept (R.atIndex rlp i)
      let b ← rlpFieldFromBytes R n item
      k b) =
    (do
      let b ← rlpListFieldFromBytes R n rlp i
      k b) := by
  simp only [rlpFieldFromBytes, rlpListFieldFromBytes, dataAt, bind_assoc]

lemma Validator.decode_eq_abort :
    Validator.decode R rlp = abort ↔ Validator.layout.Aborts R rlp := by
  simp only [Validator.decode, atIndex_bind_rlpFieldFromBytes, bind_eq_abort, exists_and_right,
    rlpListFieldFromBytes_eq_abort, exists_rlpListFieldFromBytes, pure_eq_ok, ok_ne_abort,
    exists_false, and_false, or_false]
  simp [Layout.Aborts, Validator.layout]

lemma Validator.exists_decode :
    (∃ v, Validator.decode R rlp = .ok v) ↔ Validator.layout.AllEnough R rlp := by
  simp only [Validator.decode, atIndex_bind_rlpFieldFromBytes, exists_bind_eq_ok, exists_and_right,
    exists_rlpListFieldFromBytes, pure_eq_ok, Except.ok.injEq, exists_eq', and_true]
  simp [Layout.AllEnough, Validator.layout]

/-- A validator of the list is reached with a field that is too short. -/
def ValidatorsAbort (R : Codec) (rlp : Bytes) : Prop :=
  Reaches (Validator.layout.AllEnough R) (Validator.layout.Aborts R) (R.iter rlp)

def ValidatorsEnough (R : Codec) (rlp : Bytes) : Prop :=
  ∀ r ∈ R.iter rlp, Validator.layout.AllEnough R r

def ValidatorsMisfit (R : Codec) (rlp : Bytes) : Prop :=
  ∃ r ∈ R.iter rlp, Validator.layout.SomeMisfit R r

lemma mapM_decode_eq_abort :
    (R.iter rlp).mapM (Validator.decode R) = abort ↔ ValidatorsAbort R rlp := by
  simp only [mapM_eq_abort, Validator.exists_decode, Validator.decode_eq_abort, ValidatorsAbort]

lemma exists_mapM_decode :
    (∃ l, (R.iter rlp).mapM (Validator.decode R) = .ok l) ↔ ValidatorsEnough R rlp := by
  simp only [exists_mapM_eq_ok, Validator.exists_decode, ValidatorsEnough]

namespace Snapshot

/-- A validator is reached with a field that is too short; or the hash is, and is too short. -/
def Aborts (R : Codec) (rlp : Bytes) : Prop :=
  ∃ list, R.atIndex rlp 2 = .ok list ∧
    (ValidatorsAbort R list ∨
      ValidatorsEnough R list ∧ (∃ n, u64At R rlp 0 = .ok n) ∧ (∃ n, u64At R rlp 1 = .ok n) ∧
        Short HASH_LENGTH (dataAt R rlp 3))

/-- Every field can be read, and no fixed-size one is too short. -/
def Readable (R : Codec) (rlp : Bytes) : Prop :=
  (∃ list, R.atIndex rlp 2 = .ok list ∧ ValidatorsEnough R list) ∧
    (∃ n, u64At R rlp 0 = .ok n) ∧ (∃ n, u64At R rlp 1 = .ok n) ∧
    Enough HASH_LENGTH (dataAt R rlp 3) ∧ ∃ s, sealAt R rlp 4 = .ok s

/-- A field of a validator, or the hash, has not its length. -/
def SomeMisfit (R : Codec) (rlp : Bytes) : Prop :=
  (∃ list, R.atIndex rlp 2 = .ok list ∧ ValidatorsMisfit R list) ∨
    Misfit HASH_LENGTH (dataAt R rlp 3)

lemma decode_eq_abort : Snapshot.decode R rlp = abort ↔ Aborts R rlp := by
  simp only [Snapshot.decode, attempt_bind_ofExcept, bind_eq_abort, exists_and_right,
    mapM_decode_eq_abort, exists_mapM_decode, ofExcept_ne_abort, ofExcept_eq_ok, u64At_ne_abort,
    rlpListFieldFromBytes_eq_abort, sealAt_ne_abort, pure_eq_ok, ok_ne_abort, and_false,
    exists_false, or_false, false_or]
  rfl

lemma exists_decode : (∃ s, Snapshot.decode R rlp = .ok s) ↔ Readable R rlp := by
  simp only [Snapshot.decode, attempt_bind_ofExcept, exists_bind_eq_ok, exists_and_right,
    exists_mapM_decode, ofExcept_eq_ok, exists_rlpListFieldFromBytes, pure_eq_ok,
    Except.ok.injEq, exists_eq', and_true]
  simp only [Readable, ← and_assoc, exists_and_right]

end Snapshot

/-! ### Where the readers are not total -/

/-- A header on which its reader aborts, or cuts a field. -/
def Header.Defective (R : Codec) (bytes : Bytes) : Prop :=
  Header.layout.Aborts R bytes ∨ Header.layout.SomeMisfit R bytes ∧ Header.Readable R bytes

def IstanbulExtra.PayloadDefective (R : Codec) (payload : Bytes) : Prop :=
  IstanbulExtra.Aborts R payload ∨
    IstanbulExtra.SomeMisfit R payload ∧ IstanbulExtra.Readable R payload

/-- An extra field as long as the vanity, with what follows the vanity on which its reader aborts,
or cuts a field. -/
def IstanbulExtra.Defective (R : Codec) (bytes : Bytes) : Prop :=
  ISTANBUL_EXTRA_VANITY_LENGTH ≤ bytes.length ∧
    IstanbulExtra.PayloadDefective R (bytes.drop ISTANBUL_EXTRA_VANITY_LENGTH)

/-- A snapshot on which its reader aborts, or cuts a field. -/
def Snapshot.Defective (R : Codec) (bytes : Bytes) : Prop :=
  Snapshot.Aborts R bytes ∨ Snapshot.SomeMisfit R bytes ∧ Snapshot.Readable R bytes

/-- A list of validators in which some validator lacks a field, or has one without its length. -/
def ValidatorsDefective (R : Codec) (bytes : Bytes) : Prop :=
  ∃ r ∈ R.iter bytes, ¬ Validator.layout.AllExact R r

lemma Header.total_fromRlp :
    Total (Header.fromRlp R rlp) (Header.layout.SomeMisfit R rlp) ↔ ¬ Header.Defective R rlp :=
  total_iff (decodeWith_eq_abort.trans Header.decode_eq_abort)
    (exists_decodeWith.trans Header.exists_decode)

lemma Snapshot.total_fromRlp :
    Total (Snapshot.fromRlp R rlp) (Snapshot.SomeMisfit R rlp) ↔ ¬ Snapshot.Defective R rlp :=
  total_iff (decodeWith_eq_abort.trans Snapshot.decode_eq_abort)
    (exists_decodeWith.trans Snapshot.exists_decode)

lemma IstanbulExtra.total_fromRlp :
    Total (IstanbulExtra.fromRlp R rlp)
        (IstanbulExtra.SomeMisfit R (rlp.drop ISTANBUL_EXTRA_VANITY_LENGTH)) ↔
      ¬ IstanbulExtra.Defective R rlp := by
  unfold IstanbulExtra.fromRlp IstanbulExtra.Defective
  by_cases h : rlp.length < ISTANBUL_EXTRA_VANITY_LENGTH
  · -- The vanity is missing, which is the one thing that is checked before the reader slices.
    rw [if_pos h, not_and_or]
    exact iff_of_true ⟨fail_ne_abort _, fun _ => ⟨_, rfl⟩⟩ (.inl (Nat.not_le.mpr h))
  · have hle := Nat.not_lt.mp h
    rw [if_neg h, sliceFrom_of_le hle, ok_bind, and_iff_right hle]
    exact total_iff (decodeWith_eq_abort.trans IstanbulExtra.decode_eq_abort)
      (exists_decodeWith.trans IstanbulExtra.exists_decode)

lemma Layout.allExact_iff {fields : Layout} :
    fields.AllExact R rlp ↔ fields.AllEnough R rlp ∧ ¬ fields.SomeMisfit R rlp := by
  simp only [Layout.AllExact, Layout.AllEnough, Layout.SomeMisfit, exact_iff, not_exists, not_and]
  exact forall₂_and

lemma validatorsDefective_iff :
    ValidatorsDefective R rlp ↔ ¬ ValidatorsEnough R rlp ∨ ValidatorsMisfit R rlp := by
  simp only [ValidatorsDefective, ValidatorsEnough, ValidatorsMisfit, Layout.allExact_iff,
    not_and_or, not_not, not_forall, and_or_left, exists_or, exists_prop]

lemma validatorsFromRlp_eq_abort :
    validatorsFromRlp R rlp = abort ↔ ¬ ValidatorsEnough R rlp := by
  rw [validatorsFromRlp, decodeList, expect_eq_abort, exists_mapM_decode]

lemma total_validatorsFromRlp :
    Total (validatorsFromRlp R rlp) (ValidatorsMisfit R rlp) ↔ ¬ ValidatorsDefective R rlp := by
  have hok : (∃ l, validatorsFromRlp R rlp = .ok l) ↔ ValidatorsEnough R rlp := by
    simp only [validatorsFromRlp, decodeList, expect_eq_ok, exists_mapM_decode]
  rw [total_iff validatorsFromRlp_eq_abort hok, validatorsDefective_iff]
  tauto

/-- **A reader returns from an input, with an error if a fixed-size field has not its length,
exactly if** no such field that is too short is reached, and none that is too long is cut. -/
theorem fromRlp_total_iff (R : Codec) (bytes : Bytes) :
    (Total (Header.fromRlp R bytes) (Header.layout.SomeMisfit R bytes) ↔
        ¬ Header.Defective R bytes) ∧
      (Total (IstanbulExtra.fromRlp R bytes)
          (IstanbulExtra.SomeMisfit R (bytes.drop ISTANBUL_EXTRA_VANITY_LENGTH)) ↔
        ¬ IstanbulExtra.Defective R bytes) ∧
      (Total (Snapshot.fromRlp R bytes) (Snapshot.SomeMisfit R bytes) ↔
        ¬ Snapshot.Defective R bytes) ∧
      (Total (validatorsFromRlp R bytes) (ValidatorsMisfit R bytes) ↔
        ¬ ValidatorsDefective R bytes) :=
  ⟨Header.total_fromRlp, IstanbulExtra.total_fromRlp, Snapshot.total_fromRlp,
    total_validatorsFromRlp⟩

/-! ### A coinbase of the wrong length -/

/-- An empty header, with a coinbase of `n` bytes. -/
def headerBytes (n : ℕ) : Bytes :=
  reference.encode (.list [
    .data (zeroBytes HASH_LENGTH).1,
    .data (List.replicate n 0),
    .data (zeroBytes HASH_LENGTH).1,
    .data (zeroBytes HASH_LENGTH).1,
    .data (zeroBytes HASH_LENGTH).1,
    .data (zeroBytes BLOOM_BYTE_LENGTH).1,
    .data [], .data [], .data [], .data []])

/-- One byte less aborts the reader, and one byte more is cut. -/
theorem coinbase_not_total :
    ¬ Total (Header.fromRlp reference (headerBytes 19))
        (Header.layout.SomeMisfit reference (headerBytes 19)) ∧
      ¬ Total (Header.fromRlp reference (headerBytes 21))
        (Header.layout.SomeMisfit reference (headerBytes 21)) := by
  simp only [Header.total_fromRlp, not_not]
  unfold Header.Defective Header.Readable Layout.Aborts Layout.SomeMisfit Layout.AllEnough
  constructor <;> decide +kernel

end CeloLightClient

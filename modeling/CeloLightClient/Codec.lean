import CeloLightClient.Types

/-!
Reading and writing the data of the light client as RLP.

A reader takes the view of an item, and reads the fields of a list by index. The fixed-size
fields slice their data before they check its length, so a field that is too short aborts the
reader.
-/

namespace CeloLightClient

open Lib Lib.Rlp Lib.Outcome

/-- `slice_as_array_ref!`. -/
def sliceAsArrayRef (n : ℕ) (slice : Bytes) : Outcome Error (FixedBytes n) :=
  if h : slice.length = n then .ok ⟨slice, h⟩
  else fail (Kind.InvalidDataLength slice.length n).into

/-- `FromBytes::from_bytes` of the arrays of `n` bytes. -/
def fromBytes (n : ℕ) (data : Bytes) : Outcome Error (FixedBytes n) := do
  let slice ← sliceTo data n
  sliceAsArrayRef n slice

variable (R : Codec)

/-- `rlp.val_at` of a byte string. -/
def dataAt (rlp : Bytes) (index : ℕ) : Outcome DecoderError Bytes := do
  let item ← ofExcept (R.atIndex rlp index)
  ofExcept (R.value item)

/-- `rlp.val_at` of a `u64`. -/
def u64At (rlp : Bytes) (index : ℕ) : Outcome DecoderError UInt64 := do
  let data ← dataAt R rlp index
  ofExcept (R.u64OfData data)

def invalidLength : Error → DecoderError := fun _ => .Custom "invalid length data"

def rlpListFieldFromBytes (n : ℕ) (rlp : Bytes) (index : ℕ) :
    Outcome DecoderError (FixedBytes n) := do
  let data ← dataAt R rlp index
  mapErr invalidLength (fromBytes n data)

def rlpFieldFromBytes (n : ℕ) (rlp : Bytes) : Outcome DecoderError (FixedBytes n) := do
  let data ← ofExcept (R.value rlp)
  mapErr invalidLength (fromBytes n data)

def rlpToBigInt (rlp : Bytes) (index : ℕ) : Outcome DecoderError ℤ := do
  let data ← dataAt R rlp index
  pure (ofBytesBE data : ℤ)

/-- Zero is written as no bytes at all. -/
def bigIntToRlpCompatBytes (val : ℤ) : Bytes :=
  if val = 0 then [] else toBytesBE val.natAbs

/-- `rlp::decode` of a type with the reader `decode`. -/
def decodeWith {α : Type} (decode : Bytes → Outcome DecoderError α) (bytes : Bytes) :
    Outcome Error α :=
  mapErr (fun e => Kind.RlpDecodeError.context (.decoder e)) (decode bytes)

/-! ### Seals -/

def IstanbulAggregatedSeal.item (s : IstanbulAggregatedSeal) : Item :=
  .list [
    .data (bigIntToRlpCompatBytes s.bitmap),
    .data s.signature,
    .data (bigIntToRlpCompatBytes s.round)]

def IstanbulAggregatedSeal.decode (rlp : Bytes) : Outcome DecoderError IstanbulAggregatedSeal := do
  let bitmap ← rlpToBigInt R rlp 0
  let signature ← dataAt R rlp 1
  let round ← rlpToBigInt R rlp 2
  pure { bitmap, signature, round }

/-- `rlp.val_at` of a seal. -/
def sealAt (rlp : Bytes) (index : ℕ) : Outcome DecoderError IstanbulAggregatedSeal := do
  let item ← ofExcept (R.atIndex rlp index)
  IstanbulAggregatedSeal.decode R item

/-! ### The extra field -/

def IstanbulExtra.item (e : IstanbulExtra) : Item :=
  .list [
    .list (e.addedValidators.map fun a => .data a.1),
    .list (e.addedValidatorsPublicKeys.map fun k => .data k.1),
    .data (bigIntToRlpCompatBytes e.removedValidators),
    .data e.proposerSeal,
    e.aggregatedSeal.item,
    e.parentAggregatedSeal.item]

/-- `.iter().map(rlp_field_from_bytes).collect()`, the result kept for later. -/
def collectFields (n : ℕ) (rlp : Bytes) :
    Outcome DecoderError (Except DecoderError (List (FixedBytes n))) :=
  attempt ((R.iter rlp).mapM (rlpFieldFromBytes R n))

def IstanbulExtra.decode (rlp : Bytes) : Outcome DecoderError IstanbulExtra := do
  let validators ← ofExcept (R.atIndex rlp 0)
  let addedValidators ← collectFields R ADDRESS_LENGTH validators
  let keys ← ofExcept (R.atIndex rlp 1)
  let addedValidatorsPublicKeys ← collectFields R PUBLIC_KEY_LENGTH keys
  let addedValidators ← ofExcept addedValidators
  let addedValidatorsPublicKeys ← ofExcept addedValidatorsPublicKeys
  let removedValidators ← rlpToBigInt R rlp 2
  let proposerSeal ← dataAt R rlp 3
  let aggregatedSeal ← sealAt R rlp 4
  let parentAggregatedSeal ← sealAt R rlp 5
  pure {
    addedValidators, addedValidatorsPublicKeys, removedValidators, proposerSeal, aggregatedSeal,
    parentAggregatedSeal }

/-- The extra field starts with the vanity, which is skipped. -/
def IstanbulExtra.fromRlp (bytes : Bytes) : Outcome Error IstanbulExtra := do
  if bytes.length < ISTANBUL_EXTRA_VANITY_LENGTH then
    fail (Kind.RlpDecodeError.context (.decoder (.Custom "invalid istanbul header extra-data")))
  else
    let payload ← sliceFrom bytes ISTANBUL_EXTRA_VANITY_LENGTH
    decodeWith (IstanbulExtra.decode R) payload

def IstanbulExtra.toRlp (e : IstanbulExtra) (vanity : IstanbulExtraVanity) : Bytes :=
  vanity.1 ++ R.encode e.item

variable {R} in
lemma IstanbulExtra.length_le_of_fromRlp {bytes : Bytes} {x : Outcome Error IstanbulExtra}
    (h : IstanbulExtra.fromRlp R bytes = x) (hx : ∀ e, x ≠ fail e) :
    ISTANBUL_EXTRA_VANITY_LENGTH ≤ bytes.length := by
  by_contra hlt
  exact hx _ (h.symm.trans (if_pos (Nat.not_le.mp hlt)))

/-! ### Headers -/

def Header.item (h : Header) : Item :=
  .list [
    .data h.parentHash.1,
    .data h.coinbase.1,
    .data h.root.1,
    .data h.txHash.1,
    .data h.receiptHash.1,
    .data h.bloom.1,
    .data (bigIntToRlpCompatBytes h.number),
    .data (R.u64Data h.gasUsed),
    .data (R.u64Data h.time),
    .data h.extra]

def Header.decode (rlp : Bytes) : Outcome DecoderError Header := do
  let parentHash ← rlpListFieldFromBytes R HASH_LENGTH rlp 0
  let coinbase ← rlpListFieldFromBytes R ADDRESS_LENGTH rlp 1
  let root ← rlpListFieldFromBytes R HASH_LENGTH rlp 2
  let txHash ← rlpListFieldFromBytes R HASH_LENGTH rlp 3
  let receiptHash ← rlpListFieldFromBytes R HASH_LENGTH rlp 4
  let bloom ← rlpListFieldFromBytes R BLOOM_BYTE_LENGTH rlp 5
  let number ← rlpToBigInt R rlp 6
  let gasUsed ← u64At R rlp 7
  let time ← u64At R rlp 8
  let extra ← dataAt R rlp 9
  pure {
    parentHash, coinbase, root, txHash, receiptHash, bloom, number, gasUsed, time, extra }

def Header.fromRlp (bytes : Bytes) : Outcome Error Header := decodeWith (Header.decode R) bytes

def Header.toRlp (h : Header) : Bytes := R.encode (h.item R)

/-! ### Snapshots -/

def Validator.item (v : Validator) : Item := .list [.data v.address.1, .data v.publicKey.1]

def Validator.decode (rlp : Bytes) : Outcome DecoderError Validator := do
  let address ← ofExcept (R.atIndex rlp 0)
  let address ← rlpFieldFromBytes R ADDRESS_LENGTH address
  let publicKey ← ofExcept (R.atIndex rlp 1)
  let publicKey ← rlpFieldFromBytes R PUBLIC_KEY_LENGTH publicKey
  pure { address, publicKey }

/-- `rlp::encode_list` of the validators. -/
def validatorsToRlp (validators : List Validator) : Bytes :=
  R.encode (.list (validators.map Validator.item))

/-- `rlp::decode_list` of a type with the reader `decode`. It expects what it reads to be trusted,
so an item that is refused aborts it; bytes that are no list have no items. -/
def decodeList {α : Type} (decode : Bytes → Outcome DecoderError α) (bytes : Bytes) :
    Outcome Error (List α) :=
  expect ((R.iter bytes).mapM decode)

def validatorsFromRlp (bytes : Bytes) : Outcome Error (List Validator) :=
  decodeList R (Validator.decode R) bytes

def Snapshot.item (s : Snapshot) : Item :=
  .list [
    .data (R.u64Data s.number),
    .data (R.u64Data s.timestamp),
    .list (s.validators.map Validator.item),
    .data s.hash.1,
    s.aggregatedSeal.item]

def Snapshot.decode (rlp : Bytes) : Outcome DecoderError Snapshot := do
  let list ← ofExcept (R.atIndex rlp 2)
  let validators ← attempt ((R.iter list).mapM (Validator.decode R))
  let validators ← ofExcept validators
  let number ← u64At R rlp 0
  let timestamp ← u64At R rlp 1
  let hash ← rlpListFieldFromBytes R HASH_LENGTH rlp 3
  let aggregatedSeal ← sealAt R rlp 4
  pure { number, timestamp, validators, hash, aggregatedSeal }

def Snapshot.fromRlp (bytes : Bytes) : Outcome Error Snapshot :=
  decodeWith (Snapshot.decode R) bytes

def Snapshot.toRlp (s : Snapshot) : Bytes := R.encode (s.item R)

end CeloLightClient

import CeloLightClient.Contract.Query
import CeloLightClient.Lib.JsonReader
import CeloLightClient.Reference

/-!
A host to run the contract on: base64 and protocol buffers as they are, paths as they are
written on the host chain, and Merkle proofs with Keccak as their hash function.
-/

namespace CeloLightClient.Contract.Reference

open Lib Lib.Outcome

/-! ### Merkle proofs -/

/-- A key and a value at a leaf, and what stands left and right of each node's hash on the way to
the root. -/
structure ExistenceProof where
  key : Bytes
  value : Bytes
  leaf : Bytes
  path : List (Bytes × Bytes)
  deriving DecidableEq

/-- A proof of the nonexistence of a key goes by its neighbours. -/
inductive CommitmentProof
  | Exist (ex : ExistenceProof)
  | Nonexist (key : Bytes) (left right : Option ExistenceProof)
  deriving DecidableEq

def ExistenceProof.root (ex : ExistenceProof) : Bytes :=
  ex.path.foldl (fun child op => (Keccak.keccak256 (op.1 ++ child ++ op.2)).1)
    (Keccak.keccak256 (ex.leaf ++ ex.key ++ ex.value)).1

/-- The existence proof of the key and the value under the root. -/
def ExistenceProof.proves (ex : ExistenceProof) (root key value : Bytes) : Bool :=
  ex.key == key && ex.value == value && ex.root == root

def ics23 : Ics23 where
  ProofSpec := String
  ExistenceProof := ExistenceProof
  CommitmentProof := CommitmentProof
  exist
    | .Exist ex => some ex
    | .Nonexist .. => none
  iavlSpec := "iavl"
  tendermintSpec := "tendermint"
  calculateExistenceRoot ex := .ok ex.root
  verifyMembership proof _ root key value :=
    match proof with
    | .Exist ex => ex.proves root key value
    | .Nonexist .. => false
  verifyNonMembership proof _ root key :=
    match proof with
    | .Exist _ => false
    | .Nonexist key' left right =>
      key' == key && (left.isSome || right.isSome) &&
        left.all (fun ex => ex.root == root && ex.key < key) &&
        right.all (fun ex => ex.root == root && key < ex.key)

def ExistenceProof.json (ex : ExistenceProof) : Json :=
  .obj [("key", .bytes ex.key), ("value", .bytes ex.value), ("leaf", .bytes ex.leaf),
    ("path", .arr (ex.path.map fun op =>
      .obj [("prefix", .bytes op.1), ("suffix", .bytes op.2)]))]

def CommitmentProof.json : CommitmentProof → Json
  | .Exist ex => .obj [("proof", .obj [("Exist", ex.json)])]
  | .Nonexist key left right => .obj [("proof", .obj [("Nonexist", .obj [("key", .bytes key),
      ("left", .option ExistenceProof.json left),
      ("right", .option ExistenceProof.json right)])])]

def proofJson (proof : MerkleProof ics23) : Json :=
  .obj [("proofs", .arr (proof.proofs.map CommitmentProof.json))]

/-! ### Paths -/

def channelString (portId channelId : String) : String := s!"ports/{portId}/channels/{channelId}"

def pathToString : Path → String
  | .ClientState id => s!"clients/{id}/clientState"
  | .ClientConsensusState id epoch height => s!"clients/{id}/consensusStates/{epoch}-{height}"
  | .Connections id => s!"connections/{id}"
  | .ChannelEnds port channel => "channelEnds/" ++ channelString port channel
  | .SeqRecvs port channel => "nextSequenceRecv/" ++ channelString port channel
  | .Commitments port channel n =>
    "commitments/" ++ channelString port channel ++ s!"/sequences/{n}"
  | .Acks port channel n => "acks/" ++ channelString port channel ++ s!"/sequences/{n}"
  | .Receipts port channel n => "receipts/" ++ channelString port channel ++ s!"/sequences/{n}"
  | .Upgrade (.UpgradedClientState n) => s!"upgradedIBCState/{n}/upgradedClient"
  | .Upgrade (.UpgradedClientConsensusState n) => s!"upgradedIBCState/{n}/upgradedConsState"

def ibc : Ibc where
  clientId := .ok
  connectionId := .ok
  portId := .ok
  channelId := .ok
  pathToString := pathToString

/-! ### Reading numbers -/

/-- The digits at the front of `b` as a number, and the rest. -/
def readDigits : ℕ → Bytes → ℕ × Bytes
  | n, [] => (n, [])
  | n, x :: b =>
    if 0x30 ≤ x ∧ x ≤ 0x39 then readDigits (10 * n + (x.toNat - 0x30)) b else (n, x :: b)

/-- A number of 64 bits at the front of `b`, and the rest. -/
def readU64 (b : Bytes) : Except StdError (UInt64 × Bytes) :=
  let (n, rest) := readDigits 0 b
  if rest.length < b.length ∧ n < 2 ^ 64 then .ok (UInt64.ofNat n, rest)
  else .error (.ParseErr "u64" "Invalid number.")

/-- What follows `text` at the front of `b`. -/
def expect (text : String) (b : Bytes) : Except StdError Bytes :=
  if (utf8 text).isPrefixOf b then .ok (b.drop (utf8 text).length)
  else .error (.ParseErr "Height" "Invalid type.")

def fromSliceU64 (b : Bytes) : Except StdError UInt64 := do
  let (n, rest) ← readU64 b
  if rest = [] then .ok n else .error (.ParseErr "u64" "Trailing characters.")

def fromSliceHeight (b : Bytes) : Except StdError Height := do
  let b ← expect "\x7b\x22revision_number\x22:" b
  let (revisionNumber, b) ← readU64 b
  let b ← expect ",\x22revision_height\x22:" b
  let (revisionHeight, b) ← readU64 b
  if b = utf8 "\x7d" then .ok { revisionNumber, revisionHeight }
  else .error (.ParseErr "Height" "Trailing characters.")

lemma readDigits_append {l : List Char} (h : ∀ c ∈ l, c.isDigit = true) {rest : Bytes}
    (hrest : ∀ x ∈ rest.head?, ¬ (0x30 ≤ x ∧ x ≤ 0x39)) (n : ℕ) :
    readDigits n (l.flatMap String.utf8EncodeChar ++ rest) = (Nat.ofDigitChars 10 l n, rest) := by
  induction l generalizing n with
  | nil =>
    cases rest with
    | nil => rfl
    | cons x rest =>
      rw [List.flatMap_nil, List.nil_append, readDigits, if_neg (hrest x rfl)]
      rfl
  | cons c l ih =>
    obtain ⟨hc, hlow, hhigh, hbyte⟩ := utf8EncodeChar_digit (h c List.mem_cons_self)
    rw [List.flatMap_cons, hc, List.cons_append, List.nil_append, List.cons_append, readDigits,
      if_pos ⟨hlow, hhigh⟩, hbyte, ih fun d hd => h d (List.mem_cons_of_mem _ hd),
      Nat.ofDigitChars_cons]
    rfl

lemma readU64_repr (n : UInt64) {rest : Bytes}
    (hrest : ∀ x ∈ rest.head?, ¬ (0x30 ≤ x ∧ x ≤ 0x39)) :
    readU64 (utf8 n.toNat.repr ++ rest) = .ok (n, rest) := by
  have hdigits : ∀ c ∈ Nat.toDigits 10 n.toNat, c.isDigit = true := fun c hc =>
    Nat.isDigit_of_mem_toDigits (by omega) le_rfl hc
  have hread : readDigits 0 (utf8 n.toNat.repr ++ rest) = (n.toNat, rest) := by
    rw [utf8_eq_flatMap, Nat.toList_repr, readDigits_append hdigits hrest,
      Nat.ofDigitChars_ten_toDigits]
  have hpos : 0 < (utf8 n.toNat.repr).length := by
    obtain ⟨c, text, hc, -⟩ := repr_eq_cons n.toNat
    rw [utf8_eq_flatMap, hc, List.flatMap_cons, List.length_append, String.length_utf8EncodeChar]
    exact Nat.add_pos_left c.utf8Size_pos _
  have hlt := n.toNat_lt
  rw [readU64, hread]
  simp only [List.length_append]
  rw [if_pos ⟨by omega, hlt⟩, UInt64.ofNat_toNat]

lemma render_num (n : ℕ) : String.ofList (Json.num n).render = n.repr := by
  apply String.toList_injective
  simp [Json.render, toString, Int.repr]

lemma render_height (height : Height) : String.ofList height.json.render =
    "\x7b\x22revision_number\x22:" ++ (height.revisionNumber.toNat.repr ++
      (",\x22revision_height\x22:" ++ (height.revisionHeight.toNat.repr ++ "\x7d"))) := by
  apply String.toList_injective
  simp [Height.json, Json.render, Json.renderFields, Json.quote, Json.escape, toString, Int.repr]

lemma fromSliceU64_toVec (n : UInt64) : fromSliceU64 (Json.num n.toNat).toVec = .ok n := by
  have hread : readU64 (utf8 n.toNat.repr ++ []) = .ok (n, []) := readU64_repr n (by simp)
  rw [List.append_nil] at hread
  rw [Json.toVec, render_num, fromSliceU64, hread]
  rfl

lemma expect_append (text : String) (b : Bytes) : expect text (utf8 text ++ b) = .ok b := by
  simp [expect]

lemma fromSliceHeight_toVec (height : Height) :
    fromSliceHeight height.json.toVec = .ok height := by
  have hcomma (b : Bytes) : ∀ x ∈ (utf8 ",\x22revision_height\x22:" ++ b).head?,
      ¬ (0x30 ≤ x ∧ x ≤ 0x39) := by
    rw [utf8_eq_flatMap]
    rintro x ⟨⟩
    decide
  have hbrace : ∀ x ∈ (utf8 "\x7d").head?, ¬ (0x30 ≤ x ∧ x ≤ 0x39) := by
    rw [utf8_eq_flatMap]
    rintro x ⟨⟩
    decide
  rw [Json.toVec, render_height, utf8_append, utf8_append, utf8_append, utf8_append]
  simp only [fromSliceHeight, expect_append, readU64_repr _ (hcomma _), readU64_repr _ hbrace,
    bind, Except.bind]
  rfl

/-! ### Protocol buffers -/

/-- A number in groups of seven bits, the lowest first. -/
def readVarint : Bytes → Option (ℕ × Bytes)
  | [] => none
  | x :: b =>
    if x.toNat < 128 then some (x.toNat, b)
    else do
      let (n, b) ← readVarint b
      some (x.toNat - 128 + 128 * n, b)

/-- The fields at the front of `b`: each is a key, a length and that many bytes. -/
def readFields : ℕ → PartialConsensusState → Bytes → Option PartialConsensusState
  | _, state, [] => some state
  | 0, _, _ => none
  | fuel + 1, state, b => do
    let (key, b) ← readVarint b
    let (n, b) ← readVarint b
    if b.length < n then none
    else if key = 10 then readFields fuel { state with codeId := b.take n } (b.drop n)
    else if key = 18 then readFields fuel { state with data := b.take n } (b.drop n)
    else none

def decodePartialConsensusState (b : Bytes) : Option PartialConsensusState :=
  readFields b.length ⟨[], []⟩ b

def writeVarint : ℕ → ℕ → Bytes
  | 0, _ => []
  | fuel + 1, n =>
    if n < 128 then [UInt8.ofNat n] else UInt8.ofNat (n % 128 + 128) :: writeVarint fuel (n / 128)

/-- A field in the host chain's store. -/
def encodePartialConsensusState (s : PartialConsensusState) : Bytes :=
  10 :: writeVarint 10 s.codeId.length ++ s.codeId ++
    18 :: writeVarint 10 s.data.length ++ s.data

/-! ### Errors -/

/-- Only the text of the BLS library is shown. -/
def sourceToString : Option Source → String
  | some (.bls msg) => ": " ++ msg
  | _ => ""

def stdErrorToString : StdError → String
  | .GenericErr msg => "Generic error: " ++ msg
  | .ParseErr target msg => "Error parsing into type " ++ target ++ ": " ++ msg
  | .NotFound kind => kind ++ " not found"

/-- The host, where the Merkle proofs that are sent are among `proofs`. -/
def host (proofs : List (MerkleProof ics23)) : Host where
  toPlatform := CeloLightClient.Reference.platform
  base64 := Base64.reference
  ics23 := ics23
  ibc := ibc
  toVec := Json.toVec
  fromSliceU64 := fromSliceU64
  fromSliceHeight := fromSliceHeight
  fromSliceMerkleProof b :=
    match proofs.find? fun proof => (proofJson proof).toVec = b with
    | some proof => .ok proof
    | none => .error (.ParseErr "MerkleProof" "Invalid type.")
  decodePartialConsensusState := decodePartialConsensusState
  sourceToString := sourceToString
  stdErrorToString := stdErrorToString
  utf8ErrorToString _ := "invalid utf-8 sequence"

variable {proofs : List (MerkleProof ics23)}

lemma host_toVec : (host proofs).toVec = Json.toVec := rfl

lemma host_fromSliceU64 : (host proofs).fromSliceU64 = fromSliceU64 := rfl

lemma host_fromSliceHeight : (host proofs).fromSliceHeight = fromSliceHeight := rfl

@[simp] lemma fromBase64_encode (b : Bytes) (target : String) :
    fromBase64 (host proofs) (Base64.reference.encode b) target = .ok b := by
  rw [fromBase64, host, Base64.reference_lawful b]
  rfl

lemma fromBase64Rlp_encode {α : Type} {fromRlp : Bytes → Outcome Error α} {b : Bytes} {a : α}
    (h : fromRlp b = .ok a) (target : String) :
    fromBase64Rlp (host proofs) fromRlp (Base64.reference.encode b) target = .ok a :=
  fromBase64Rlp_of_lawful Base64.reference_lawful h target

lemma ExistenceProof.json_injective : Function.Injective ExistenceProof.json := by
  rintro ⟨key, value, leaf, path⟩ ⟨key', value', leaf', path'⟩ h
  simp only [ExistenceProof.json, Json.obj.injEq, List.cons.injEq, Prod.mk.injEq, true_and,
    and_true, Json.arr.injEq] at h
  obtain ⟨hkey, hvalue, hleaf, hpath⟩ := h
  have hop : Function.Injective fun op : Bytes × Bytes =>
      Json.obj [("prefix", .bytes op.1), ("suffix", .bytes op.2)] := by
    rintro ⟨l, r⟩ ⟨l', r'⟩ h
    simp only [Json.obj.injEq, List.cons.injEq, Prod.mk.injEq, true_and, and_true] at h
    exact Prod.ext (Json.bytes_injective h.1) (Json.bytes_injective h.2)
  rw [Json.bytes_injective hkey, Json.bytes_injective hvalue, Json.bytes_injective hleaf,
    List.map_injective_iff.mpr hop hpath]

lemma CommitmentProof.json_injective : Function.Injective CommitmentProof.json := by
  rintro (ex | ⟨key, left, right⟩) (ex' | ⟨key', left', right'⟩) h <;>
    simp only [CommitmentProof.json, Json.obj.injEq, List.cons.injEq, Prod.mk.injEq, true_and,
      and_true] at h
  · rw [ExistenceProof.json_injective h]
  · exact absurd h.1 (by decide)
  · exact absurd h.1 (by decide)
  · obtain ⟨hkey, hleft, hright⟩ := h
    have hoption := Json.option_injective ExistenceProof.json_injective fun _ => nofun
    rw [Json.bytes_injective hkey, hoption hleft, hoption hright]

lemma proofJson_injective : Function.Injective proofJson := by
  rintro ⟨l⟩ ⟨m⟩ h
  simp only [proofJson, Json.obj.injEq, List.cons.injEq, Prod.mk.injEq, true_and, and_true,
    Json.arr.injEq] at h
  rw [List.map_injective_iff.mpr CommitmentProof.json_injective h]

lemma fromBase64JsonSlice_encode {proof : MerkleProof ics23} (h : proof ∈ proofs)
    (target : String) :
    fromBase64JsonSlice (host proofs) (host proofs).fromSliceMerkleProof
      (Base64.reference.encode (proofJson proof).toVec) target = .ok proof := by
  have hfind : proofs.find? (fun q => (proofJson q).toVec = (proofJson proof).toVec) =
      some proof := by
    rcases hq : proofs.find? (fun q => (proofJson q).toVec = (proofJson proof).toVec) with _ | q
    · exact absurd (List.find?_eq_none.mp hq proof h) (by simp)
    · have hqp : (proofJson q).toVec = (proofJson proof).toVec := by
        simpa using List.find?_some hq
      rw [proofJson_injective (Json.toVec_injective hqp)]
  rw [fromBase64JsonSlice, fromBase64_encode, ok_bind]
  simp [host, hfind]

lemma verifyMembership_entry (entry : ExistenceProof) (path : List String) {name : String}
    {root : Bytes} (hkey : entry.key = utf8 name) (hroot : entry.root = root) :
    verifyMembership (host proofs) ⟨[.Exist entry]⟩ (specs (host proofs)) root
      ⟨path ++ [name]⟩ entry.value 0 = .ok true := by
  have hproves : entry.proves root (utf8 name) entry.value = true := by
    simp [ExistenceProof.proves, hkey, hroot]
  have hlen : 1 ≤ (path ++ [name]).length := by simp
  refine verifyMembership_eq_ok.mpr ⟨rfl, Nat.le_succ 1, hlen, ?_⟩
  rw [List.reverse_append]
  exact ⟨entry, root, rfl, congrArg _ hroot, hproves, rfl⟩

lemma encode_utf8_ne {s : String} (h : s ≠ "") : Base64.reference.encode (utf8 s) ≠ "" := by
  intro h0
  have hlaw := Base64.reference_lawful (utf8 s)
  rw [h0] at hlaw
  have hempty : Base64.reference.decode "" = .ok (utf8 "") := rfl
  exact h (utf8_injective (Except.ok.inj (hlaw.symm.trans hempty)))

lemma applyPrefix_encode {s : String} (h : s ≠ "") (path : List String) :
    applyPrefix (host proofs) ⟨Base64.reference.encode (utf8 s)⟩ path = .ok ⟨s :: path⟩ := by
  rw [applyPrefix, if_neg (encode_utf8_ne h), host, Base64.reference_lawful]
  simp [okOr]

/-! ### A client of the small chain -/

def lightClient : LightClientState where
  epochSize := 10
  allowedClockSkew := 5
  trustingPeriod := 1000
  upgradePath := []
  verifyEpochHeaders := true
  verifyNonEpochHeaders := true
  verifyHeaderTimestamp := true
  allowUpdateAfterMisbehavior := false
  allowUpdateAfterExpiry := false

lemma lightClient_unexpired : isExpired 100 100 lightClient = .ok false := by decide

def client (height : Height) : ClientState where
  data := Base64.reference.encode (lightClient.toRlp Rlp.reference)
  codeId := ""
  frozen := false
  frozenHeight := none
  latestHeight := some height

/-- Block 7, sealed by its validators. -/
def sealedStart : Snapshot :=
  { CeloLightClient.Reference.start with
    aggregatedSeal := CeloLightClient.Reference.sealOf
      CeloLightClient.Reference.start.validators CeloLightClient.Reference.start.hash }

def trusted : ConsensusState where
  codeId := ""
  data := Base64.reference.encode (sealedStart.toRlp Rlp.reference)
  timestamp := 100
  root := ⟨""⟩

/-- The sealed header of block `number`. -/
def nextHeader (number : ℤ) (root : Hash) : Header :=
  CeloLightClient.Reference.sealedHeader sealedStart.validators number 101 root
    (CeloLightClient.Reference.diff 0 [])

def header₈ : Header := nextHeader 8 (zeroBytes _)

def wasmHeader (height : Height) (header : Header) : WasmHeader where
  data := Base64.reference.encode (header.toRlp Rlp.reference)
  height := height

lemma lightClient_read (height : Height) (target : String) :
    fromBase64Rlp (host proofs) (LightClientState.fromRlp Rlp.reference) (client height).data
      target = .ok lightClient :=
  fromBase64Rlp_encode (by decide +kernel) target

lemma sealedStart_read :
    Snapshot.fromRlp Rlp.reference (sealedStart.toRlp Rlp.reference) = .ok sealedStart := by
  decide +kernel

lemma trusted_read (target : String) :
    fromBase64Rlp (host proofs) (Snapshot.fromRlp Rlp.reference) trusted.data target =
      .ok sealedStart :=
  fromBase64Rlp_encode sealedStart_read target

lemma wasmHeader_read {header : Header}
    (h : Header.fromRlp Rlp.reference (header.toRlp Rlp.reference) = .ok header) (height : Height)
    (target : String) :
    fromBase64Rlp (host proofs) (Header.fromRlp (host proofs).rlp) (wasmHeader height header).data
      target = .ok header :=
  fromBase64Rlp_encode h target

/-- Header 8 is read back, it is accepted after block 7, and it is sealed by the validators there.
One evaluation serves all three. -/
lemma header₈_accepted :
    Header.fromRlp Rlp.reference (header₈.toRlp Rlp.reference) = .ok header₈ ∧
      (Action.exec (State.insertHeader CeloLightClient.Reference.platform lightClient.config header₈
        100) sealedStart).1 = .ok () ∧
      State.verifyHeaderSeal CeloLightClient.Reference.platform sealedStart header₈ = .ok () := by
  decide +kernel

end CeloLightClient.Contract.Reference

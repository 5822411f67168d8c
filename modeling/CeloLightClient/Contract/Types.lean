import CeloLightClient.State
import CeloLightClient.Lib.Base64
import CeloLightClient.Lib.Json

/-!
The data of the contract: heights, client and consensus states as the host chain sees them,
messages, and what the contract returns.

What the host chain and other libraries do for the contract (base64, JSON, Merkle proofs,
identifiers, protocol buffers) is a `Host`. Serialized types say which JSON value they are.
-/

namespace CeloLightClient.Contract

open Lib Lib.Outcome

inductive StdError
  | GenericErr (msg : String)
  | ParseErr (target msg : String)
  | NotFound (kind : String)
  deriving DecidableEq, Repr

/-! ### Commitments -/

/-- A block number, within a revision of the chain. -/
structure Height where
  revisionNumber : UInt64
  revisionHeight : UInt64
  deriving DecidableEq, Repr

/-- Heights are compared by revision first. -/
def Height.cmp (a b : Height) : Ordering :=
  if a.revisionNumber < b.revisionNumber then .lt
  else if b.revisionNumber < a.revisionNumber then .gt
  else if a.revisionHeight < b.revisionHeight then .lt
  else if b.revisionHeight < a.revisionHeight then .gt
  else .eq

instance : LT Height := ⟨fun a b => a.cmp b = .lt⟩
instance : LE Height := ⟨fun a b => a.cmp b ≠ .gt⟩
instance (a b : Height) : Decidable (a < b) := inferInstanceAs (Decidable (_ = _))
instance (a b : Height) : Decidable (a ≤ b) := inferInstanceAs (Decidable (_ ≠ _))

lemma Height.lt_iff {a b : Height} : a < b ↔ a.revisionNumber < b.revisionNumber ∨
    a.revisionNumber = b.revisionNumber ∧ a.revisionHeight < b.revisionHeight := by
  change a.cmp b = .lt ↔ _
  unfold Height.cmp
  split_ifs <;> simp only [UInt64.lt_iff_toNat_lt, ← UInt64.toNat_inj] at * <;> simp <;> omega

lemma Height.le_iff {a b : Height} : a ≤ b ↔ a.revisionNumber < b.revisionNumber ∨
    a.revisionNumber = b.revisionNumber ∧ a.revisionHeight ≤ b.revisionHeight := by
  change a.cmp b ≠ .gt ↔ _
  unfold Height.cmp
  split_ifs <;> simp only [UInt64.lt_iff_toNat_lt, UInt64.le_iff_toNat_le, ← UInt64.toNat_inj] at *
    <;> simp <;> omega

instance : Preorder Height where
  le := (· ≤ ·)
  lt := (· < ·)
  le_refl a := Height.le_iff.mpr (.inr ⟨rfl, UInt64.le_refl _⟩)
  le_trans a b c h h' := by
    simp only [Height.le_iff, UInt64.lt_iff_toNat_lt, UInt64.le_iff_toNat_le,
      ← UInt64.toNat_inj] at h h' ⊢
    omega
  lt_iff_le_not_ge a b := by
    simp only [Height.lt_iff, Height.le_iff, UInt64.lt_iff_toNat_lt, UInt64.le_iff_toNat_le,
      ← UInt64.toNat_inj]
    omega

/-- `{}`. -/
def Height.display (h : Height) : String :=
  s!"revision: {h.revisionNumber}, height: {h.revisionHeight}"

/-- `{:?}`. -/
def Height.debug (h : Height) : String :=
  "Height \x7b revision_number: " ++ toString h.revisionNumber ++ ", revision_height: " ++
    toString h.revisionHeight ++ " \x7d"

def Height.json (h : Height) : Json :=
  .obj [("revision_number", .num h.revisionNumber.toNat),
    ("revision_height", .num h.revisionHeight.toNat)]

lemma Height.json_injective : Function.Injective Height.json := by
  rintro ⟨number, height⟩ ⟨number', height'⟩ h
  simpa [Height.json, UInt64.toNat_inj] using h

structure MerklePrefix where
  keyPrefix : String
  deriving DecidableEq

def MerklePrefix.json (p : MerklePrefix) : Json := .obj [("key_prefix", .str p.keyPrefix)]

structure MerkleRoot where
  hash : String
  deriving DecidableEq

def MerkleRoot.json (r : MerkleRoot) : Json := .obj [("hash", .str r.hash)]

structure MerklePath where
  keyPath : List String
  deriving DecidableEq

/-! ### The counterparty -/

structure Counterparty where
  clientId : String
  connectionId : String
  pre : MerklePrefix
  deriving DecidableEq

def Counterparty.json (c : Counterparty) : Json :=
  .obj [("client_id", .str c.clientId), ("connection_id", .str c.connectionId),
    ("prefix", c.pre.json)]

structure Version where
  identifier : String
  features : List String
  deriving DecidableEq

def Version.json (v : Version) : Json :=
  .obj [("identifier", .str v.identifier), ("features", .strings v.features)]

structure ConnectionEnd where
  clientId : String
  versions : List Version
  state : Int32
  counterparty : Counterparty
  delayPeriod : UInt64
  deriving DecidableEq

def ConnectionEnd.json (c : ConnectionEnd) : Json :=
  .obj [("client_id", .str c.clientId), ("versions", .arr (c.versions.map Version.json)),
    ("state", .num c.state.toInt), ("counterparty", c.counterparty.json),
    ("delay_period", .num c.delayPeriod.toNat)]

structure Channel where
  state : Int32
  ordering : Int32
  counterparty : Counterparty
  connectionHops : List String
  version : String
  deriving DecidableEq

def Channel.json (c : Channel) : Json :=
  .obj [("state", .num c.state.toInt), ("ordering", .num c.ordering.toInt),
    ("counterparty", c.counterparty.json), ("connection_hops", .strings c.connectionHops),
    ("version", .str c.version)]

structure CosmosConsensusState where
  root : MerkleRoot
  deriving DecidableEq

def CosmosConsensusState.json (c : CosmosConsensusState) : Json := .obj [("root", c.root.json)]

structure CosmosClientState where
  latestHeight : Height
  deriving DecidableEq

def CosmosClientState.json (c : CosmosClientState) : Json :=
  .obj [("latest_height", c.latestHeight.json)]

/-! ### The client -/

structure ConsensusState where
  codeId : String
  data : String
  timestamp : UInt64
  root : MerkleRoot
  deriving DecidableEq

def ConsensusState.json (c : ConsensusState) : Json :=
  .obj [("code_id", .str c.codeId), ("data", .str c.data), ("timestamp", .num c.timestamp.toNat),
    ("root", c.root.json)]

lemma ConsensusState.json_injective : Function.Injective ConsensusState.json := by
  rintro ⟨codeId, data, timestamp, ⟨root⟩⟩ ⟨codeId', data', timestamp', ⟨root'⟩⟩ h
  simpa [ConsensusState.json, MerkleRoot.json, UInt64.toNat_inj] using h

structure PartialConsensusState where
  codeId : Bytes
  data : Bytes
  deriving DecidableEq

structure ClientState where
  data : String
  codeId : String
  frozen : Bool
  frozenHeight : Option Height
  latestHeight : Option Height
  deriving DecidableEq

def ClientState.json (c : ClientState) : Json :=
  .obj [("data", .str c.data), ("code_id", .str c.codeId), ("frozen", .bool c.frozen),
    ("frozen_height", .option Height.json c.frozenHeight),
    ("latest_height", .option Height.json c.latestHeight)]

lemma ClientState.json_injective : Function.Injective ClientState.json := by
  have hheight := Json.option_injective Height.json_injective fun _ => nofun
  rintro ⟨data, codeId, frozen, frozenHeight, latestHeight⟩
    ⟨data', codeId', frozen', frozenHeight', latestHeight'⟩ h
  simpa [ClientState.json, hheight.eq_iff] using h

structure WasmHeader where
  data : String
  height : Height
  deriving DecidableEq

structure Misbehaviour where
  codeId : String
  clientId : String
  header₁ : WasmHeader
  header₂ : WasmHeader
  deriving DecidableEq

inductive Status
  | Active
  | Frozen
  | Exipred
  | Unknown
  deriving DecidableEq

def Status.json : Status → Json
  | .Active => .str "Active"
  | .Frozen => .str "Frozen"
  | .Exipred => .str "Exipred"
  | .Unknown => .str "Unknown"

abbrev LightConsensusState := Snapshot

/-- What the state machine is configured with, and what the client allows to be done to it. -/
structure LightClientState where
  epochSize : UInt64
  allowedClockSkew : UInt64
  trustingPeriod : UInt64
  upgradePath : List String
  verifyEpochHeaders : Bool
  verifyNonEpochHeaders : Bool
  verifyHeaderTimestamp : Bool
  allowUpdateAfterMisbehavior : Bool
  allowUpdateAfterExpiry : Bool
  deriving DecidableEq

/-- `impl StateConfig for LightClientState`. -/
def LightClientState.config (l : LightClientState) : StateConfig where
  epochSize := l.epochSize
  allowedClockSkew := l.allowedClockSkew
  verifyEpochHeaders := l.verifyEpochHeaders
  verifyNonEpochHeaders := l.verifyNonEpochHeaders
  verifyHeaderTimestamp := l.verifyHeaderTimestamp

/-! ### Other libraries -/

/-- Merkle proofs of another chain. -/
structure Ics23 where
  ProofSpec : Type
  ExistenceProof : Type
  CommitmentProof : Type
  /-- The proof in it, if it is `Some(Proof::Exist(ex))`. -/
  exist : CommitmentProof → Option ExistenceProof
  iavlSpec : ProofSpec
  tendermintSpec : ProofSpec
  calculateExistenceRoot : ExistenceProof → Except String Bytes
  /-- The proof, its spec, the root, the key and the value. -/
  verifyMembership : CommitmentProof → ProofSpec → Bytes → Bytes → Bytes → Bool
  /-- The proof, its spec, the root and the key. -/
  verifyNonMembership : CommitmentProof → ProofSpec → Bytes → Bytes → Bool

/-- `ClientUpgradePath`. -/
inductive ClientUpgradePath
  | UpgradedClientState (revisionNumber : UInt64)
  | UpgradedClientConsensusState (revisionNumber : UInt64)

/-- Where the host chain keeps things, by identifiers that have been parsed. -/
inductive Path
  | ClientState (clientId : String)
  | ClientConsensusState (clientId : String) (epoch height : UInt64)
  | Connections (connectionId : String)
  | ChannelEnds (portId channelId : String)
  | SeqRecvs (portId channelId : String)
  | Commitments (portId channelId : String) (sequence : UInt64)
  | Acks (portId channelId : String) (sequence : UInt64)
  | Receipts (portId channelId : String) (sequence : UInt64)
  | Upgrade (path : ClientUpgradePath)

/-- Identifiers and paths. An error is the text it is displayed as. -/
structure Ibc where
  clientId : String → Except String String
  connectionId : String → Except String String
  portId : String → Except String String
  channelId : String → Except String String
  pathToString : Path → String

structure MerkleProof (I : Ics23) where
  proofs : List I.CommitmentProof

/-- The libraries the contract is built on. -/
structure Host extends Platform where
  base64 : Base64.Codec
  ics23 : Ics23
  ibc : Ibc
  toVec : Json → Bytes
  fromSliceU64 : Bytes → Except StdError UInt64
  fromSliceHeight : Bytes → Except StdError Height
  fromSliceMerkleProof : Bytes → Except StdError (MerkleProof ics23)
  /-- `PartialConsensusState::decode`. -/
  decodePartialConsensusState : Bytes → Option PartialConsensusState
  /-- What is displayed of an error's source, after the text of its kind. -/
  sourceToString : Option Source → String
  /-- The texts that errors are displayed as; that of `from_utf8` depends on its input. -/
  stdErrorToString : StdError → String
  utf8ErrorToString : Bytes → String

/-- `{}` of an error of the light client. -/
def Host.errorToString (H : Host) (e : Error) : String :=
  e.kind.display ++ H.sourceToString e.source

/-! ### The configuration as RLP -/

section

variable (R : Rlp.Codec)

def LightClientState.item (l : LightClientState) : Rlp.Item :=
  .list [
    .data (R.u64Data l.epochSize),
    .data (R.u64Data l.allowedClockSkew),
    .data (R.u64Data l.trustingPeriod),
    .list (l.upgradePath.map fun s => .data (R.stringData s)),
    .data (R.boolData l.verifyEpochHeaders),
    .data (R.boolData l.verifyNonEpochHeaders),
    .data (R.boolData l.verifyHeaderTimestamp),
    .data (R.boolData l.allowUpdateAfterMisbehavior),
    .data (R.boolData l.allowUpdateAfterExpiry)]

/-- `rlp.val_at` of a `bool`. -/
def boolAt (rlp : Bytes) (index : ℕ) : Outcome Rlp.DecoderError Bool := do
  let data ← dataAt R rlp index
  ofExcept (R.boolOfData data)

/-- `rlp.as_val` of a `String`. -/
def asString (rlp : Bytes) : Outcome Rlp.DecoderError String := do
  let data ← ofExcept (R.value rlp)
  ofExcept (R.stringOfData data)

def LightClientState.decode (rlp : Bytes) : Outcome Rlp.DecoderError LightClientState := do
  let epochSize ← u64At R rlp 0
  let allowedClockSkew ← u64At R rlp 1
  let trustingPeriod ← u64At R rlp 2
  let list ← ofExcept (R.atIndex rlp 3)
  let upgradePath ← (R.iter list).mapM (asString R)
  let verifyEpochHeaders ← boolAt R rlp 4
  let verifyNonEpochHeaders ← boolAt R rlp 5
  let verifyHeaderTimestamp ← boolAt R rlp 6
  let allowUpdateAfterMisbehavior ← boolAt R rlp 7
  let allowUpdateAfterExpiry ← boolAt R rlp 8
  pure {
    epochSize, allowedClockSkew, trustingPeriod, upgradePath, verifyEpochHeaders,
    verifyNonEpochHeaders, verifyHeaderTimestamp, allowUpdateAfterMisbehavior,
    allowUpdateAfterExpiry }

def LightClientState.fromRlp (bytes : Bytes) : Outcome Error LightClientState :=
  decodeWith (LightClientState.decode R) bytes

def LightClientState.toRlp (l : LightClientState) : Bytes := R.encode (l.item R)

end

/-! ### What the contract returns -/

/-- The outcome that a result reports. -/
structure ClientStateCallResponseResult where
  isValid : Bool
  errMsg : String

def ClientStateCallResponseResult.success : ClientStateCallResponseResult := ⟨true, ""⟩

def ClientStateCallResponseResult.json (r : ClientStateCallResponseResult) : Json :=
  .obj [("is_valid", .bool r.isValid), ("err_msg", .str r.errMsg)]

/-- The attributes and the data; there are never messages. -/
structure HandleResponse where
  attributes : List (String × String)
  data : Option Bytes
  deriving DecidableEq

/-- The block in which a message is handled. -/
structure Env where
  height : UInt64
  time : UInt64

end CeloLightClient.Contract

import CeloLightClient.Contract.Types
import CeloLightClient.Lib.Decimal

/-!
What the contract keeps in the host chain's store, and how it reads what it is sent.
-/

namespace CeloLightClient.Contract

open Lib Lib.Outcome

/-- `StdError::generic_err`. -/
def genericErr {α : Type} (msg : String) : Outcome StdError α := fail (.GenericErr msg)

/-- `to_generic_err` of an error that is displayed as `msg`. -/
def toGenericErr (msg : String) : StdError := .GenericErr msg

variable (H : Host)

/-! ### Serialization -/

def fromBase64 (base64Data targetType : String) : Outcome StdError Bytes :=
  mapErr (fun e => .ParseErr targetType ("Unable to base64 decode data. Error: " ++ e))
    (ofExcept (H.base64.decode base64Data))

/-- `fromRlp` is the reader of the type. -/
def fromBase64Rlp {α : Type} (fromRlp : Bytes → Outcome Error α) (base64Data targetType : String) :
    Outcome StdError α := do
  let bytes ← fromBase64 H base64Data targetType
  mapErr (fun e => .ParseErr targetType
    ("Unable to rlp decode from base64 data. Error: " ++ H.errorToString e)) (fromRlp bytes)

/-- `fromSlice` is the reader of the type. -/
def fromBase64JsonSlice {α : Type} (fromSlice : Bytes → Except StdError α)
    (base64Data targetType : String) : Outcome StdError α := do
  let bytes ← fromBase64 H base64Data targetType
  mapErr (fun e => .ParseErr targetType
    ("Unable to json decode data. Error: " ++ H.stdErrorToString e)) (ofExcept (fromSlice bytes))

def mustDeserialize {α : Type} (fromSlice : Bytes → Except StdError α) (typeName : String) :
    Option Bytes → Outcome StdError α
  | some vec => ofExcept (fromSlice vec)
  | none => fail (.NotFound typeName)

/-! ### Responses -/

/-- The eight bytes of a word, the highest first. -/
def u64ToBigEndian (value : UInt64) : Bytes :=
  (List.range 8).map fun i => UInt8.ofNat (value.toNat / 256 ^ (7 - i))

def wrapResponse (result : Json) (action : String) : Outcome StdError HandleResponse :=
  pure { attributes := [("action", action)], data := some (H.toVec result) }

def toBinary (t : HandleResponse) : Outcome StdError Bytes := unwrap t.data

/-! ### The store -/

abbrev Storage := Bytes → Option Bytes

def SUBJECT_PREFIX : String := "subject/"
def SUBSTITUTE_PREFIX : String := "substitute/"
def EMPTY_PREFIX : String := ""

def processedHeightKey (pre : String) (height : Height) : Bytes :=
  utf8 s!"{pre}consensusStates/{height.revisionNumber}-{height.revisionHeight}/processedHeight"

def processedTimeKey (pre : String) (height : Height) : Bytes :=
  utf8 s!"{pre}consensusStates/{height.revisionNumber}-{height.revisionHeight}/processedTime"

def consensusStateKey (pre : String) (height : Height) : Bytes :=
  utf8 s!"{pre}consensusStates/{height.revisionNumber}-{height.revisionHeight}"

/-- The prefixes of the client's own entries, and of those of two clients in a recovery. -/
def PREFIXES : List String := [EMPTY_PREFIX, SUBJECT_PREFIX, SUBSTITUTE_PREFIX]

/-- `storage.set`. -/
def setKey (key value : Bytes) : Action Storage StdError Unit :=
  modify fun storage => Function.update storage key (some value)

def setProcessedHeight (pre : String) (consensusHeight processedHeight : Height) :
    Action Storage StdError Unit :=
  setKey (processedHeightKey pre consensusHeight) (H.toVec processedHeight.json)

def getProcessedHeight (storage : Storage) (pre : String) (height : Height) :
    Outcome StdError Height :=
  mustDeserialize H.fromSliceHeight "celo_light_client::contract::types::ibc::Height"
    (storage (processedHeightKey pre height))

def setProcessedTime (pre : String) (height : Height) (time : UInt64) :
    Action Storage StdError Unit :=
  setKey (processedTimeKey pre height) (H.toVec (.num time.toNat))

def getProcessedTime (storage : Storage) (pre : String) (height : Height) :
    Outcome StdError UInt64 :=
  mustDeserialize H.fromSliceU64 "u64" (storage (processedTimeKey pre height))

/-- The host chain has one revision only. -/
def getSelfHeight (blockHeight : UInt64) : Height := ⟨0, blockHeight⟩

def setConsensusMeta (env : Env) (pre : String) (height : Height) :
    Action Storage StdError Unit := do
  setProcessedTime H pre height env.time
  setProcessedHeight H pre height (getSelfHeight env.height)

def getConsensusState (storage : Storage) (pre : String) (height : Height) :
    Except StdError Bytes :=
  match storage (consensusStateKey pre height) with
  | some vec => .ok vec
  | none => .error (.NotFound "consensus state not found")

def setConsensusState (pre : String) (height : Height) (bytes : Bytes) :
    Action Storage StdError Unit :=
  setKey (consensusStateKey pre height) (H.toVec (.bytes bytes))

/-! ### What is written -/

/-- The store after the time and the height of `env` are recorded for `height`. -/
def withConsensusMeta (env : Env) (pre : String) (height : Height) (storage : Storage) : Storage :=
  Function.update
    (Function.update storage (processedTimeKey pre height) (some (H.toVec (.num env.time.toNat))))
    (processedHeightKey pre height) (some (H.toVec (getSelfHeight env.height).json))

@[simp] lemma exec_setConsensusMeta (env : Env) (pre : String) (height : Height)
    (storage : Storage) :
    (setConsensusMeta H env pre height).exec storage =
      (.ok (), withConsensusMeta H env pre height storage) := rfl

@[simp] lemma exec_setConsensusMeta_bind {α : Type} (env : Env) (pre : String) (height : Height)
    (f : Unit → Action Storage StdError α) (storage : Storage) :
    (setConsensusMeta H env pre height >>= f).exec storage =
      (f ()).exec (withConsensusMeta H env pre height storage) := rfl

@[simp] lemma exec_setConsensusState (pre : String) (height : Height) (bytes : Bytes)
    (storage : Storage) :
    (setConsensusState H pre height bytes).exec storage = (.ok (), Function.update storage
      (consensusStateKey pre height) (some (H.toVec (.bytes bytes)))) := rfl

/-! ### What is read -/

lemma fromBase64Rlp_of_lawful {H : Host} (hbase64 : H.base64.Lawful) {α : Type}
    {fromRlp : Bytes → Outcome Error α} {bytes : Bytes} {a : α} (h : fromRlp bytes = .ok a)
    (target : String) : fromBase64Rlp H fromRlp (H.base64.encode bytes) target = .ok a := by
  rw [fromBase64Rlp, fromBase64, hbase64, ofExcept_ok, mapErr_ok, ok_bind, h, mapErr_ok]

/-! ### The keys -/

/-- The text of a key. -/
def keyText (pre : String) (height : Height) (suffix : String) : String :=
  s!"{pre}consensusStates/{height.revisionNumber}-{height.revisionHeight}" ++ suffix

lemma keyText_inj {pre : String} {height₁ height₂ : Height} {suffix₁ suffix₂ : String}
    (h₁ : EndsNumber suffix₁.toList) (h₂ : EndsNumber suffix₂.toList)
    (h : keyText pre height₁ suffix₁ = keyText pre height₂ suffix₂) :
    height₁ = height₂ ∧ suffix₁ = suffix₂ := by
  have htext := congrArg String.toList h
  simp only [keyText, toString, String.toList_append, List.append_assoc,
    List.append_cancel_left_eq] at htext
  obtain ⟨hnumber, htext⟩ := repr_append_inj (by simp) (by simp) htext
  rw [List.append_cancel_left_eq] at htext
  obtain ⟨hheight, hsuffix⟩ := repr_append_inj (by simpa using h₁) (by simpa using h₂) htext
  refine ⟨?_, String.toList_injective (by simpa using hsuffix)⟩
  cases height₁
  cases height₂
  simp only [Height.mk.injEq]
  exact ⟨UInt64.toNat_inj.mp hnumber, UInt64.toNat_inj.mp hheight⟩

lemma processedTimeKey_eq (pre : String) (height : Height) :
    processedTimeKey pre height = utf8 (keyText pre height "/processedTime") := by
  simp [processedTimeKey, keyText, toString, String.append_assoc]

lemma processedHeightKey_eq (pre : String) (height : Height) :
    processedHeightKey pre height = utf8 (keyText pre height "/processedHeight") := by
  simp [processedHeightKey, keyText, toString, String.append_assoc]

lemma consensusStateKey_eq (pre : String) (height : Height) :
    consensusStateKey pre height = utf8 (keyText pre height "") := by
  simp [consensusStateKey, keyText, String.append_assoc]

/-- A key tells the height and what is kept of it. -/
lemma utf8_keyText_inj {pre : String} {height₁ height₂ : Height} {suffix₁ suffix₂ : String}
    (h₁ : EndsNumber suffix₁.toList) (h₂ : EndsNumber suffix₂.toList) :
    utf8 (keyText pre height₁ suffix₁) = utf8 (keyText pre height₂ suffix₂) ↔
      height₁ = height₂ ∧ suffix₁ = suffix₂ := by
  refine ⟨fun h => keyText_inj h₁ h₂ (utf8_injective h), ?_⟩
  rintro ⟨rfl, rfl⟩
  rfl

section

variable {pre : String} {height₁ height₂ : Height}

lemma consensusStateKey_inj :
    consensusStateKey pre height₁ = consensusStateKey pre height₂ ↔ height₁ = height₂ := by
  rw [consensusStateKey_eq, consensusStateKey_eq, utf8_keyText_inj (by simp) (by simp)]
  exact and_iff_left rfl

lemma processedTimeKey_inj :
    processedTimeKey pre height₁ = processedTimeKey pre height₂ ↔ height₁ = height₂ := by
  rw [processedTimeKey_eq, processedTimeKey_eq, utf8_keyText_inj (by simp) (by simp)]
  exact and_iff_left rfl

lemma processedHeightKey_inj :
    processedHeightKey pre height₁ = processedHeightKey pre height₂ ↔ height₁ = height₂ := by
  rw [processedHeightKey_eq, processedHeightKey_eq, utf8_keyText_inj (by simp) (by simp)]
  exact and_iff_left rfl

lemma consensusStateKey_ne_processedTimeKey :
    consensusStateKey pre height₁ ≠ processedTimeKey pre height₂ := by
  rw [consensusStateKey_eq, processedTimeKey_eq, Ne, utf8_keyText_inj (by simp) (by simp)]
  exact fun h => absurd h.2 (by decide)

lemma consensusStateKey_ne_processedHeightKey :
    consensusStateKey pre height₁ ≠ processedHeightKey pre height₂ := by
  rw [consensusStateKey_eq, processedHeightKey_eq, Ne, utf8_keyText_inj (by simp) (by simp)]
  exact fun h => absurd h.2 (by decide)

lemma processedTimeKey_ne_processedHeightKey :
    processedTimeKey pre height₁ ≠ processedHeightKey pre height₂ := by
  rw [processedTimeKey_eq, processedHeightKey_eq, Ne, utf8_keyText_inj (by simp) (by simp)]
  exact fun h => absurd h.2 (by decide)

lemma prefix_eq_of_utf8_keyText {pre₁ pre₂ suffix₁ suffix₂ : String} (h₁ : pre₁ ∈ PREFIXES)
    (h₂ : pre₂ ∈ PREFIXES)
    (h : utf8 (keyText pre₁ height₁ suffix₁) = utf8 (keyText pre₂ height₂ suffix₂)) :
    pre₁ = pre₂ := by
  have htext := congrArg String.toList (utf8_injective h)
  simp only [PREFIXES, List.mem_cons, List.not_mem_nil, or_false] at h₁ h₂
  -- the fourth character is enough
  rcases h₁ with rfl | rfl | rfl <;> rcases h₂ with rfl | rfl | rfl <;>
    simp [keyText, EMPTY_PREFIX, SUBJECT_PREFIX, SUBSTITUTE_PREFIX, toString] at htext ⊢

/-- **No two entries share a key.** -/
lemma utf8_keyText_eq_iff {pre₁ pre₂ suffix₁ suffix₂ : String} (hpre₁ : pre₁ ∈ PREFIXES)
    (hpre₂ : pre₂ ∈ PREFIXES) (h₁ : EndsNumber suffix₁.toList) (h₂ : EndsNumber suffix₂.toList) :
    utf8 (keyText pre₁ height₁ suffix₁) = utf8 (keyText pre₂ height₂ suffix₂) ↔
      pre₁ = pre₂ ∧ height₁ = height₂ ∧ suffix₁ = suffix₂ := by
  constructor
  · intro h
    obtain rfl := prefix_eq_of_utf8_keyText hpre₁ hpre₂ h
    exact ⟨rfl, (utf8_keyText_inj h₁ h₂).mp h⟩
  · rintro ⟨rfl, rfl, rfl⟩
    rfl

lemma keyText_empty_ne_subject {suffix₁ suffix₂ : String} :
    utf8 (keyText EMPTY_PREFIX height₁ suffix₁) ≠
      utf8 (keyText SUBJECT_PREFIX height₂ suffix₂) := fun h =>
  absurd (prefix_eq_of_utf8_keyText (by decide) (by decide) h) (by decide)

end

/-! ### What recording a block changes -/

variable {H}

@[simp] lemma withConsensusMeta_processedHeightKey (env : Env) (pre : String) (height : Height)
    (storage : Storage) :
    withConsensusMeta H env pre height storage (processedHeightKey pre height) =
      some (H.toVec (getSelfHeight env.height).json) :=
  Function.update_self ..

@[simp] lemma withConsensusMeta_processedTimeKey (env : Env) (pre : String) (height : Height)
    (storage : Storage) :
    withConsensusMeta H env pre height storage (processedTimeKey pre height) =
      some (H.toVec (.num env.time.toNat)) := by
  rw [withConsensusMeta, Function.update_of_ne processedTimeKey_ne_processedHeightKey,
    Function.update_self]

lemma withConsensusMeta_of_ne {env : Env} {pre : String} {height : Height} {storage : Storage}
    {key : Bytes} (hheight : key ≠ processedHeightKey pre height)
    (htime : key ≠ processedTimeKey pre height) :
    withConsensusMeta H env pre height storage key = storage key := by
  rw [withConsensusMeta, Function.update_of_ne hheight, Function.update_of_ne htime]

@[simp] lemma withConsensusMeta_consensusStateKey (env : Env) (pre : String)
    (height height' : Height) (storage : Storage) :
    withConsensusMeta H env pre height storage (consensusStateKey pre height') =
      storage (consensusStateKey pre height') :=
  withConsensusMeta_of_ne consensusStateKey_ne_processedHeightKey
    consensusStateKey_ne_processedTimeKey

end CeloLightClient.Contract

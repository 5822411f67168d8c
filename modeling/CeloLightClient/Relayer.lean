import CeloLightClient.JsonCodec
import CeloLightClient.Reference

/-!
The relayer: it asks a node for the headers of blocks, over JSON-RPC.

A node says more of a block than the client has fields for, and in an order of its own. What the
client has no field for is passed over, and an answer that is not about a block is an error.
-/

namespace CeloLightClient.Relayer

open Lib Lib.Outcome

/-- Why there is no header. -/
inductive FetchError
  | Http
  | Json (e : Json.Error)
  deriving DecidableEq

variable (T : Json.Text) (X : Hex.Codec)

/-- The request for the header of a block. The fields of a `Value` are written in the order of
their names. -/
def request (hexNum : String) : Json :=
  .obj [
    ("id", .num 1),
    ("jsonrpc", .str "2.0"),
    ("method", .str "eth_getBlockByNumber"),
    ("params", .arr [.str hexNum, .bool true])]

/-- `Container<T>`. -/
def Container.deserialize {α : Type} (read : Json.Reader α) (j : Json) : Outcome Json.Error α := do
  let fields ← Json.struct "Container" ["result"] j
  Json.field fields "result" read

/-- What a node sends back, if it does. -/
abbrev Node := Bytes → Option Bytes

def fetch {α : Type} (node : Node) (read : Json.Reader α) (body : Json) :
    Outcome FetchError α := do
  let buf ← okOr (node (T.toVec body)) .Http
  mapErr .Json (T.fromSlice (Container.deserialize read) buf)

def getBlockHeaderByNumber (node : Node) (hexNum : String) : Outcome FetchError Header :=
  fetch T node (Header.deserialize X) (request hexNum)

/-! ### No answer aborts -/

variable {T X} {α : Type} {node : Node} {hexNum : String} {header : Header}

lemma struct_ne_abort {name : String} {names : List String} {j : Json} :
    Json.struct name names j ≠ abort := by
  unfold Json.struct
  split
  · simp
  · split <;> simp
  · simp

lemma field_ne_abort {read : Json.Reader α} (hread : ∀ j, read j ≠ abort)
    {fields : List (String × Json)} {name : String} : Json.field fields name read ≠ abort := by
  unfold Json.field
  split
  · simp
  · exact hread _
  · simp

lemma bind_ne_abort {ε β : Type} {x : Outcome ε α} {f : α → Outcome ε β} (hx : x ≠ abort)
    (hf : ∀ a, f a ≠ abort) : x >>= f ≠ abort := by
  rw [Ne, bind_eq_abort]
  rintro (h | ⟨a, -, h⟩)
  · exact hx h
  · exact hf a h

lemma header_ne_abort (j : Json) : Header.deserialize X j ≠ abort := by
  have hbytes {β : Type} {read : String → Except String β} {fields : List (String × Json)}
      {name : String} : Json.field fields name (Hexstring.deserialize read) ≠ abort :=
    field_ne_abort fun _ => hexstring_ne_abort
  have hnumber {β : Type} {read : String → Except String β} {fields : List (String × Json)}
      {name : String} : Json.field fields name (hexNumber read) ≠ abort :=
    field_ne_abort fun _ => hexNumber_ne_abort
  exact bind_ne_abort struct_ne_abort fun _ => bind_ne_abort hbytes fun _ =>
    bind_ne_abort hbytes fun _ => bind_ne_abort hbytes fun _ => bind_ne_abort hbytes fun _ =>
    bind_ne_abort hbytes fun _ => bind_ne_abort hbytes fun _ => bind_ne_abort hnumber fun _ =>
    bind_ne_abort hnumber fun _ => bind_ne_abort hnumber fun _ => bind_ne_abort hbytes fun _ =>
    by simp

lemma getBlockHeaderByNumber_ne_abort : getBlockHeaderByNumber T X node hexNum ≠ abort := by
  refine bind_ne_abort (by simp) fun buf => ?_
  rw [Ne, mapErr_eq_abort]
  exact bind_ne_abort (by simp) fun j =>
    bind_ne_abort struct_ne_abort fun _ => field_ne_abort header_ne_abort

/-! ### The header of a block is read -/

/-- What a node says of a block: each field of its header once, in any order, and whatever else. -/
structure Describes (X : Hex.Codec) (block : List (String × Json)) (header : Header) : Prop where
  nodup : (block.map Prod.fst).Nodup
  fields : ∃ fields, header.serialize X = .obj fields ∧ fields ⊆ block

lemma header_of_describes (hX : X.Lawful) {block : List (String × Json)}
    (h : Describes X block header) : Header.deserialize X (.obj block) = .ok header := by
  obtain ⟨hnodup, fields, hfields, hsub⟩ := h
  obtain rfl := Json.obj.inj hfields
  have harray {n : ℕ} {name : String} (value : FixedBytes n)
      (hmem : (name, Hexstring.serialize X value.1) ∈ block) :
      Json.field block name (Hexstring.deserialize (X.decodeArray n)) = .ok value :=
    Json.field_eq_ok hnodup (Hexstring.array_roundTrip hX value) hmem
  rw [Header.deserialize, Json.struct, ok_bind, harray header.parentHash (hsub (by simp)), ok_bind,
    harray header.coinbase (hsub (by simp)), ok_bind, harray header.root (hsub (by simp)), ok_bind,
    harray header.txHash (hsub (by simp)), ok_bind, harray header.receiptHash (hsub (by simp)),
    ok_bind, harray header.bloom (hsub (by simp)), ok_bind,
    Json.field_eq_ok hnodup (Hexbigint.roundTrip hX header.number) (hsub (by simp)), ok_bind,
    Json.field_eq_ok hnodup (Hexnum.roundTrip header.gasUsed) (hsub (by simp)), ok_bind,
    Json.field_eq_ok hnodup (Hexnum.roundTrip header.time) (hsub (by simp)), ok_bind,
    Json.field_eq_ok hnodup (Hexstring.bytes_roundTrip hX header.extra) (hsub (by simp)), ok_bind,
    pure_eq_ok]

lemma getBlockHeaderByNumber_of_answer {buf : Bytes} {response : List (String × Json)}
    (hnode : node (T.toVec (request hexNum)) = some buf)
    (hbuf : T.ofSlice buf = some (.obj response)) : getBlockHeaderByNumber T X node hexNum =
      mapErr .Json (Json.field response "result" (Header.deserialize X)) := by
  rw [getBlockHeaderByNumber, fetch, hnode]
  exact congrArg (mapErr FetchError.Json) (Json.Text.fromSlice_of_ofSlice hbuf _)

/-- **What the relayer makes of an answer.** Of a block it reads the header, wherever the header's
fields stand and whatever else is there; if there is no block it reports an error; and whatever the
node sends, it does not abort. -/
theorem relayer_reads (hX : X.Lawful) (node : Node) (hexNum : String) :
    (∀ buf response block header, node (T.toVec (request hexNum)) = some buf →
      T.ofSlice buf = some (.obj response) → (response.map Prod.fst).Nodup →
      ("result", .obj block) ∈ response → Describes X block header →
      getBlockHeaderByNumber T X node hexNum = .ok header) ∧
    (∀ buf response, node (T.toVec (request hexNum)) = some buf →
      T.ofSlice buf = some (.obj response) → "result" ∉ response.map Prod.fst →
      getBlockHeaderByNumber T X node hexNum = fail (.Json (.MissingField "result"))) ∧
    getBlockHeaderByNumber T X node hexNum ≠ abort := by
  refine ⟨?_, ?_, getBlockHeaderByNumber_ne_abort⟩
  · intro buf response block header hnode hbuf hnodup hmem hdescribes
    have hread := header_of_describes hX hdescribes
    rw [getBlockHeaderByNumber_of_answer hnode hbuf, Json.field_eq_ok hnodup hread hmem, mapErr_ok]
  · intro buf response hnode hbuf hmissing
    rw [getBlockHeaderByNumber_of_answer hnode hbuf, Json.field_eq_missing _ hmissing, mapErr_fail]

/-- The fields of a header as a node gives them, among two others. -/
def sampleBlock (header : Header) : List (String × Json) :=
  [("size", .str "0x1"), ("extraData", Hexstring.serialize Hex.reference header.extra),
    ("timestamp", Hexnum.serialize header.time), ("gasUsed", Hexnum.serialize header.gasUsed),
    ("number", Hexbigint.serialize Hex.reference header.number),
    ("logsBloom", Hexstring.serialize Hex.reference header.bloom.1),
    ("receiptsRoot", Hexstring.serialize Hex.reference header.receiptHash.1),
    ("transactionsRoot", Hexstring.serialize Hex.reference header.txHash.1),
    ("stateRoot", Hexstring.serialize Hex.reference header.root.1),
    ("miner", Hexstring.serialize Hex.reference header.coinbase.1),
    ("parentHash", Hexstring.serialize Hex.reference header.parentHash.1),
    ("transactions", .arr [])]

def sampleResponse (header : Header) : List (String × Json) :=
  [("jsonrpc", .str "2.0"), ("id", .num 1), ("result", .obj (sampleBlock header))]

lemma sampleBlock_describes (header : Header) :
    Describes Hex.reference (sampleBlock header) header :=
  ⟨by simp [sampleBlock], _, rfl, by simp [sampleBlock]⟩

def sampleHeader : Header := Reference.headerOf 8 101 (zeroBytes _) (Reference.diff 0 [])

/-- The fields of the header come last to first here, and a newline ends the answer. -/
theorem relayer_reads_sample :
    getBlockHeaderByNumber Json.reference Hex.reference
      (fun _ => some (Json.toVec (.obj (sampleResponse sampleHeader)) ++ utf8 "\n")) "latest" =
        .ok sampleHeader :=
  (relayer_reads Hex.reference_lawful _ _).1 _ _ _ sampleHeader rfl
    (Json.ofSlice_append_space _ (List.forall_mem_singleton.mpr rfl))
    (by simp [sampleResponse]) (by simp [sampleResponse]) (sampleBlock_describes _)

end CeloLightClient.Relayer

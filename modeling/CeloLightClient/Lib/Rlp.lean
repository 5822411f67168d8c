import CeloLightClient.Lib.Bytes

/-!
Recursive length prefix encoding.

An item is a byte string or a list of items. `Codec` is what a program sees of a library for
the format: it writes items, and it reads one lazily, through views that are themselves byte
strings. `Lawful` states what the format promises of the two, and `reference` is the format
itself, written out, with the promises proved of it.

A length is written in at most eight bytes, so the promises are about encodings shorter than
`2 ^ 64` bytes; no longer one fits in memory.
-/

namespace CeloLightClient.Lib.Rlp

/-- Why a reader refuses its input. -/
inductive DecoderError
  | RlpIsTooBig
  | RlpIsTooShort
  | RlpExpectedToBeList
  | RlpExpectedToBeData
  | RlpIncorrectListLen
  | RlpDataLenWithZeroPrefix
  | RlpListLenWithZeroPrefix
  | RlpInvalidIndirection
  | RlpInconsistentLengthAndData
  | RlpInvalidLength
  | Custom (msg : String)
  deriving DecidableEq, Repr

inductive Item
  | data (b : Bytes)
  | list (l : List Item)

/-- The list with more items behind its own. -/
def Item.append : Item → List Item → Item
  | .list l, more => .list (l ++ more)
  | t, _ => t

/-- A library for the format. -/
structure Codec where
  /-- Write an item. -/
  encode : Item → Bytes
  /-- The view of the `i`-th item of a list. -/
  atIndex : Bytes → ℕ → Except DecoderError Bytes
  /-- The views of the items of a list, up to the first malformed one. -/
  iter : Bytes → List Bytes
  /-- The byte string of a data item. -/
  value : Bytes → Except DecoderError Bytes
  /-- The byte string that stands for a number, and the number it stands for. -/
  u64Data : UInt64 → Bytes
  u64OfData : Bytes → Except DecoderError UInt64
  boolData : Bool → Bytes
  boolOfData : Bytes → Except DecoderError Bool
  stringData : String → Bytes
  stringOfData : Bytes → Except DecoderError String

/-- The encoding of the item fits in memory. -/
def Codec.Fits (R : Codec) (t : Item) : Prop := (R.encode t).length < 2 ^ 64

/-- What the format promises: what was written is read back. -/
structure Codec.Lawful (R : Codec) : Prop where
  atIndex_list : ∀ (l : List Item) (i : ℕ) (h : i < l.length), R.Fits (.list l) →
    R.atIndex (R.encode (.list l)) i = .ok (R.encode l[i])
  iter_list : ∀ l : List Item, R.Fits (.list l) → R.iter (R.encode (.list l)) = l.map R.encode
  value_data : ∀ b : Bytes, R.Fits (.data b) → R.value (R.encode (.data b)) = .ok b
  length_le : ∀ (l : List Item), ∀ t ∈ l, (R.encode t).length ≤ (R.encode (.list l)).length
  u64 : ∀ n, R.u64OfData (R.u64Data n) = .ok n
  bool : ∀ b, R.boolOfData (R.boolData b) = .ok b
  string : ∀ s, R.stringOfData (R.stringData s) = .ok s

namespace Codec.Lawful

variable {R : Codec} (hR : R.Lawful)
include hR

lemma fits_of_mem {l : List Item} {t : Item} (h : R.Fits (.list l)) (ht : t ∈ l) : R.Fits t :=
  (hR.length_le l t ht).trans_lt h

lemma data_inj {a b : Bytes} (ha : R.Fits (.data a)) (h : R.encode (.data a) = R.encode (.data b)) :
    a = b := by
  have hb : R.Fits (.data b) := by rwa [Fits, ← h]
  have hval := hR.value_data a ha
  rw [h, hR.value_data b hb] at hval
  exact (Except.ok.inj hval).symm

lemma list_inj {l m : List Item} (hl : R.Fits (.list l))
    (h : R.encode (.list l) = R.encode (.list m)) {i : ℕ} (hi : i < l.length) (hj : i < m.length) :
    R.encode l[i] = R.encode m[i] := by
  have hm : R.Fits (.list m) := by rwa [Fits, ← h]
  have hat := hR.atIndex_list l i hi hl
  rw [h, hR.atIndex_list m i hj hm] at hat
  exact (Except.ok.inj hat).symm

end Codec.Lawful

/-! ### The format -/

/-- The bytes before a payload of `n` bytes. `short` is the first byte of a payload of at most
55 bytes, less its length; `long` that of a longer one, less the length of its length. -/
def header (short long n : ℕ) : Bytes :=
  if n ≤ 55 then [UInt8.ofNat (short + n)]
  else UInt8.ofNat (long + (toBytesBE n).length) :: toBytesBE n

def encodeData : Bytes → Bytes
  | [x] => if x.toNat < 0x80 then [x] else [0x81, x]
  | b => header 0x80 0xb7 b.length ++ b

mutual
def encode : Item → Bytes
  | .data b => encodeData b
  | .list l => header 0xc0 0xf7 (encodeAll l).length ++ encodeAll l

def encodeAll : List Item → Bytes
  | [] => []
  | t :: l => encode t ++ encodeAll l
end

/-- The lengths of the header and of the payload, when the latter's length has `k` bytes. -/
def longInfo (rest : Bytes) (k : ℕ) : Except DecoderError (ℕ × ℕ) :=
  match rest with
  | [] => .error .RlpIsTooShort
  | x :: _ =>
    if x = 0 then .error .RlpDataLenWithZeroPrefix
    else if rest.length < k then .error .RlpIsTooShort
    else if ofBytesBE (rest.take k) ≤ 55 then .error .RlpInvalidIndirection
    else .ok (1 + k, ofBytesBE (rest.take k))

/-- The same for any item, not yet checked against the bytes there are. -/
def headerInfo : Bytes → Except DecoderError (ℕ × ℕ)
  | [] => .error .RlpIsTooShort
  | x :: rest =>
    if x.toNat ≤ 0x7f then .ok (0, 1)
    else if x.toNat ≤ 0xb7 then .ok (1, x.toNat - 0x80)
    else if x.toNat ≤ 0xbf then longInfo rest (x.toNat - 0xb7)
    else if x.toNat ≤ 0xf7 then .ok (1, x.toNat - 0xc0)
    else longInfo rest (x.toNat - 0xf7)

def payloadInfo (b : Bytes) : Except DecoderError (ℕ × ℕ) := do
  let (h, n) ← headerInfo b
  if h + n ≤ b.length then .ok (h, n) else .error .RlpIsTooShort

/-- The items at the front of `b`, and why there is no further one. -/
def items : ℕ → Bytes → List Bytes × DecoderError
  | 0, _ => ([], .RlpIsTooShort)
  | fuel + 1, b =>
    match payloadInfo b with
    | .error e => ([], e)
    | .ok (h, n) =>
      let rest := items fuel (b.drop (h + n))
      (b.take (h + n) :: rest.1, rest.2)

def listPayload (b : Bytes) : Except DecoderError Bytes := do
  if 0xc0 ≤ (b.headD 0).toNat then
    let (h, n) ← payloadInfo b
    .ok ((b.drop h).take n)
  else .error .RlpExpectedToBeList

def atIndex (b : Bytes) (i : ℕ) : Except DecoderError Bytes := do
  let p ← listPayload b
  let (xs, e) := items (p.length + 1) p
  match xs[i]? with
  | some x => .ok x
  | none => .error e

def iter (b : Bytes) : List Bytes :=
  match listPayload b with
  | .ok p => (items (p.length + 1) p).1
  | .error _ => []

def value : Bytes → Except DecoderError Bytes
  | [] => .error .RlpIsTooShort
  | x :: rest =>
    if x.toNat ≤ 0x7f then .ok [x]
    else if x.toNat ≤ 0xb7 then
      if rest.length < x.toNat - 0x80 then .error .RlpInconsistentLengthAndData
      else if x = 0x81 ∧ (rest.headD 0).toNat < 0x80 then .error .RlpInvalidIndirection
      else .ok (rest.take (x.toNat - 0x80))
    else if x.toNat ≤ 0xbf then
      if rest.length < x.toNat - 0xb7 then .error .RlpInconsistentLengthAndData
      else if rest.length < x.toNat - 0xb7 + ofBytesBE (rest.take (x.toNat - 0xb7)) then
        .error .RlpInconsistentLengthAndData
      else .ok ((rest.drop (x.toNat - 0xb7)).take (ofBytesBE (rest.take (x.toNat - 0xb7))))
    else .error .RlpExpectedToBeData

/-- A number is at most eight bytes with no zero in front. -/
def u64OfData : Bytes → Except DecoderError UInt64
  | [] => .ok 0
  | x :: b =>
    if 8 < (x :: b).length then .error .RlpIsTooBig
    else if x = 0 then .error .RlpInvalidIndirection
    else .ok (UInt64.ofNat (ofBytesBE (x :: b)))

def boolOfData : Bytes → Except DecoderError Bool
  | [] => .ok false
  | [x] => .ok (x != 0)
  | _ => .error .RlpIsTooBig

def stringOfData (b : Bytes) : Except DecoderError String :=
  match ofUtf8 b with
  | some s => .ok s
  | none => .error .RlpExpectedToBeData

def reference : Codec where
  encode := encode
  atIndex := atIndex
  iter := iter
  value := value
  u64Data n := toBytesBE n.toNat
  u64OfData := u64OfData
  boolData b := [if b then 1 else 0]
  boolOfData := boolOfData
  stringData := utf8
  stringOfData := stringOfData

/-! ### The format keeps its promises -/

lemma encodeData_cases (b : Bytes) :
    (∃ x, b = [x] ∧ x.toNat < 0x80 ∧ encodeData b = [x]) ∨
      (encodeData b = header 0x80 0xb7 b.length ++ b ∧ ∀ x, b = [x] → 0x80 ≤ x.toNat) := by
  rcases b with _ | ⟨x, _ | ⟨y, b⟩⟩
  · exact Or.inr ⟨rfl, by simp⟩
  · by_cases hx : x.toNat < 0x80
    · exact Or.inl ⟨x, rfl, hx, by simp [encodeData, hx]⟩
    · exact Or.inr ⟨by simp [encodeData, hx, header], by rintro _ ⟨⟩; omega⟩
  · exact Or.inr ⟨rfl, by simp⟩

lemma longInfo_toBytesBE {n : ℕ} (hn : 55 < n) (rest : Bytes) :
    longInfo (toBytesBE n ++ rest) (toBytesBE n).length = .ok (1 + (toBytesBE n).length, n) := by
  rcases hb : toBytesBE n with _ | ⟨x, b⟩
  · rw [toBytesBE_eq_nil] at hb
    omega
  · have hx := head_toBytesBE_ne_zero hb
    have htake : (x :: b ++ rest).take (x :: b).length = toBytesBE n := by
      rw [List.take_left, hb]
    have hval : ofBytesBE ((x :: b ++ rest).take (x :: b).length) = n := by
      rw [htake, ofBytesBE_toBytesBE]
    rw [List.cons_append] at hval ⊢
    simp only [longInfo, hx, if_false, hval]
    rw [if_neg (by simp), if_neg (by omega)]

lemma headerInfo_header {n : ℕ} (hn : n < 2 ^ 64) (rest : Bytes) :
    headerInfo (header 0x80 0xb7 n ++ rest) = .ok ((header 0x80 0xb7 n).length, n) ∧
      headerInfo (header 0xc0 0xf7 n ++ rest) = .ok ((header 0xc0 0xf7 n).length, n) := by
  unfold header
  by_cases h : n ≤ 55
  · have h1 : (UInt8.ofNat (0x80 + n)).toNat = 0x80 + n := by
      rw [UInt8.toNat_ofNat_of_lt' (by simp only [UInt8.size]; omega)]
    have h2 : (UInt8.ofNat (0xc0 + n)).toNat = 0xc0 + n := by
      rw [UInt8.toNat_ofNat_of_lt' (by simp only [UInt8.size]; omega)]
    simp only [h, if_true, List.singleton_append, headerInfo, h1, h2]
    constructor
    · rw [if_neg (by omega), if_pos (by omega)]
      simp
    · rw [if_neg (by omega), if_neg (by omega), if_neg (by omega), if_pos (by omega)]
      simp
  · have hk : (toBytesBE n).length ≤ 8 := length_toBytesBE_le.mpr (by simpa using hn)
    have hk0 : 0 < (toBytesBE n).length := by
      rw [List.length_pos_iff]
      exact fun h0 => h (by rw [toBytesBE_eq_nil.mp h0]; omega)
    have hlong := longInfo_toBytesBE (n := n) (by omega) rest
    have h1 : (UInt8.ofNat (0xb7 + (toBytesBE n).length)).toNat = 0xb7 + (toBytesBE n).length := by
      rw [UInt8.toNat_ofNat_of_lt' (by simp only [UInt8.size]; omega)]
    have h2 : (UInt8.ofNat (0xf7 + (toBytesBE n).length)).toNat = 0xf7 + (toBytesBE n).length := by
      rw [UInt8.toNat_ofNat_of_lt' (by simp only [UInt8.size]; omega)]
    simp only [h, if_false, List.cons_append, headerInfo, h1, h2, List.length_cons]
    constructor
    · rw [if_neg (by omega), if_neg (by omega), if_pos (by omega), Nat.add_sub_cancel_left, hlong,
        Nat.add_comm]
    · rw [if_neg (by omega), if_neg (by omega), if_neg (by omega), if_neg (by omega),
        Nat.add_sub_cancel_left, hlong, Nat.add_comm]

lemma header_length_pos (short long n : ℕ) : 0 < (header short long n).length := by
  unfold header
  split <;> simp

lemma encode_length_pos (t : Item) : 0 < (encode t).length := by
  cases t with
  | data b =>
    rcases encodeData_cases b with ⟨x, -, -, h⟩ | ⟨h, -⟩
    · simp [encode, h]
    · have := header_length_pos 0x80 0xb7 b.length
      simp only [encode, h, List.length_append]
      omega
  | list l =>
    have := header_length_pos 0xc0 0xf7 (encodeAll l).length
    simp only [encode, List.length_append]
    omega

lemma payloadInfo_encode {t : Item} (h : (encode t).length < 2 ^ 64) (rest : Bytes) :
    ∃ k n, payloadInfo (encode t ++ rest) = .ok (k, n) ∧ k + n = (encode t).length := by
  suffices hs : ∃ k n, headerInfo (encode t ++ rest) = .ok (k, n) ∧ k + n = (encode t).length by
    obtain ⟨k, n, hi, hlen⟩ := hs
    refine ⟨k, n, ?_, hlen⟩
    have hle : k + n ≤ (encode t ++ rest).length := by
      rw [List.length_append]; omega
    simp only [payloadInfo, hi]
    exact if_pos hle
  cases t with
  | data b =>
    rcases encodeData_cases b with ⟨x, rfl, hx, hb⟩ | ⟨hb, -⟩
    · exact ⟨0, 1, by simp [encode, hb, headerInfo, show x.toNat ≤ 127 by omega],
        by simp [encode, hb]⟩
    · have hlen : (encode (.data b)).length = (header 0x80 0xb7 b.length).length + b.length := by
        simp [encode, hb]
      refine ⟨_, _, ?_, hlen.symm⟩
      rw [encode, hb, List.append_assoc]
      exact (headerInfo_header (by omega) _).1
  | list l =>
    have hlen : (encode (.list l)).length =
        (header 0xc0 0xf7 (encodeAll l).length).length + (encodeAll l).length := by
      simp [encode]
    refine ⟨_, _, ?_, hlen.symm⟩
    rw [encode, List.append_assoc]
    exact (headerInfo_header (by omega) _).2

lemma length_le_encodeAll {l : List Item} {t : Item} (h : t ∈ l) :
    (encode t).length ≤ (encodeAll l).length := by
  induction l with
  | nil => simp at h
  | cons a l ih =>
    rw [encodeAll, List.length_append]
    rcases List.mem_cons.mp h with rfl | h
    · omega
    · have := ih h
      omega

lemma length_le_encodeAll' (l : List Item) : l.length ≤ (encodeAll l).length := by
  induction l with
  | nil => simp
  | cons a l ih =>
    have := encode_length_pos a
    rw [encodeAll, List.length_append, List.length_cons]
    omega

lemma items_encodeAll {l : List Item} (h : (encodeAll l).length < 2 ^ 64) (fuel : ℕ)
    (hf : l.length < fuel) : items fuel (encodeAll l) = (l.map encode, .RlpIsTooShort) := by
  induction l generalizing fuel with
  | nil =>
    obtain ⟨fuel, rfl⟩ := Nat.exists_eq_add_of_lt hf
    simp [encodeAll, items, payloadInfo, headerInfo, bind, Except.bind]
  | cons t l ih =>
    obtain ⟨fuel, rfl⟩ : ∃ f, fuel = f + 1 := ⟨fuel - 1, by simp at hf; omega⟩
    rw [encodeAll, List.length_append] at h
    obtain ⟨k, n, hinfo, hkn⟩ := payloadInfo_encode (t := t) (by omega) (encodeAll l)
    have hrest := ih (by omega) fuel (by simpa using hf)
    simp only [items, encodeAll, hinfo, hkn, List.drop_left, List.take_left, hrest, List.map_cons]

lemma listPayload_encode {l : List Item} (h : (encode (.list l)).length < 2 ^ 64) :
    listPayload (encode (.list l)) = .ok (encodeAll l) := by
  have hlen : (encodeAll l).length < 2 ^ 64 := by
    rw [encode, List.length_append] at h; omega
  have hinfo := (headerInfo_header hlen (encodeAll l)).2
  have hfirst : 0xc0 ≤ ((header 0xc0 0xf7 (encodeAll l).length ++ encodeAll l).headD 0).toNat := by
    unfold header
    have hk : (toBytesBE (encodeAll l).length).length ≤ 8 :=
      length_toBytesBE_le.mpr (by simpa using hlen)
    split <;> simp only [List.cons_append, List.headD_cons] <;>
      rw [UInt8.toNat_ofNat_of_lt' (by simp only [UInt8.size]; omega)] <;> omega
  rw [encode, listPayload, if_pos hfirst, payloadInfo, hinfo]
  simp [bind, Except.bind]

lemma value_encode {b : Bytes} (h : (encode (.data b)).length < 2 ^ 64) :
    value (encode (.data b)) = .ok b := by
  rcases encodeData_cases b with ⟨x, rfl, hx, hb⟩ | ⟨hb, hsingle⟩
  · simp [encode, hb, value, show x.toNat ≤ 127 by omega]
  · have hlen : b.length < 2 ^ 64 := by
      rw [encode, hb, List.length_append] at h; omega
    rw [encode, hb, header]
    by_cases hn : b.length ≤ 55
    · have h1 : (UInt8.ofNat (0x80 + b.length)).toNat = 0x80 + b.length := by
        rw [UInt8.toNat_ofNat_of_lt' (by simp only [UInt8.size]; omega)]
      simp only [hn, if_true, List.singleton_append, value, h1, Nat.add_sub_cancel_left]
      rw [if_neg (by omega), if_pos (by omega), if_neg (by omega), if_neg, List.take_length]
      rintro ⟨h81, hlow⟩
      -- one byte only, and then it is a large one
      have hone : b.length = 1 := by
        have h129 := congrArg UInt8.toNat h81
        rw [h1, show (0x81 : UInt8).toNat = 0x80 + 1 from rfl] at h129
        omega
      obtain ⟨x, rfl⟩ := List.length_eq_one_iff.mp hone
      have := hsingle x rfl
      simp at hlow
      omega
    · have hk : (toBytesBE b.length).length ≤ 8 := length_toBytesBE_le.mpr (by simpa using hlen)
      have hk0 : 0 < (toBytesBE b.length).length := by
        rw [List.length_pos_iff]
        exact fun h0 => hn (by rw [toBytesBE_eq_nil.mp h0]; omega)
      have h1 : (UInt8.ofNat (0xb7 + (toBytesBE b.length).length)).toNat =
          0xb7 + (toBytesBE b.length).length := by
        rw [UInt8.toNat_ofNat_of_lt' (by simp only [UInt8.size]; omega)]
      simp only [hn, if_false, List.cons_append, value, h1, Nat.add_sub_cancel_left,
        List.take_left, List.drop_left, ofBytesBE_toBytesBE, List.length_append, List.take_length]
      rw [if_neg (by omega), if_neg (by omega), if_pos (by omega), if_neg (by omega),
        if_neg (by omega)]

lemma u64OfData_toBytesBE (n : UInt64) : u64OfData (toBytesBE n.toNat) = .ok n := by
  have hlen : (toBytesBE n.toNat).length ≤ 8 :=
    length_toBytesBE_le.mpr (by simpa using n.toNat_lt)
  rcases hb : toBytesBE n.toNat with _ | ⟨x, b⟩
  · have hz : n = 0 := by
      rw [toBytesBE_eq_nil] at hb
      exact UInt64.toNat_inj.mp (by simpa using hb)
    simp [u64OfData, hz]
  · have hx := head_toBytesBE_ne_zero hb
    rw [hb] at hlen
    simp only [u64OfData, hx, if_false, if_neg (Nat.not_lt.mpr hlen)]
    rw [← hb, ofBytesBE_toBytesBE, UInt64.ofNat_toNat]

lemma stringOfData_utf8 (s : String) : stringOfData (utf8 s) = .ok s := by
  rw [stringOfData, ofUtf8_utf8]

lemma items_of_fits {l : List Item} (h : reference.Fits (.list l)) :
    items ((encodeAll l).length + 1) (encodeAll l) = (l.map encode, .RlpIsTooShort) := by
  have hlen : (encodeAll l).length < 2 ^ 64 := by
    simp only [Codec.Fits, reference, encode, List.length_append] at h
    omega
  exact items_encodeAll hlen _ (Nat.lt_succ_of_le (length_le_encodeAll' l))

/-- **The format is lawful.** -/
theorem reference_lawful : reference.Lawful where
  atIndex_list l i hi hfits := by
    simp [reference, atIndex, listPayload_encode hfits, items_of_fits hfits, hi, bind, Except.bind]
  iter_list l hfits := by
    simp [reference, iter, listPayload_encode hfits, items_of_fits hfits]
  value_data b hfits := value_encode hfits
  length_le l t ht := by
    have := length_le_encodeAll ht
    simp only [reference, encode, List.length_append]
    omega
  u64 := u64OfData_toBytesBE
  bool b := by cases b <;> rfl
  string := stringOfData_utf8

end CeloLightClient.Lib.Rlp

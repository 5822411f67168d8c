import CeloLightClient.RoundTrip
import CeloLightClient.Lib.Hex
import CeloLightClient.Lib.Deserialize

/-!
Hexadecimal fields of JSON values.

A field is a string of digits after `0x`: a byte string, a number, or a list of byte strings of one
size. What its digits are is up to the library that reads them, so a number may have a sign.
-/

namespace CeloLightClient

open Lib Lib.Outcome

/-- `&s[n..]`, which aborts inside a character. -/
def strFrom {ε : Type} (s : String) (n : ℕ) : Outcome ε String := do
  let rest ← sliceFrom (utf8 s) n
  unwrap (ofUtf8 rest)

/-- `s.len() <= 2 || !s.starts_with("0x")`. -/
def LacksDigits (s : String) : Prop := (utf8 s).length ≤ 2 ∨ ¬ ['0', 'x'] <+: s.toList

instance : DecidablePred LacksDigits := fun _ => inferInstanceAs (Decidable (_ ∨ _))

variable {α : Type}

/-! ### The fields -/

/-- A byte string. Where there are no digits to read, none are read. -/
def Hexstring.deserialize (fromHex : String → Except String α) (j : Json) :
    Outcome Json.Error α := do
  let s ← Json.borrowed j
  if LacksDigits s then
    Json.custom (fromHex "")
  else
    let digits ← strFrom s 2
    Json.custom (fromHex digits)

/-- Where there are no bytes, no `0x` is written. -/
def Hexstring.serialize (X : Hex.Codec) (value : Bytes) : Json :=
  let hexString := X.encode value
  if (utf8 hexString).length = 0 then .str "" else .str ("0x" ++ hexString)

def startError (s : String) : Json.Error :=
  .Custom ("hex string should start with '0x', got: " ++ s)

/-- A number, which is read by `T::from_str_radix`. -/
def hexNumber (fromStrRadix : String → Except String α) (j : Json) : Outcome Json.Error α := do
  let s ← Json.borrowed j
  if LacksDigits s then
    fail (startError s)
  else
    let digits ← strFrom s 2
    Json.custom (fromStrRadix digits)

/-- A word. -/
def Hexnum.deserialize : Json → Outcome Json.Error UInt64 := hexNumber Hex.u64OfHex

def Hexnum.serialize (value : UInt64) : Json := .str ("0x" ++ Hex.u64ToHex value)

/-- A big integer. -/
def Hexbigint.deserialize (X : Hex.Codec) : Json → Outcome Json.Error ℤ := hexNumber X.toBigInt

def Hexbigint.serialize (X : Hex.Codec) (value : ℤ) : Json := .str ("0x" ++ X.ofBigInt value)

/-- One item of a list. -/
def hexItem (X : Hex.Codec) (fromBytes : Bytes → Outcome Error α) (item : String) :
    Outcome Json.Error α := do
  if LacksDigits item then
    fail (startError item)
  else
    let digits ← strFrom item 2
    match X.decode digits with
    | .ok decoded =>
      -- an error of `from_bytes` has no source to be displayed after its kind
      mapErr (fun e => .Custom ("failed to call from_bytes, got: " ++ e.kind.display))
        (fromBytes decoded)
    | .error e => fail (.Custom ("failed to decode hex data, got: " ++ e))

/-- A list of byte strings of one size. -/
def Hexvec.deserialize (X : Hex.Codec) (fromBytes : Bytes → Outcome Error α) (j : Json) :
    Outcome Json.Error (List α) := do
  let items ← Json.vec Json.string j
  items.mapM (hexItem X fromBytes)

def Hexvec.serialize (X : Hex.Codec) {n : ℕ} (value : List (FixedBytes n)) : Json :=
  Json.strings (value.map fun v => "0x" ++ X.encode v.1)

/-! ### What comes after `0x` -/

/-- The text says `a` after `0x`. -/
def Prefixed (Says : List Char → α → Prop) (s : String) (a : α) : Prop :=
  ∃ digits, s.toList = '0' :: 'x' :: digits ∧ Says digits a

/-- Text that is written as it is in JSON. -/
def Plain (text : List Char) : Prop := ∀ c ∈ text, Json.escape c = [c]

variable {s : String} {digits : List Char}

lemma toList_append_digits (t : String) : ("0x" ++ t).toList = '0' :: 'x' :: t.toList := by
  simp [String.toList_append]

lemma prefixed_iff (h : s.toList = '0' :: 'x' :: digits) {Says : List Char → α → Prop} {a : α} :
    Prefixed Says s a ↔ Says digits a := by
  constructor
  · rintro ⟨digits', h', hsaid⟩
    rw [h, List.cons.injEq, List.cons.injEq] at h'
    rwa [h'.2.2]
  · intro hsaid
    exact ⟨digits, h, hsaid⟩

lemma utf8_of_toList (h : s.toList = '0' :: 'x' :: digits) :
    utf8 s = [0x30, 0x78] ++ utf8 (String.ofList digits) := by
  have hs : s = "0x" ++ String.ofList digits := by
    apply String.toList_injective
    rw [h, toList_append_digits, String.toList_ofList]
  rw [hs, utf8_append]
  congr

lemma strFrom_two {ε : Type} (h : s.toList = '0' :: 'x' :: digits) :
    (strFrom s 2 : Outcome ε String) = .ok (String.ofList digits) := by
  have hbytes := utf8_of_toList h
  have hlen : 2 ≤ (utf8 s).length := by
    rw [hbytes, List.length_append]
    exact Nat.le_add_right ..
  have hdrop : (utf8 s).drop 2 = utf8 (String.ofList digits) := by
    rw [hbytes]
    rfl
  rw [strFrom, sliceFrom_of_le hlen, ok_bind, hdrop, ofUtf8_utf8, unwrap_some]

lemma not_lacksDigits :
    ¬ LacksDigits s ↔ ∃ digits, digits ≠ [] ∧ s.toList = '0' :: 'x' :: digits := by
  unfold LacksDigits
  rw [not_or, not_not, Nat.not_le]
  constructor
  · rintro ⟨hlen, digits, hdigits⟩
    have hs : s.toList = '0' :: 'x' :: digits := hdigits.symm
    refine ⟨digits, ?_, hs⟩
    rintro rfl
    have hlength : (utf8 s).length = 2 := by
      rw [utf8_of_toList hs]
      rfl
    omega
  · rintro ⟨digits, hne, hs⟩
    refine ⟨?_, digits, hs.symm⟩
    have hpos := List.length_pos_of_ne_nil hne
    have hle := length_le_utf8 digits
    rw [utf8_of_toList hs, List.length_append]
    simp only [List.length_cons, List.length_nil]
    omega

/-- The reader takes exactly the texts that say something, all of them plain. -/
structure Reads (read : String → Except String α) (Says : List Char → α → Prop) : Prop where
  eq_ok {t : String} {a : α} : read t = .ok a ↔ Says t.toList a
  plain {text : List Char} {a : α} (h : Says text a) : Plain text

variable {read : String → Except String α} {Says : List Char → α → Prop} {a : α} {j : Json}

lemma Reads.ofList_eq_ok (hread : Reads read Says) :
    read (String.ofList digits) = .ok a ↔ Says digits a := by
  rw [hread.eq_ok, String.toList_ofList]

@[simp] lemma custom_eq_ok {x : Except String α} : Json.custom x = .ok a ↔ x = .ok a := by
  simp [Json.custom]

@[simp] lemma custom_ne_abort (x : Except String α) : Json.custom x ≠ abort := by
  simp [Json.custom]

lemma strFrom_bind_eq_ok (hread : Reads read Says) (h : ¬ LacksDigits s) :
    (strFrom s 2 >>= fun digits => Json.custom (read digits)) = .ok a ↔ Prefixed Says s a := by
  obtain ⟨digits, -, hs⟩ := not_lacksDigits.mp h
  rw [strFrom_two hs, ok_bind, custom_eq_ok, hread.ofList_eq_ok, prefixed_iff hs]

lemma strFrom_bind_ne_abort (h : ¬ LacksDigits s) :
    (strFrom s 2 >>= fun digits => Json.custom (read digits)) ≠ abort := by
  obtain ⟨digits, -, hs⟩ := not_lacksDigits.mp h
  rw [strFrom_two hs, ok_bind]
  exact custom_ne_abort _

lemma borrowed_of_prefixed (hread : Reads read Says) (h : Prefixed Says s a) :
    Json.borrowed (.str s) = .ok s := by
  obtain ⟨digits, hs, hsaid⟩ := h
  refine Json.borrowed_str fun c hc => ?_
  rw [hs] at hc
  rcases List.mem_cons.mp hc with rfl | hc
  · decide
  rcases List.mem_cons.mp hc with rfl | hc
  · decide
  · exact hread.plain hsaid c hc

lemma lacksDigits_of_prefixed (h : Prefixed Says s a) (hlacks : LacksDigits s) : Says [] a := by
  obtain ⟨digits, hs, hsaid⟩ := h
  by_cases hne : digits = []
  · rwa [← hne]
  · exact absurd hlacks (not_lacksDigits.mpr ⟨digits, hne, hs⟩)

/-- **A number is read** from exactly the texts that say it after `0x`. -/
lemma hexNumber_eq_ok (hread : Reads read Says) (hne : ∀ a, ¬ Says [] a) :
    hexNumber read (.str s) = .ok a ↔ Prefixed Says s a := by
  unfold hexNumber
  constructor
  · intro h
    obtain ⟨t, hborrowed, hbody⟩ := bind_eq_ok.mp h
    obtain rfl := Json.borrowed_eq_ok hborrowed
    split at hbody
    · simp at hbody
    · next hlacks => exact (strFrom_bind_eq_ok hread hlacks).mp hbody
  · intro h
    have hlacks : ¬ LacksDigits s := fun hlacks => hne a (lacksDigits_of_prefixed h hlacks)
    rw [borrowed_of_prefixed hread h, ok_bind, if_neg hlacks]
    exact (strFrom_bind_eq_ok hread hlacks).mpr h

lemma hexNumber_ne_abort : hexNumber read j ≠ abort := by
  unfold hexNumber
  rw [Ne, bind_eq_abort]
  rintro (h | ⟨s, -, h⟩)
  · exact Json.borrowed_ne_abort j h
  · split at h
    · simp at h
    · next hlacks => exact strFrom_bind_ne_abort hlacks h

/-- **A byte string is read** from exactly the texts that say it after `0x`, and from those without
digits what no digits say. -/
lemma hexstring_eq_ok (hread : Reads read Says) :
    Hexstring.deserialize read (.str s) = .ok a ↔
      Prefixed Says s a ∨ LacksDigits s ∧ Json.borrowed (.str s) = .ok s ∧ Says [] a := by
  have hempty : read "" = .ok a ↔ Says [] a := hread.eq_ok
  unfold Hexstring.deserialize
  constructor
  · intro h
    obtain ⟨t, hborrowed, hbody⟩ := bind_eq_ok.mp h
    obtain rfl := Json.borrowed_eq_ok hborrowed
    split at hbody
    · next hlacks => exact .inr ⟨hlacks, hborrowed, hempty.mp (custom_eq_ok.mp hbody)⟩
    · next hlacks => exact .inl ((strFrom_bind_eq_ok hread hlacks).mp hbody)
  · rintro (h | ⟨hlacks, hborrowed, h⟩)
    · rw [borrowed_of_prefixed hread h, ok_bind]
      split
      · next hlacks => exact custom_eq_ok.mpr (hempty.mpr (lacksDigits_of_prefixed h hlacks))
      · next hlacks => exact (strFrom_bind_eq_ok hread hlacks).mpr h
    · rw [hborrowed, ok_bind, if_pos hlacks, custom_eq_ok, hempty]
      exact h

lemma hexstring_ne_abort : Hexstring.deserialize read j ≠ abort := by
  unfold Hexstring.deserialize
  rw [Ne, bind_eq_abort]
  rintro (h | ⟨s, -, h⟩)
  · exact Json.borrowed_ne_abort j h
  · split at h
    · exact custom_ne_abort _ h
    · next hlacks => exact strFrom_bind_ne_abort hlacks h

/-! ### Which digits -/

lemma escape_of_digit {c : Char} (h : (Hex.digitValue c).isSome) : Json.escape c = [c] := by
  have hrange := Hex.digitValue_range h
  refine Json.escape_of_plain ?_ ?_ (by omega) <;> rintro rfl <;> simp at hrange

lemma plain_of_natural {n : ℕ} (h : Hex.Natural digits n) : Plain digits := by
  intro c hc
  cases h with
  | bare h => exact escape_of_digit (h.isSome c hc)
  | plus h =>
    rcases List.mem_cons.mp hc with rfl | hc
    · decide
    · exact escape_of_digit (h.isSome c hc)

lemma plain_of_grouped {n : ℕ} (h : Hex.Grouped digits n) : Plain digits := by
  intro c hc
  by_cases hsep : c = '_'
  · subst hsep
    decide
  · exact escape_of_digit (h.2.isSome c (List.mem_filter.mpr ⟨hc, by simpa using hsep⟩))

lemma plain_cons {c : Char} (hc : Json.escape c = [c]) (h : Plain digits) :
    Plain (c :: digits) := by
  rintro d hd
  rcases List.mem_cons.mp hd with rfl | hd
  · exact hc
  · exact h d hd

lemma plain_of_integer {n : ℤ} (h : Hex.Integer digits n) : Plain digits := by
  cases h with
  | bare h => exact plain_of_grouped h
  | plus h => exact plain_cons (by decide) (plain_of_grouped h)
  | minus h => exact plain_cons (by decide) (plain_of_grouped h)

variable {X : Hex.Codec}

lemma reads_decode (hX : X.Lawful) : Reads X.decode Hex.Spells where
  eq_ok := hX.decode_eq_ok
  plain h c hc := escape_of_digit (h.isSome c hc)

lemma reads_decodeArray (hX : X.Lawful) (n : ℕ) :
    Reads (X.decodeArray n) fun text b => Hex.Spells text b.1 where
  eq_ok := hX.decodeArray_eq_ok
  plain h c hc := escape_of_digit (h.isSome c hc)

lemma reads_u64 : Reads Hex.u64OfHex fun text n => Hex.Natural text n.toNat where
  eq_ok := Hex.u64OfHex_eq_ok
  plain := plain_of_natural

lemma reads_toBigInt (hX : X.Lawful) : Reads X.toBigInt Hex.Integer where
  eq_ok := hX.toBigInt_eq_ok
  plain := plain_of_integer

/-! ### What is accepted -/

/-- The item is a byte string, but not one of `n` bytes. -/
def WrongSize (n : ℕ) (item : String) : Prop :=
  ∃ b, b ≠ [] ∧ b.length ≠ n ∧ Prefixed Hex.Spells item b

/-- The item is a byte string of `n` bytes. -/
def SpellsItem {n : ℕ} : String → FixedBytes n → Prop :=
  Prefixed fun text b => Hex.Spells text b.1

lemma spells_nil {b : Bytes} (h : Hex.Spells [] b) : b = [] := by
  cases h
  rfl

lemma hexItem_eq_ok (hX : X.Lawful) {n : ℕ} (hn : 0 < n) {item : String}
    (hsize : ¬ WrongSize n item) :
    hexItem X (fromBytes n) item ≠ abort ∧
      ∀ b, hexItem X (fromBytes n) item = .ok b ↔ SpellsItem item b := by
  unfold hexItem
  by_cases hlacks : LacksDigits item
  · rw [if_pos hlacks]
    refine ⟨by simp, fun b => iff_of_false (by simp) fun hitem => ?_⟩
    have hempty : b.1 = [] := spells_nil (lacksDigits_of_prefixed hitem hlacks)
    have hlen := b.2
    rw [hempty] at hlen
    exact hn.ne hlen
  obtain ⟨digits, hne, hs⟩ := not_lacksDigits.mp hlacks
  have hdecode_iff (b : Bytes) : X.decode (String.ofList digits) = .ok b ↔ Hex.Spells digits b :=
    (reads_decode hX).ofList_eq_ok
  rw [if_neg hlacks, strFrom_two hs, ok_bind]
  simp only [SpellsItem, prefixed_iff hs, ← hdecode_iff]
  rcases hdecode : X.decode (String.ofList digits) with e | decoded
  · exact ⟨by simp, fun b => iff_of_false (by simp) (by simp)⟩
  · have hdigits := (hdecode_iff decoded).mp hdecode
    have hlen : decoded.length = n := by
      by_contra hlen
      refine hsize ⟨decoded, ?_, hlen, digits, hs, hdigits⟩
      rintro rfl
      exact hne (List.length_eq_zero_iff.mp hdigits.length_eq)
    have hread : fromBytes n decoded = .ok ⟨decoded, hlen⟩ := fromBytes_val ⟨decoded, hlen⟩
    dsimp only
    rw [hread, mapErr_ok]
    refine ⟨by simp, fun b => ?_⟩
    rw [Except.ok.injEq, Except.ok.injEq, Subtype.ext_iff]

lemma hexvec_strings (X : Hex.Codec) (fromBytes : Bytes → Outcome Error α) (items : List String) :
    Hexvec.deserialize X fromBytes (Json.strings items) = items.mapM (hexItem X fromBytes) := by
  have hread : Json.vec Json.string (Json.strings items) = .ok items :=
    Json.vec_arr (fun s => (rfl : Json.string (.str s) = .ok s)) items
  rw [Hexvec.deserialize, hread, ok_bind]

lemma not_natural_nil {n : ℕ} : ¬ Hex.Natural [] n := by
  rintro ⟨⟨hne, -⟩⟩
  exact hne rfl

lemma not_integer_nil {n : ℤ} : ¬ Hex.Integer [] n := by
  rintro ⟨⟨-, hne, -⟩⟩
  exact hne rfl

lemma eq_of_prefixed_nil (h : Prefixed Hex.Spells s []) : s = "0x" := by
  obtain ⟨digits, hs, hspells⟩ := h
  cases hspells
  exact String.toList_injective hs

lemma hexstring_eq_nil (hX : X.Lawful) (hstart : s = "" ∨ ['0', 'x'] <+: s.toList) :
    Hexstring.deserialize X.decode (.str s) = .ok [] ↔ s = "" ∨ s = "0x" := by
  rw [hexstring_eq_ok (reads_decode hX)]
  constructor
  · rintro (h | ⟨hlacks, -, -⟩)
    · exact .inr (eq_of_prefixed_nil h)
    · rcases hstart with hs | ⟨digits, hs⟩
      · exact .inl hs
      · have hdigits : digits = [] := by
          by_contra hne
          exact not_lacksDigits.mpr ⟨digits, hne, hs.symm⟩ hlacks
        subst hdigits
        exact .inr (String.toList_injective hs.symm)
  · rintro (rfl | rfl)
    · exact .inr ⟨.inl (by decide), Json.borrowed_str (by simp), .nil⟩
    · exact .inl ⟨[], rfl, .nil⟩

/-- **Hex fields accept their grammar**: byte strings an even number of digits, numbers what the
parser of their type takes for one, and lists as many digits as their items have. What is said of a
list ends where an item of another size is reached. -/
theorem hexFields_grammar (hX : X.Lawful) :
    (∀ s, Hexstring.deserialize X.decode (.str s) ≠ abort ∧
      (∀ b, b ≠ [] →
        (Hexstring.deserialize X.decode (.str s) = .ok b ↔ Prefixed Hex.Spells s b)) ∧
      (s = "" ∨ ['0', 'x'] <+: s.toList →
        (Hexstring.deserialize X.decode (.str s) = .ok [] ↔ s = "" ∨ s = "0x"))) ∧
    (∀ s, Hexnum.deserialize (.str s) ≠ abort ∧
      ∀ n, Hexnum.deserialize (.str s) = .ok n ↔
        Prefixed (fun text n => Hex.Natural text n.toNat) s n) ∧
    (∀ s, Hexbigint.deserialize X (.str s) ≠ abort ∧
      ∀ n, Hexbigint.deserialize X (.str s) = .ok n ↔ Prefixed Hex.Integer s n) ∧
    ∀ n, 0 < n → ∀ items,
      ¬ Reaches (fun item => ∃ b : FixedBytes n, SpellsItem item b) (WrongSize n) items →
      Hexvec.deserialize X (fromBytes n) (Json.strings items) ≠ abort ∧
        ∀ l, Hexvec.deserialize X (fromBytes n) (Json.strings items) = .ok l ↔
          List.Forall₂ SpellsItem items l := by
  refine ⟨fun s => ⟨hexstring_ne_abort, fun b hb => ?_, hexstring_eq_nil hX⟩,
    fun s => ⟨hexNumber_ne_abort, fun n => hexNumber_eq_ok reads_u64 fun _ => not_natural_nil⟩,
    fun s => ⟨hexNumber_ne_abort,
      fun n => hexNumber_eq_ok (reads_toBigInt hX) fun _ => not_integer_nil⟩,
    fun n hn items hitems => ?_⟩
  · rw [hexstring_eq_ok (reads_decode hX)]
    refine or_iff_left ?_
    rintro ⟨-, -, h⟩
    exact hb (spells_nil h)
  · rw [hexvec_strings]
    exact mapM_of_not_reaches (fun item => hexItem_eq_ok hX hn) hitems

/-- Two bytes, alone and in a list, and a negative number. -/
theorem hexFields_grammar_digits :
    Hexstring.deserialize Hex.reference.decode (.str "0x0aFf") = .ok [0x0a, 0xff] ∧
      Hexnum.deserialize (.str "0xff") = .ok 0xff ∧
      Hexbigint.deserialize Hex.reference (.str "0x-5") = .ok (-5) ∧
      Hexvec.deserialize Hex.reference (fromBytes 2) (Json.strings ["0x0aFf"]) =
        .ok [⟨[0x0a, 0xff], rfl⟩] := by
  obtain ⟨hstring, hnum, hbigint, hvec⟩ := hexFields_grammar Hex.reference_lawful
  have hspells : Prefixed Hex.Spells "0x0aFf" [0x0a, 0xff] :=
    ⟨['0', 'a', 'F', 'f'], rfl, .cons rfl rfl (.cons rfl rfl .nil)⟩
  refine ⟨((hstring _).2.1 _ (by simp)).mpr hspells, ((hnum _).2 _).mpr ?_,
    ((hbigint _).2 _).mpr ?_, ((hvec 2 (by omega) ["0x0aFf"] ?_).2 _).mpr ?_⟩
  · exact ⟨['f', 'f'], rfl, .bare ⟨by simp, [15, 15], rfl, rfl⟩⟩
  · exact ⟨['-', '5'], rfl, .minus ⟨by simp, by simp, [5], rfl, rfl⟩⟩
  · rintro (⟨b, -, hsize, digits, hs, hdigits⟩ | ⟨-, h⟩)
    · have hlen : 6 = digits.length + 1 + 1 := congrArg List.length hs
      have htwo := hdigits.length_eq
      omega
    · exact h
  · exact .cons hspells .nil

/-- A plus sign is read in front of a word, and a sign or `_` in a big integer, although none of
these is a digit. Of a byte string without `0x` nothing is read, and a list aborts at an item that
is too short. -/
theorem hexFields_not_only_digits :
    Hexnum.deserialize (.str "0x+5") = .ok 5 ∧
      Hexbigint.deserialize Hex.reference (.str "0x-5") = .ok (-5) ∧
      Hexbigint.deserialize Hex.reference (.str "0x1_0") = .ok 16 ∧
      (∀ s ∈ ["0x+5", "0x-5", "0x1_0"], ∀ n, ¬ Prefixed Hex.Denotes s n) ∧
      Hexstring.deserialize Hex.reference.decode (.str "ab") = .ok [] ∧
      Hexvec.deserialize Hex.reference (fromBytes ADDRESS_LENGTH) (Json.strings ["0xab"]) =
        abort := by
  refine ⟨?_, ?_, ?_, ?_, ?_, ?_⟩
  · decide +kernel
  · decide +kernel
  · decide +kernel
  · intro s hs n
    rintro ⟨digits, hdigits, hdenotes⟩
    have hnot (c : Char) (hc : (Hex.digitValue c).isSome = false) (hmem : c ∈ s.toList.drop 2) :
        False := by
      rw [hdigits] at hmem
      simp [hdenotes.isSome c hmem] at hc
    simp only [List.mem_cons, List.not_mem_nil, or_false] at hs
    rcases hs with rfl | rfl | rfl
    · exact hnot '+' (by decide) (by decide)
    · exact hnot '-' (by decide) (by decide)
    · exact hnot '_' (by decide) (by decide)
  · decide +kernel
  · decide +kernel

end CeloLightClient

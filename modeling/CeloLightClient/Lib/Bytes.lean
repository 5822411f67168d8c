import Mathlib.Tactic
import Mathlib.Data.Nat.Digits.Lemmas

/-!
Byte strings, and numbers written in them most significant byte first.
-/

namespace CeloLightClient.Lib

abbrev Bytes := List UInt8

/-- `[u8; n]`. -/
abbrev FixedBytes (n : ℕ) := {b : Bytes // b.length = n}

/-- The array of `n` zero bytes. -/
def zeroBytes (n : ℕ) : FixedBytes n := ⟨List.replicate n 0, by simp⟩

/-- The number written in `b`. -/
def ofBytesBE (b : Bytes) : ℕ := Nat.ofDigits 256 (b.reverse.map UInt8.toNat)

/-- `n` in as few bytes as possible; none for zero. -/
def toBytesBE (n : ℕ) : Bytes := (Nat.digits 256 n).reverse.map UInt8.ofNat

@[simp] lemma toBytesBE_zero : toBytesBE 0 = [] := by simp [toBytesBE]

@[simp] lemma ofBytesBE_nil : ofBytesBE [] = 0 := rfl

lemma map_toNat_ofNat {l : List ℕ} (h : ∀ d ∈ l, d < 256) :
    (l.map UInt8.ofNat).map UInt8.toNat = l := by
  rw [List.map_map]
  refine (List.map_congr_left fun d hd => ?_).trans (List.map_id l)
  simp [Nat.mod_eq_of_lt (h d hd)]

@[simp] lemma ofBytesBE_toBytesBE (n : ℕ) : ofBytesBE (toBytesBE n) = n := by
  rw [ofBytesBE, toBytesBE, List.map_reverse, List.map_reverse, List.map_reverse,
    List.reverse_reverse,
    map_toNat_ofNat fun d hd => Nat.digits_lt_base (by omega) hd, Nat.ofDigits_digits]

lemma toBytesBE_injective : Function.Injective toBytesBE :=
  Function.LeftInverse.injective ofBytesBE_toBytesBE

@[simp] lemma toBytesBE_eq_nil {n : ℕ} : toBytesBE n = [] ↔ n = 0 := by
  refine ⟨fun h => ?_, by rintro rfl; simp⟩
  rw [← ofBytesBE_toBytesBE n, h, ofBytesBE_nil]

lemma length_toBytesBE_le {n k : ℕ} : (toBytesBE n).length ≤ k ↔ n < 256 ^ k := by
  simp [toBytesBE, Nat.digits_length_le_iff]

lemma head_toBytesBE_ne_zero {n : ℕ} {x : UInt8} {b : Bytes} (h : toBytesBE n = x :: b) :
    x ≠ 0 := by
  rintro rfl
  have hn : n ≠ 0 := by
    rintro rfl
    simp at h
  have hd : Nat.digits 256 n ≠ [] := Nat.digits_ne_nil_iff_ne_zero.mpr hn
  have hlast := Nat.getLast_digit_ne_zero 256 hn
  have hlt : (Nat.digits 256 n).getLast hd < 256 :=
    Nat.digits_lt_base (by omega) (List.getLast_mem hd)
  have hhead : (toBytesBE n).head? = some (UInt8.ofNat ((Nat.digits 256 n).getLast hd)) := by
    simp [toBytesBE, List.getLast?_eq_some_getLast hd]
  rw [h, List.head?_cons, Option.some.injEq] at hhead
  have := congrArg UInt8.toNat hhead
  simp [Nat.mod_eq_of_lt hlt] at this
  exact hlast this.symm

lemma toBytesBE_ofBytesBE {b : Bytes} (h : b.head? ≠ some 0) : toBytesBE (ofBytesBE b) = b := by
  rw [toBytesBE, ofBytesBE, Nat.digits_ofDigits 256 (by omega)]
  · simp [List.map_map, Function.comp_def]
  · intro d hd
    obtain ⟨x, -, rfl⟩ := List.mem_map.mp hd
    exact x.toNat_lt
  · intro hne hlast
    rcases b with _ | ⟨x, b⟩
    · simp at hne
    · have hx : x.toNat = 0 := by simpa [List.getLast_append] using hlast
      exact h (by simp [← UInt8.toNat_inj, hx])

/-! ### Text -/

/-- `str::as_bytes`. -/
def utf8 (s : String) : Bytes := s.toUTF8.data.toList

/-- `str::from_utf8`. -/
def ofUtf8 (b : Bytes) : Option String := String.fromUTF8? ⟨b.toArray⟩

@[simp] lemma ofUtf8_utf8 (s : String) : ofUtf8 (utf8 s) = some s := by
  simp only [ofUtf8, utf8, String.toUTF8, Array.toArray_toList, String.fromUTF8?]
  exact dif_pos s.isValidUTF8

lemma utf8_injective : Function.Injective utf8 := fun s t h => by
  have := congrArg ofUtf8 h
  simpa using this

lemma utf8_ofList (l : List Char) : utf8 (String.ofList l) = l.flatMap String.utf8EncodeChar := by
  simp [utf8, List.utf8Encode]

lemma utf8_eq_flatMap (s : String) : utf8 s = s.toList.flatMap String.utf8EncodeChar := by
  rw [← utf8_ofList, String.ofList_toList]

lemma length_le_utf8 (l : List Char) : l.length ≤ (utf8 (String.ofList l)).length := by
  rw [utf8_ofList]
  induction l with
  | nil => exact le_rfl
  | cons c l ih =>
    have hc : 0 < (String.utf8EncodeChar c).length := by
      rw [String.length_utf8EncodeChar]
      exact c.utf8Size_pos
    rw [List.flatMap_cons, List.length_append, List.length_cons]
    omega

lemma utf8_append (s t : String) : utf8 (s ++ t) = utf8 s ++ utf8 t := by simp [utf8]

lemma utf8EncodeChar_digit {c : Char} (h : c.isDigit = true) :
    String.utf8EncodeChar c = [UInt8.ofNat c.toNat] ∧ 0x30 ≤ UInt8.ofNat c.toNat ∧
      UInt8.ofNat c.toNat ≤ 0x39 ∧ (UInt8.ofNat c.toNat).toNat = c.toNat := by
  simp only [Char.isDigit, Bool.and_eq_true, decide_eq_true_iff] at h
  have hlow : 48 ≤ c.toNat := h.1
  have hhigh : c.toNat ≤ 57 := h.2
  have hbyte : (UInt8.ofNat c.toNat).toNat = c.toNat := by
    rw [UInt8.toNat_ofNat']
    omega
  refine ⟨?_, ?_, ?_, hbyte⟩
  · have hascii : c.toNat ≤ 127 := by omega
    unfold String.utf8EncodeChar
    exact if_pos hascii
  · rw [UInt8.le_iff_toNat_le, hbyte]
    exact hlow
  · rw [UInt8.le_iff_toNat_le, hbyte]
    exact hhigh

end CeloLightClient.Lib

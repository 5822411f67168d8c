import CeloLightClient.Lib.Bytes

/-!
Base64: three bytes as four characters of an alphabet of 64, with padding at the end.
-/

namespace CeloLightClient.Lib.Base64

/-- A library for the format. An error is the text it is displayed as. -/
structure Codec where
  encode : Bytes → String
  decode : String → Except String Bytes

/-- What was written is read back. -/
def Codec.Lawful (B : Codec) : Prop := ∀ b, B.decode (B.encode b) = .ok b

lemma Codec.Lawful.injective {B : Codec} (h : B.Lawful) : Function.Injective B.encode := by
  intro a b hab
  have hread := h a
  rw [hab, h b] at hread
  exact (Except.ok.inj hread).symm

/-! ### The format -/

def alphabet : List Char :=
  ['A', 'B', 'C', 'D', 'E', 'F', 'G', 'H', 'I', 'J', 'K', 'L', 'M', 'N', 'O', 'P', 'Q', 'R', 'S',
    'T', 'U', 'V', 'W', 'X', 'Y', 'Z', 'a', 'b', 'c', 'd', 'e', 'f', 'g', 'h', 'i', 'j', 'k', 'l',
    'm', 'n', 'o', 'p', 'q', 'r', 's', 't', 'u', 'v', 'w', 'x', 'y', 'z', '0', '1', '2', '3', '4',
    '5', '6', '7', '8', '9', '+', '/']

def digit (n : ℕ) : Char := alphabet.getD n '='

def digitValue (c : Char) : Option ℕ := alphabet.idxOf? c

def encodeChars : Bytes → List Char
  | [] => []
  | [a] =>
    let n := a.toNat * 16
    [digit (n / 64), digit (n % 64), '=', '=']
  | [a, b] =>
    let n := a.toNat * 1024 + b.toNat * 4
    [digit (n / 4096), digit (n / 64 % 64), digit (n % 64), '=']
  | a :: b :: c :: l =>
    let n := a.toNat * 65536 + b.toNat * 256 + c.toNat
    digit (n / 262144) :: digit (n / 4096 % 64) :: digit (n / 64 % 64) :: digit (n % 64) ::
      encodeChars l

/-- The bytes of four characters, of which the last two may be padding. The bits under the
padding have to be zero. -/
def decodeLast (c₀ c₁ c₂ c₃ : Char) : Option Bytes := do
  let x ← digitValue c₀
  let y ← digitValue c₁
  if c₃ = '=' then
    if c₂ = '=' then
      let n := x * 64 + y
      if n % 16 = 0 then some [UInt8.ofNat (n / 16)] else none
    else
      let z ← digitValue c₂
      let n := x * 4096 + y * 64 + z
      if n % 4 = 0 then some [UInt8.ofNat (n / 1024), UInt8.ofNat (n / 4 % 256)] else none
  else
    let z ← digitValue c₂
    let w ← digitValue c₃
    let n := x * 262144 + y * 4096 + z * 64 + w
    some [UInt8.ofNat (n / 65536), UInt8.ofNat (n / 256 % 256), UInt8.ofNat (n % 256)]

def decodeChars : List Char → Option Bytes
  | [] => some []
  | [c₀, c₁, c₂, c₃] => decodeLast c₀ c₁ c₂ c₃
  | c₀ :: c₁ :: c₂ :: c₃ :: l => do
    if c₃ = '=' then none
    else
      let b ← decodeLast c₀ c₁ c₂ c₃
      let rest ← decodeChars l
      some (b ++ rest)
  | _ => none

def reference : Codec where
  encode b := String.ofList (encodeChars b)
  decode s :=
    match decodeChars s.toList with
    | some b => .ok b
    | none => .error "Invalid base64."

/-! ### What was written is read back -/

lemma digitValue_digit : ∀ n < 64, digitValue (digit n) = some n := by decide

lemma digit_ne_pad : ∀ n < 64, digit n ≠ '=' := by decide

lemma decodeLast_of_ne_pad {c₀ c₁ c₂ c₃ : Char} {x y z w : ℕ} (hx : digitValue c₀ = some x)
    (hy : digitValue c₁ = some y) (hz : digitValue c₂ = some z) (hw : digitValue c₃ = some w)
    (hpad : c₃ ≠ '=') :
    decodeLast c₀ c₁ c₂ c₃ =
      let n := x * 262144 + y * 4096 + z * 64 + w
      some [UInt8.ofNat (n / 65536), UInt8.ofNat (n / 256 % 256), UInt8.ofNat (n % 256)] := by
  simp only [decodeLast, hx, hy, hz, hw, if_neg hpad, Option.bind_eq_bind, Option.bind_some]

/-- The bytes are the digits to base 256 of the number whose digits to base 64 are written. -/
lemma decodeLast_three (a b c : UInt8) :
    let n := a.toNat * 65536 + b.toNat * 256 + c.toNat
    decodeLast (digit (n / 262144)) (digit (n / 4096 % 64)) (digit (n / 64 % 64))
      (digit (n % 64)) = some [a, b, c] := by
  have ha := a.toNat_lt
  have hb := b.toNat_lt
  have hc := c.toNat_lt
  intro n
  have hn : n = a.toNat * 65536 + b.toNat * 256 + c.toNat := rfl
  clear_value n
  have hsum : n / 262144 * 262144 + n / 4096 % 64 * 4096 + n / 64 % 64 * 64 + n % 64 = n := by
    omega
  rw [decodeLast_of_ne_pad (digitValue_digit _ (by omega)) (digitValue_digit _ (by omega))
    (digitValue_digit _ (by omega)) (digitValue_digit _ (by omega)) (digit_ne_pad _ (by omega))]
  simp only [hsum]
  rw [show n / 65536 = a.toNat by omega, show n / 256 % 256 = b.toNat by omega,
    show n % 256 = c.toNat by omega]
  simp

lemma decodeLast_two (a b : UInt8) :
    let n := a.toNat * 1024 + b.toNat * 4
    decodeLast (digit (n / 4096)) (digit (n / 64 % 64)) (digit (n % 64)) '=' = some [a, b] := by
  have ha := a.toNat_lt
  have hb := b.toNat_lt
  intro n
  have hn : n = a.toNat * 1024 + b.toNat * 4 := rfl
  clear_value n
  have hsum : n / 4096 * 4096 + n / 64 % 64 * 64 + n % 64 = n := by omega
  simp only [decodeLast, digitValue_digit (n / 4096) (by omega),
    digitValue_digit (n / 64 % 64) (by omega), digitValue_digit (n % 64) (by omega),
    digit_ne_pad (n % 64) (by omega), if_true, if_false, Option.bind_eq_bind, Option.bind_some,
    hsum]
  rw [if_pos (by omega), show n / 1024 = a.toNat by omega, show n / 4 % 256 = b.toNat by omega]
  simp

lemma decodeLast_one (a : UInt8) :
    let n := a.toNat * 16
    decodeLast (digit (n / 64)) (digit (n % 64)) '=' '=' = some [a] := by
  have ha := a.toNat_lt
  intro n
  have hn : n = a.toNat * 16 := rfl
  clear_value n
  have hsum : n / 64 * 64 + n % 64 = n := by omega
  simp only [decodeLast, digitValue_digit (n / 64) (by omega),
    digitValue_digit (n % 64) (by omega), if_true, Option.bind_eq_bind, Option.bind_some, hsum]
  rw [if_pos (by omega), show n / 16 = a.toNat by omega]
  simp

lemma decodeChars_encodeChars (b : Bytes) : decodeChars (encodeChars b) = some b := by
  induction b using encodeChars.induct with
  | case1 => rfl
  | case2 a => exact decodeLast_one a
  | case3 a b => exact decodeLast_two a b
  | case4 a b c l ih =>
    have hlast := decodeLast_three a b c
    have hpad := digit_ne_pad ((a.toNat * 65536 + b.toNat * 256 + c.toNat) % 64) (by omega)
    rcases hl : encodeChars l with _ | ⟨x, m⟩
    · rw [hl] at ih
      simp only [encodeChars, hl, decodeChars]
      rw [hlast]
      simpa [decodeChars] using ih
    · rw [hl] at ih
      simp only [encodeChars, hl, decodeChars, hpad, if_false]
      rw [hlast, ih]
      rfl

/-- **The format is lawful.** -/
theorem reference_lawful : reference.Lawful := by
  intro b
  simp [reference, decodeChars_encodeChars]

end CeloLightClient.Lib.Base64

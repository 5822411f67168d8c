import CeloLightClient.Lib.Bytes

/-!
Byte strings and numbers in hexadecimal.

What a text says is a relation: two digits for each byte of a string, and one digit or more for a
number, which may have a sign in front of it or `_` between its digits. A library is lawful when it
reads what the relation says, and writes what can be read.
-/

namespace CeloLightClient.Lib.Hex

/-- The value of a digit, of either case. -/
def digitValue (c : Char) : Option ℕ :=
  if '0'.toNat ≤ c.toNat ∧ c.toNat ≤ '9'.toNat then some (c.toNat - '0'.toNat)
  else if 'a'.toNat ≤ c.toNat ∧ c.toNat ≤ 'f'.toNat then some (c.toNat - 'a'.toNat + 10)
  else if 'A'.toNat ≤ c.toNat ∧ c.toNat ≤ 'F'.toNat then some (c.toNat - 'A'.toNat + 10)
  else none

/-! ### What a text says -/

/-- Two digits for each byte. -/
inductive Spells : List Char → Bytes → Prop
  | nil : Spells [] []
  | cons {c d : Char} {x : UInt8} {text : List Char} {b : Bytes}
    (high : digitValue c = some (x.toNat / 16)) (low : digitValue d = some (x.toNat % 16))
    (rest : Spells text b) : Spells (c :: d :: text) (x :: b)

/-- One digit or more, and the number they denote. -/
def Denotes (text : List Char) (n : ℕ) : Prop :=
  text ≠ [] ∧ ∃ digits : List ℕ,
    text.map digitValue = digits.map some ∧ Nat.ofDigits 16 digits.reverse = n

/-- A number that may have a plus sign. -/
inductive Natural : List Char → ℕ → Prop
  | bare {text : List Char} {n : ℕ} (h : Denotes text n) : Natural text n
  | plus {text : List Char} {n : ℕ} (h : Denotes text n) : Natural ('+' :: text) n

/-- A number with `_` among its digits, but not before them. -/
def Grouped (text : List Char) (n : ℕ) : Prop :=
  text.head? ≠ some '_' ∧ Denotes (text.filter (· ≠ '_')) n

/-- Such a number, which may have a sign. -/
inductive Integer : List Char → ℤ → Prop
  | bare {text : List Char} {n : ℕ} (h : Grouped text n) : Integer text n
  | plus {text : List Char} {n : ℕ} (h : Grouped text n) : Integer ('+' :: text) n
  | minus {text : List Char} {n : ℕ} (h : Grouped text n) : Integer ('-' :: text) (-n)

lemma digitValue_range {c : Char} (h : (digitValue c).isSome) :
    0x30 ≤ c.toNat ∧ c.toNat ≤ 0x39 ∨ 0x61 ≤ c.toNat ∧ c.toNat ≤ 0x66 ∨
      0x41 ≤ c.toNat ∧ c.toNat ≤ 0x46 := by
  unfold digitValue at h
  split at h
  · next hdigit => exact .inl hdigit
  split at h
  · next hlower => exact .inr (.inl hlower)
  split at h
  · next hupper => exact .inr (.inr hupper)
  · simp at h

lemma digitValue_lt {c : Char} {d : ℕ} (h : digitValue c = some d) : d < 16 := by
  have hrange := digitValue_range (h ▸ Option.isSome_some : (digitValue c).isSome)
  unfold digitValue at h
  simp only [Char.reduceToNat] at h
  split at h
  · cases h
    omega
  split at h <;> simp at h <;> omega

lemma digitValue_digitChar : ∀ d < 16, digitValue (Nat.digitChar d) = some d := by decide

lemma Denotes.isSome {text : List Char} {n : ℕ} (h : Denotes text n) :
    ∀ c ∈ text, (digitValue c).isSome := by
  obtain ⟨-, digits, hdigits, -⟩ := h
  intro c hc
  have hmem : digitValue c ∈ digits.map some := hdigits ▸ List.mem_map_of_mem hc
  obtain ⟨d, -, hd⟩ := List.mem_map.mp hmem
  rw [← hd]
  rfl

lemma Spells.isSome {text : List Char} {b : Bytes} (h : Spells text b) :
    ∀ c ∈ text, (digitValue c).isSome := by
  induction h with
  | nil => simp
  | cons high low rest ih => simpa [high, low] using ih

lemma Spells.length_eq {text : List Char} {b : Bytes} (h : Spells text b) :
    text.length = 2 * b.length := by
  induction h with
  | nil => rfl
  | cons high low rest ih =>
    simp only [List.length_cons, ih]
    omega

lemma Denotes.grouped {text : List Char} {n : ℕ} (h : Denotes text n) : Grouped text n := by
  have hne : ∀ c ∈ text, c ≠ '_' := by
    rintro c hc rfl
    exact absurd (h.isSome _ hc) (by decide)
  constructor
  · intro hhead
    exact hne '_' (List.mem_of_head? hhead) rfl
  · rwa [List.filter_eq_self.mpr (by simpa using hne)]

lemma Denotes.concat {text : List Char} {n d : ℕ} {c : Char} (h : Denotes text n)
    (hc : digitValue c = some d) : Denotes (text ++ [c]) (d + 16 * n) := by
  obtain ⟨-, digits, hdigits, rfl⟩ := h
  refine ⟨by simp, digits ++ [d], by simp [hdigits, hc], ?_⟩
  rw [List.reverse_concat, Nat.ofDigits_cons]

lemma denotes_singleton {c : Char} {d : ℕ} (h : digitValue c = some d) : Denotes [c] d :=
  ⟨by simp, [d], by simp [h], by simp⟩

lemma Denotes.unique {text : List Char} {n m : ℕ} (hn : Denotes text n) (hm : Denotes text m) :
    n = m := by
  obtain ⟨-, digits, hdigits, rfl⟩ := hn
  obtain ⟨-, digits', hdigits', rfl⟩ := hm
  have heq : digits.map some = digits'.map some := hdigits.symm.trans hdigits'
  rw [List.map_inj_right (fun _ _ => Option.some.inj) |>.mp heq]

lemma denotes_toDigits (n : ℕ) : Denotes (Nat.toDigits 16 n) n := by
  induction n using Nat.strong_induction_on with
  | _ n ih =>
    have hlast := digitValue_digitChar (n % 16) (Nat.mod_lt _ (by omega))
    rcases Nat.lt_or_ge n 16 with hlt | hge
    · rw [Nat.toDigits_of_lt_base hlt]
      exact denotes_singleton (digitValue_digitChar n hlt)
    · rw [Nat.toDigits_of_base_le (by omega) hge]
      have hdigits := (ih (n / 16) (by omega)).concat hlast
      rwa [Nat.mod_add_div] at hdigits

lemma toDigits_injective : Function.Injective (Nat.toDigits 16) :=
  fun n m h => (denotes_toDigits n).unique (h ▸ denotes_toDigits m)

/-! ### Words -/

/-- The digits of a word are taken one by one, as long as what they denote is a word. -/
def u64Loop (n : ℕ) : List Char → Except String ℕ
  | [] => .ok n
  | c :: text =>
    match digitValue c with
    | none => .error "invalid digit found in string"
    | some d =>
      if n * 16 + d < 2 ^ 64 then u64Loop (n * 16 + d) text
      else .error "number too large to fit in target type"

/-- `u64::from_str_radix(s, 16)`. -/
def u64OfHex (s : String) : Except String UInt64 :=
  match s.toList with
  | [] => .error "cannot parse integer from empty string"
  | ['+'] => .error "invalid digit found in string"
  | '+' :: text => (u64Loop 0 text).map UInt64.ofNat
  | text => (u64Loop 0 text).map UInt64.ofNat

/-- `{:x}`. -/
def u64ToHex (n : UInt64) : String := String.ofList (Nat.toDigits 16 n.toNat)

lemma natural_u64ToHex (n : UInt64) : Natural (u64ToHex n).toList n.toNat := by
  rw [u64ToHex, String.toList_ofList]
  exact .bare (denotes_toDigits _)

lemma le_foldl_digits (n : ℕ) (digits : List ℕ) :
    n ≤ digits.foldl (fun n d => n * 16 + d) n := by
  induction digits generalizing n with
  | nil => exact le_rfl
  | cons d digits ih =>
    have htail := ih (n * 16 + d)
    rw [List.foldl_cons]
    omega

lemma map_digitValue_cons {c : Char} {text : List Char} {digits : List ℕ} :
    (c :: text).map digitValue = digits.map some ↔
      ∃ d tail, digitValue c = some d ∧ text.map digitValue = tail.map some ∧
        digits = d :: tail := by
  rw [List.map_cons]
  constructor
  · intro h
    obtain ⟨d, tail, rfl, hd, htail⟩ := List.map_eq_cons_iff.mp h.symm
    exact ⟨d, tail, hd.symm, htail.symm, rfl⟩
  · rintro ⟨d, tail, hd, htail, rfl⟩
    rw [hd, htail, List.map_cons]

lemma u64Loop_eq_ok {text : List Char} {n m : ℕ} (hn : n < 2 ^ 64) :
    u64Loop n text = .ok m ↔
      m < 2 ^ 64 ∧ ∃ digits : List ℕ, text.map digitValue = digits.map some ∧
        digits.foldl (fun n d => n * 16 + d) n = m := by
  induction text generalizing n with
  | nil =>
    simp only [u64Loop, Except.ok.injEq, List.map_nil, List.nil_eq, List.map_eq_nil_iff]
    constructor
    · rintro rfl
      exact ⟨hn, [], rfl, rfl⟩
    · rintro ⟨-, _, rfl, h⟩
      exact h
  | cons c text ih =>
    simp only [map_digitValue_cons]
    rw [u64Loop]
    cases hc : digitValue c with
    | none => simp
    | some d =>
      dsimp only
      split
      · next hlt =>
        rw [ih hlt]
        constructor
        · rintro ⟨hm, tail, htail, hfold⟩
          exact ⟨hm, d :: tail, ⟨d, tail, rfl, htail, rfl⟩, hfold⟩
        · rintro ⟨hm, _, ⟨_, tail, ⟨⟩, htail, rfl⟩, hfold⟩
          exact ⟨hm, tail, htail, hfold⟩
      · next hge =>
        simp only [reduceCtorEq, false_iff]
        rintro ⟨hm, _, ⟨_, tail, ⟨⟩, -, rfl⟩, rfl⟩
        have hle := le_foldl_digits (n * 16 + d) tail
        rw [List.foldl_cons] at hm
        omega

lemma ofDigits_reverse_eq_foldl (digits : List ℕ) :
    Nat.ofDigits 16 digits.reverse = digits.foldl (fun n d => n * 16 + d) 0 := by
  rw [Nat.ofDigits_eq_foldr, List.foldr_reverse]
  congr
  funext n d
  simp only [Nat.cast_id]
  omega

lemma map_u64Loop_eq_ok {text : List Char} {n : UInt64} (hne : text ≠ []) :
    (u64Loop 0 text).map UInt64.ofNat = .ok n ↔ Denotes text n.toNat := by
  have hmap : (u64Loop 0 text).map UInt64.ofNat = .ok n ↔ u64Loop 0 text = .ok n.toNat := by
    cases hloop : u64Loop 0 text with
    | error e => simp [Except.map]
    | ok m =>
      have hm := ((u64Loop_eq_ok (by omega)).mp hloop).1
      simp only [Except.map, Except.ok.injEq]
      rw [← UInt64.toNat_inj, UInt64.toNat_ofNat', Nat.mod_eq_of_lt hm]
  rw [hmap, u64Loop_eq_ok (by omega)]
  simp only [Denotes, ofDigits_reverse_eq_foldl]
  exact and_congr_left' (iff_of_true n.toNat_lt hne)

/-- **Exactly the natural numbers are read that are words.** -/
theorem u64OfHex_eq_ok {s : String} {n : UInt64} :
    u64OfHex s = .ok n ↔ Natural s.toList n.toNat := by
  have hsign {n : ℕ} {text : List Char} : ¬ Denotes ('+' :: text) n := fun h =>
    absurd (h.isSome '+' (by simp)) (by decide)
  unfold u64OfHex
  split
  · next hs =>
    rw [hs]
    simp only [reduceCtorEq, false_iff]
    rintro ⟨hne, -⟩
    exact hne rfl
  · next hs =>
    rw [hs]
    simp only [reduceCtorEq, false_iff]
    rintro (h | h)
    · exact hsign h
    · exact h.1 rfl
  · next text hne hs =>
    rw [hs, map_u64Loop_eq_ok (by simpa using hne)]
    constructor
    · exact .plus
    · rintro (h | h)
      · exact absurd h hsign
      · exact h
  · next hne hplus hs =>
    rw [map_u64Loop_eq_ok hne]
    constructor
    · exact .bare
    · intro h
      cases hlist : s.toList with
      | nil => exact absurd hlist hne
      | cons c text =>
        rw [hlist] at h
        cases h with
        | bare h => exact h
        | plus h => exact absurd hlist (hs _)

example : u64OfHex "+1F" = .ok 31 := by decide

/-! ### Libraries -/

/-- What reads and writes byte strings and big integers. An error is the text it is displayed
as. -/
structure Codec where
  /-- `hex::encode`. -/
  encode : Bytes → String
  /-- `FromHex::from_hex` of a vector, and of an array. -/
  decode : String → Except String Bytes
  decodeArray : (n : ℕ) → String → Except String (FixedBytes n)
  /-- `{:x}` of a big integer. -/
  ofBigInt : ℤ → String
  /-- `BigInt::from_str_radix(s, 16)`. -/
  toBigInt : String → Except String ℤ

structure Codec.Lawful (X : Codec) : Prop where
  encode_spells (b : Bytes) : Spells (X.encode b).toList b
  decode_eq_ok {s : String} {b : Bytes} : X.decode s = .ok b ↔ Spells s.toList b
  decodeArray_eq_ok {n : ℕ} {s : String} {b : FixedBytes n} :
    X.decodeArray n s = .ok b ↔ Spells s.toList b.1
  ofBigInt_integer (z : ℤ) : Integer (X.ofBigInt z).toList z
  toBigInt_eq_ok {s : String} {z : ℤ} : X.toBigInt s = .ok z ↔ Integer s.toList z

/-- The digits of a byte. -/
def byteDigits (x : UInt8) : List Char :=
  [Nat.digitChar (x.toNat / 16), Nat.digitChar (x.toNat % 16)]

def readBytes : List Char → Except String Bytes
  | [] => .ok []
  | [_] => .error "Odd number of digits"
  | c :: d :: text =>
    match digitValue c, digitValue d with
    | some high, some low => (readBytes text).map (UInt8.ofNat (high * 16 + low) :: ·)
    | _, _ => .error "Invalid character"

/-- The number of the text, after its sign. -/
def readMagnitude (text : List Char) : Except String ℕ :=
  if text.head? = some '_' then .error "invalid digit found in string"
  else if text.filter (· ≠ '_') = [] then .error "cannot parse integer from empty string"
  else
    match (text.filter (· ≠ '_')).mapM digitValue with
    | some digits => .ok (Nat.ofDigits 16 digits.reverse)
    | none => .error "invalid digit found in string"

def reference : Codec where
  encode b := String.ofList (b.flatMap byteDigits)
  decode s := readBytes s.toList
  decodeArray n s := do
    let b ← readBytes s.toList
    if h : b.length = n then .ok ⟨b, h⟩ else .error "Invalid string length"
  ofBigInt z :=
    if z < 0 then String.ofList ('-' :: Nat.toDigits 16 z.natAbs)
    else String.ofList (Nat.toDigits 16 z.natAbs)
  toBigInt s :=
    match s.toList with
    | '-' :: text => (readMagnitude text).map fun n : ℕ => -(n : ℤ)
    | '+' :: text => (readMagnitude text).map fun n : ℕ => (n : ℤ)
    | text => (readMagnitude text).map fun n : ℕ => (n : ℤ)

lemma map_eq_ok {α β : Type} {f : α → β} {x : Except String α} {b : β} :
    x.map f = .ok b ↔ ∃ a, x = .ok a ∧ f a = b := by
  cases x <;> simp [Except.map]

lemma spells_byteDigits (b : Bytes) : Spells (b.flatMap byteDigits) b := by
  induction b with
  | nil => exact .nil
  | cons x b ih =>
    have hx := x.toNat_lt
    exact .cons (digitValue_digitChar _ (by omega)) (digitValue_digitChar _ (by omega)) ih

lemma readBytes_eq_ok {text : List Char} {b : Bytes} : readBytes text = .ok b ↔ Spells text b := by
  constructor
  · intro h
    induction text using readBytes.induct generalizing b with
    | case1 =>
      cases h
      exact .nil
    | case2 => simp [readBytes] at h
    | case3 c d text high low hd hc ih =>
      simp only [readBytes, hc, hd, map_eq_ok] at h
      obtain ⟨rest, hrest, rfl⟩ := h
      have hhigh := digitValue_lt hc
      have hlow := digitValue_lt hd
      have hbyte : (UInt8.ofNat (high * 16 + low)).toNat = high * 16 + low := by
        rw [UInt8.toNat_ofNat']
        omega
      refine .cons ?_ ?_ (ih hrest)
      · rw [hbyte, hc]
        congr
        omega
      · rw [hbyte, hd]
        congr
        omega
    | case4 c d text hdigits => simp [readBytes] at h
  · intro h
    induction h with
    | nil => rfl
    | @cons c d x text b high low rest ih =>
      have hbyte : x.toNat / 16 * 16 + x.toNat % 16 = x.toNat := by omega
      simp only [readBytes, high, low, ih, Except.map, hbyte, UInt8.ofNat_toNat]

lemma mapM_digitValue_eq_some {text : List Char} {digits : List ℕ} :
    text.mapM digitValue = some digits ↔ text.map digitValue = digits.map some := by
  induction text generalizing digits with
  | nil => cases digits <;> simp
  | cons c text ih =>
    rw [map_digitValue_cons, List.mapM_cons]
    simp only [Option.bind_eq_bind, Option.bind_eq_some_iff, Option.pure_def, Option.some.injEq, ih]
    constructor
    · rintro ⟨d, hd, tail, htail, rfl⟩
      exact ⟨d, tail, hd, htail, rfl⟩
    · rintro ⟨d, tail, hd, htail, rfl⟩
      exact ⟨d, hd, tail, htail, rfl⟩

lemma readMagnitude_eq_ok {text : List Char} {n : ℕ} :
    readMagnitude text = .ok n ↔ Grouped text n := by
  unfold readMagnitude Grouped Denotes
  simp only [← mapM_digitValue_eq_some]
  generalize text.filter (· ≠ '_') = body
  split
  · next h => simp only [h, ne_eq, not_true, false_and, reduceCtorEq]
  split
  · next h => simp only [h, ne_eq, not_true, false_and, and_false, reduceCtorEq]
  · next hhead hne => cases body.mapM digitValue <;> simp [hhead, hne]

lemma map_readMagnitude_eq_ok {text : List Char} {f : ℕ → ℤ} {z : ℤ} :
    (readMagnitude text).map f = .ok z ↔ ∃ n, Grouped text n ∧ f n = z := by
  simp only [map_eq_ok, readMagnitude_eq_ok]

lemma Grouped.head_ne {text : List Char} {n : ℕ} {c : Char} (hdigit : digitValue c = none) :
    ¬ Grouped (c :: text) n := by
  rintro ⟨hhead, hdenotes⟩
  have hc : c ≠ '_' := by simpa using hhead
  have hsome := hdenotes.isSome c (List.mem_filter.mpr ⟨by simp, by simpa using hc⟩)
  simp [hdigit] at hsome

lemma integer_minus {text : List Char} {z : ℤ} :
    Integer ('-' :: text) z ↔ ∃ n : ℕ, Grouped text n ∧ -(n : ℤ) = z := by
  constructor
  · rintro (h | h | h)
    · exact absurd h (Grouped.head_ne (by decide))
    · exact ⟨_, h, rfl⟩
  · rintro ⟨n, h, rfl⟩
    exact .minus h

lemma integer_plus {text : List Char} {z : ℤ} :
    Integer ('+' :: text) z ↔ ∃ n : ℕ, Grouped text n ∧ (n : ℤ) = z := by
  constructor
  · rintro (h | h | h)
    · exact absurd h (Grouped.head_ne (by decide))
    · exact ⟨_, h, rfl⟩
  · rintro ⟨n, h, rfl⟩
    exact .plus h

lemma integer_bare {text : List Char} {z : ℤ} (hminus : ∀ tail, text ≠ '-' :: tail)
    (hplus : ∀ tail, text ≠ '+' :: tail) :
    Integer text z ↔ ∃ n : ℕ, Grouped text n ∧ (n : ℤ) = z := by
  constructor
  · intro h
    cases h with
    | bare h => exact ⟨_, h, rfl⟩
    | plus h => exact absurd rfl (hplus _)
    | minus h => exact absurd rfl (hminus _)
  · rintro ⟨n, h, rfl⟩
    exact .bare h

lemma reference_decodeArray_eq_ok {n : ℕ} {s : String} {b : FixedBytes n} :
    reference.decodeArray n s = .ok b ↔ Spells s.toList b.1 := by
  rw [← readBytes_eq_ok]
  simp only [reference]
  cases readBytes s.toList with
  | error e => simp [bind, Except.bind]
  | ok c =>
    simp only [bind, Except.bind, Except.ok.injEq]
    split
    · simp [Subtype.ext_iff]
    · next hlen =>
      simp only [reduceCtorEq, false_iff]
      rintro rfl
      exact hlen b.2

theorem reference_lawful : reference.Lawful where
  encode_spells b := by
    rw [reference, String.toList_ofList]
    exact spells_byteDigits b
  decode_eq_ok := readBytes_eq_ok
  decodeArray_eq_ok := reference_decodeArray_eq_ok
  ofBigInt_integer z := by
    have hdigits := (denotes_toDigits z.natAbs).grouped
    simp only [reference]
    split
    · next hneg =>
      have hz : -(z.natAbs : ℤ) = z := by omega
      rw [String.toList_ofList, integer_minus]
      exact ⟨_, hdigits, hz⟩
    · next hpos =>
      have hz : (z.natAbs : ℤ) = z := by omega
      have h := Integer.bare hdigits
      rwa [hz, ← String.toList_ofList (l := Nat.toDigits _ _)] at h
  toBigInt_eq_ok := by
    intro s z
    simp only [reference]
    split
    · next text hs => rw [hs, map_readMagnitude_eq_ok, integer_minus]
    · next text hs => rw [hs, map_readMagnitude_eq_ok, integer_plus]
    · next hminus hplus => rw [map_readMagnitude_eq_ok, integer_bare hminus hplus]

end CeloLightClient.Lib.Hex

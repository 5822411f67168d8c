import CeloLightClient.Lib.Deserialize
import CeloLightClient.Lib.Hex
import Mathlib.Data.List.TakeWhile

/-!
Reading JSON texts.

A scan takes a value off the front of a text and leaves what follows it. Of the numbers it takes
the integers, and of the characters that are written by number those that have one number.
-/

namespace CeloLightClient.Lib.Json

open Outcome

abbrev Scan (α : Type) := List Char → Option (α × List Char)

def isSpace (c : Char) : Bool := c = ' ' ∨ c = '\n' ∨ c = '\r' ∨ c = '\t'

def skipSpace (text : List Char) : List Char := text.dropWhile isSpace

/-- The character that is written as a backslash and the letter `c`. -/
def escapedAs (c : Char) : Option Char :=
  if c = '\x22' ∨ c = '\x5c' ∨ c = '/' then some c
  else if c = 'b' then some '\x08'
  else if c = 'f' then some '\x0c'
  else if c = 'n' then some '\n'
  else if c = 'r' then some '\r'
  else if c = 't' then some '\t'
  else none

/-- The character with this number. -/
def charAt (digits : List Char) : Option Char := do
  let digits ← digits.mapM Hex.digitValue
  if (Nat.ofDigits 16 digits.reverse).isValidChar then
    some (Char.ofNat (Nat.ofDigits 16 digits.reverse))
  else none

/-- A string, after the quote in front of it. -/
def scanChars : Scan (List Char)
  | [] => none
  | '\x22' :: rest => some ([], rest)
  | '\x5c' :: 'u' :: a :: b :: c :: d :: rest => do
    let head ← charAt [a, b, c, d]
    let tail ← scanChars rest
    some (head :: tail.1, tail.2)
  | '\x5c' :: c :: rest => do
    let head ← escapedAs c
    let tail ← scanChars rest
    some (head :: tail.1, tail.2)
  | c :: rest =>
    if c.toNat < 0x20 then none
    else do
      let tail ← scanChars rest
      some (c :: tail.1, tail.2)

/-- The digits of a number, of which the first is a zero only if it is the last. -/
def scanNat (text : List Char) : Option (ℕ × List Char) :=
  let digits := text.takeWhile Char.isDigit
  if digits = [] ∨ (digits.head? = some '0' ∧ digits ≠ ['0']) then none
  else some (Nat.ofDigitChars 10 digits 0, text.drop digits.length)

def scanInt : Scan ℤ
  | '-' :: rest => (scanNat rest).map fun n => (-(n.1 : ℤ), n.2)
  | text => (scanNat text).map fun n => ((n.1 : ℤ), n.2)

/-- The word, which stands for `a`. -/
def scanWord {α : Type} (word : List Char) (a : α) : Scan α := fun text =>
  if word <+: text then some (a, text.drop word.length) else none

/-- Items with commas between them, up to the character `close`. -/
def scanItems {α : Type} (item : Scan α) (close : Char) : ℕ → Scan (List α)
  | 0, _ => none
  | fuel + 1, text => do
    let first ← item text
    match skipSpace first.2 with
    | [] => none
    | c :: rest =>
      if c = close then some ([first.1], rest)
      else if c = ',' then do
        let others ← scanItems item close fuel rest
        some (first.1 :: others.1, others.2)
      else none

/-- A list of items, after the character that opens it. -/
def scanList {α : Type} (item : Scan α) (close : Char) (fuel : ℕ) (text : List Char) :
    Option (List α × List Char) :=
  match skipSpace text with
  | [] => none
  | c :: rest => if c = close then some ([], rest) else scanItems item close fuel (c :: rest)

/-- A field of an object. -/
def scanField (value : Scan Json) : Scan (String × Json) := fun text =>
  match skipSpace text with
  | '\x22' :: rest => do
    let name ← scanChars rest
    match skipSpace name.2 with
    | ':' :: rest => do
      let j ← value rest
      some ((String.ofList name.1, j.1), j.2)
    | _ => none
  | _ => none

/-- A value, which tells by its first character what it is. -/
def scan : ℕ → Scan Json
  | 0, _ => none
  | fuel + 1, text =>
    match skipSpace text with
    | [] => none
    | c :: rest =>
      if c = 'n' then scanWord ['u', 'l', 'l'] .null rest
      else if c = 't' then scanWord ['r', 'u', 'e'] (.bool true) rest
      else if c = 'f' then scanWord ['a', 'l', 's', 'e'] (.bool false) rest
      else if c = '\x22' then
        (scanChars rest).map fun s => (.str (String.ofList s.1), s.2)
      else if c = '[' then
        (scanList (scan fuel) ']' fuel rest).map fun l => (.arr l.1, l.2)
      else if c = '\x7b' then
        (scanList (scanField (scan fuel)) '\x7d' fuel rest).map fun l => (.obj l.1, l.2)
      else (scanInt (c :: rest)).map fun n => (.num n.1, n.2)

/-- The value of a whole text. -/
def ofSlice (b : Bytes) : Option Json := do
  let s ← ofUtf8 b
  let j ← scan (s.toList.length + 1) s.toList
  if skipSpace j.2 = [] then some j.1 else none

/-! ### Reading what was written -/

/-- What may follow a value. -/
def Ends (rest : List Char) : Prop :=
  ∀ c ∈ rest.head?, c = ',' ∨ c = ']' ∨ c = '\x7d' ∨ isSpace c = true

lemma Ends.endsNumber {rest : List Char} (h : Ends rest) : EndsNumber rest := by
  intro c hc
  rcases h c hc with rfl | rfl | rfl | hspace
  · decide
  · decide
  · decide
  · obtain rfl | rfl | rfl | rfl := of_decide_eq_true hspace <;> decide

lemma skipSpace_cons {c : Char} {rest : List Char} (h : isSpace c = false) :
    skipSpace (c :: rest) = c :: rest := by
  simp [skipSpace, h]

lemma digitValue_hexDigit : ∀ d < 16, Hex.digitValue (hexDigit d) = some d := by decide

lemma charAt_escape {c : Char} (h : c.toNat < 0x20) :
    charAt ['0', '0', hexDigit (c.toNat / 16), hexDigit (c.toNat % 16)] = some c := by
  have hhigh := digitValue_hexDigit (c.toNat / 16) (by omega)
  have hlow := digitValue_hexDigit (c.toNat % 16) (by omega)
  have hzero : Hex.digitValue '0' = some 0 := by decide
  have hvalue : Nat.ofDigits 16 [0, 0, c.toNat / 16, c.toNat % 16].reverse = c.toNat := by
    simp only [List.reverse_cons, List.reverse_nil, List.nil_append, List.cons_append,
      Nat.ofDigits_cons, Nat.ofDigits_nil]
    omega
  simp only [charAt, List.mapM_cons, List.mapM_nil, hzero, hhigh, hlow,
    Option.bind_eq_bind, Option.bind_some, Option.pure_def, hvalue, Char.ofNat_toNat]
  exact if_pos c.valid

lemma scanChars_escape (c : Char) (text : List Char) :
    scanChars (escape c ++ text) = (scanChars text).map fun tail => (c :: tail.1, tail.2) := by
  rcases htext : scanChars text with _ | tail
  all_goals
    unfold escape
    split
    · next hc => rcases hc with rfl | rfl <;> simp [scanChars, escapedAs, htext]
    -- the characters that are written with a letter
    iterate 5
      split
      · next hc => simp [scanChars, escapedAs, htext, hc]
    split
    · next h => simp [scanChars, charAt_escape h, htext]
    · next hc _ _ _ _ _ hspace =>
      obtain ⟨hquote, hslash⟩ := not_or.mp hc
      simp [scanChars, hslash, hspace, htext]

lemma scanChars_flatMap (l rest : List Char) :
    scanChars (l.flatMap escape ++ '\x22' :: rest) = some (l, rest) := by
  induction l with
  | nil => rfl
  | cons c l ih => rw [List.flatMap_cons, List.append_assoc, scanChars_escape, ih, Option.map_some]

lemma eq_zero_of_head_toDigits {n : ℕ} (h : (Nat.toDigits 10 n).head? = some '0') : n = 0 := by
  induction n using Nat.strong_induction_on with
  | _ n ih =>
    rcases Nat.lt_or_ge n 10 with hlt | hge
    · rw [Nat.toDigits_of_lt_base hlt] at h
      simpa using h
    · rw [Nat.toDigits_of_base_le (by omega) hge,
        List.head?_append_of_ne_nil _ Nat.toDigits_ne_nil] at h
      have hzero := ih (n / 10) (by omega) h
      omega

lemma scanNat_repr (n : ℕ) {rest : List Char} (h : EndsNumber rest) :
    scanNat (n.repr.toList ++ rest) = some (n, rest) := by
  have hdigits : ¬ (n.repr.toList = [] ∨
      n.repr.toList.head? = some '0' ∧ n.repr.toList ≠ ['0']) := by
    rw [Nat.toList_repr]
    rintro (hnil | ⟨hhead, hne⟩)
    · exact Nat.toDigits_ne_nil hnil
    · rw [eq_zero_of_head_toDigits hhead] at hne
      exact hne (Nat.toDigits_zero 10)
  unfold scanNat
  rw [takeWhile_repr n h]
  dsimp only
  rw [if_neg hdigits, List.drop_left, Nat.toList_repr, Nat.ofDigitChars_ten_toDigits]

lemma scanInt_num (n : ℤ) {rest : List Char} (h : EndsNumber rest) :
    scanInt (render (.num n) ++ rest) = some (n, rest) := by
  cases n with
  | ofNat n =>
    obtain ⟨c, text, hrepr, hdigit⟩ := repr_eq_cons n
    have hscan := scanNat_repr n h
    have hrender : render (.num (Int.ofNat n)) = n.repr.toList := rfl
    have hc : c ≠ '-' := by
      rintro rfl
      exact absurd hdigit (by decide)
    rw [hrepr, List.cons_append] at hscan
    rw [hrender, hrepr, List.cons_append]
    simp [scanInt, hc, hscan]
  | negSucc n =>
    have hscan := scanNat_repr (n + 1) h
    have hrender : render (.num (Int.negSucc n)) = '-' :: (n + 1).repr.toList :=
      String.toList_append
    rw [hrender, List.cons_append, scanInt, hscan, Option.map_some]
    rfl

lemma scanItems_separated {α : Type} {item : Scan α} {close : Char} {f : α → List Char}
    (hclose : close = ']' ∨ close = '\x7d') {l : List α} (hne : l ≠ [])
    (hitem : ∀ a ∈ l, ∀ rest, Ends rest → item (f a ++ rest) = some (a, rest)) {fuel : ℕ}
    (hfuel : l.length ≤ fuel) (rest : List Char) :
    scanItems item close fuel (separated f l ++ close :: rest) = some (l, rest) := by
  induction l generalizing fuel with
  | nil => exact absurd rfl hne
  | cons a l ih =>
    obtain ⟨fuel, rfl⟩ : ∃ k, fuel = k + 1 := ⟨fuel - 1, by simp at hfuel; omega⟩
    have hspace : isSpace close = false := by rcases hclose with rfl | rfl <;> decide
    have hends : Ends (close :: rest) := by
      rintro c ⟨⟩
      exact .inr (hclose.imp_right .inl)
    cases l with
    | nil =>
      rw [separated, scanItems, hitem a (by simp) _ hends]
      simp [skipSpace_cons hspace]
    | cons b l =>
      have hcomma : ',' ≠ close := by rcases hclose with rfl | rfl <;> decide
      have htail : scanItems item close fuel (separated f (b :: l) ++ close :: rest) =
          some (b :: l, rest) :=
        ih (by simp) (fun c hc => hitem c (by simp [hc])) (by simpa using hfuel)
      rw [separated_cons_cons, List.append_assoc, List.cons_append, scanItems,
        hitem a (by simp) _ (by rintro c ⟨⟩; exact .inl rfl)]
      simp [skipSpace_cons (show isSpace ',' = false by decide), hcomma, htail]

/-- A list is scanned up to the character that closes it, if none of its items begins with that
character or with a space. -/
lemma scanList_separated {α : Type} {item : Scan α} {close : Char} {f : α → List Char}
    (hclose : close = ']' ∨ close = '\x7d') {l : List α}
    (hhead : ∀ a text, ∃ c rest, f a ++ text = c :: rest ∧ isSpace c = false ∧ c ≠ close)
    (hitem : ∀ a ∈ l, ∀ rest, Ends rest → item (f a ++ rest) = some (a, rest)) {fuel : ℕ}
    (hfuel : l.length ≤ fuel) (rest : List Char) :
    scanList item close fuel (separated f l ++ close :: rest) = some (l, rest) := by
  have hspace : isSpace close = false := by rcases hclose with rfl | rfl <;> decide
  rcases l with _ | ⟨a, l⟩
  · rw [separated, List.nil_append, scanList, skipSpace_cons hspace]
    exact if_pos rfl
  · have hitems := scanItems_separated hclose (List.cons_ne_nil a l) hitem hfuel rest
    obtain ⟨text, htext⟩ : ∃ text, separated f (a :: l) ++ close :: rest = f a ++ text := by
      cases l with
      | nil => exact ⟨_, rfl⟩
      | cons b l => exact ⟨_, List.append_assoc ..⟩
    obtain ⟨c, tail, hc, hspace, hne⟩ := hhead a text
    rw [htext, hc] at hitems ⊢
    rw [scanList, skipSpace_cons hspace]
    exact (if_neg hne).trans hitems

lemma render_num_eq_cons (n : ℤ) :
    ∃ c text, render (.num n) = c :: text ∧ (c = '-' ∨ c.isDigit = true) := by
  cases n with
  | ofNat n =>
    obtain ⟨c, text, hrepr, hdigit⟩ := repr_eq_cons n
    exact ⟨c, text, hrepr, .inr hdigit⟩
  | negSucc n => exact ⟨'-', _, String.toList_append, .inl rfl⟩

lemma head_render (j : Json) (text : List Char) :
    ∃ c rest, j.render ++ text = c :: rest ∧ isSpace c = false ∧ c ≠ ']' := by
  have hlead := lead_render j text
  have hj : isSpace (leadOf j) = false ∧ leadOf j ≠ ']' := by
    rcases j with _ | (_ | _) | _ | _ | _ | _ <;> simp [leadOf, isSpace]
  generalize j.render ++ text = whole at hlead ⊢
  cases whole with
  | nil =>
    rw [← hlead] at hj
    exact absurd hj.1 (by decide)
  | cons c rest =>
    refine ⟨c, rest, rfl, ?_⟩
    rw [← hlead, lead] at hj
    split at hj
    · next hc =>
      constructor
      · rw [isSpace, decide_eq_false_iff_not]
        rintro (rfl | rfl | rfl | rfl) <;> exact absurd hc (by decide)
      · rintro rfl
        exact absurd hc (by decide)
    · exact hj

lemma head_renderField (field : String × Json) (text : List Char) :
    ∃ c rest, renderField field ++ text = c :: rest ∧ isSpace c = false ∧ c ≠ '\x7d' :=
  ⟨'\x22', _, rfl, by decide, by decide⟩

lemma scanField_renderField {value : Scan Json} {field : String × Json} {rest : List Char}
    (h : value (field.2.render ++ rest) = some (field.2, rest)) :
    scanField value (renderField field ++ rest) = some (field, rest) := by
  obtain ⟨name, j⟩ := field
  have hname := scanChars_flatMap name.toList (':' :: (j.render ++ rest))
  have htext : renderField (name, j) ++ rest =
      '\x22' :: (name.toList.flatMap escape ++ '\x22' :: ':' :: (j.render ++ rest)) := by
    simp [renderField, quote]
  rw [htext, scanField, skipSpace_cons (by decide)]
  simp [hname, skipSpace_cons (show isSpace ':' = false by decide), h]

lemma scanWord_append {α : Type} (word rest : List Char) (a : α) :
    scanWord word a (word ++ rest) = some (a, rest) := by
  rw [scanWord, if_pos (List.prefix_append _ _), List.drop_left]

lemma scan_num {c : Char} {text : List Char} (hc : c = '-' ∨ c.isDigit = true) (fuel : ℕ) :
    scan (fuel + 1) (c :: text) = (scanInt (c :: text)).map fun n => (.num n.1, n.2) := by
  have hspace : isSpace c = false := by
    rw [isSpace, decide_eq_false_iff_not]
    rintro (rfl | rfl | rfl | rfl) <;> exact absurd hc (by decide)
  have hne (d : Char) (hd : ¬ (d = '-' ∨ d.isDigit = true)) : c ≠ d := by
    rintro rfl
    exact hd hc
  rw [scan, skipSpace_cons hspace]
  dsimp only
  rw [if_neg (hne _ (by decide)), if_neg (hne _ (by decide)), if_neg (hne _ (by decide)),
    if_neg (hne _ (by decide)), if_neg (hne _ (by decide)), if_neg (hne _ (by decide))]

lemma scan_str (s : String) (fuel : ℕ) (rest : List Char) :
    scan (fuel + 1) (render (.str s) ++ rest) = some (.str s, rest) := by
  have hscan := scanChars_flatMap s.toList rest
  have htext : render (.str s) ++ rest =
      '\x22' :: (s.toList.flatMap escape ++ '\x22' :: rest) := by simp [render, quote]
  have hstep (text : List Char) : scan (fuel + 1) ('\x22' :: text) =
      (scanChars text).map fun s => (.str (String.ofList s.1), s.2) := rfl
  rw [htext, hstep, hscan, Option.map_some, String.ofList_toList]

lemma scan_arr {l : List Json} {fuel : ℕ} (hfuel : l.length ≤ fuel)
    (hitem : ∀ j ∈ l, ∀ rest, Ends rest → scan fuel (j.render ++ rest) = some (j, rest))
    (rest : List Char) : scan (fuel + 1) (render (.arr l) ++ rest) = some (.arr l, rest) := by
  have htext : render (.arr l) ++ rest = '[' :: (separated render l ++ ']' :: rest) := by
    simp [render, renderAll_eq]
  have hstep (text : List Char) : scan (fuel + 1) ('[' :: text) =
      (scanList (scan fuel) ']' fuel text).map fun l => (.arr l.1, l.2) := rfl
  rw [htext, hstep, scanList_separated (.inl rfl) head_render hitem hfuel, Option.map_some]

lemma scan_obj {fields : List (String × Json)} {fuel : ℕ} (hfuel : fields.length ≤ fuel)
    (hvalue : ∀ field ∈ fields, ∀ rest, Ends rest →
      scan fuel (field.2.render ++ rest) = some (field.2, rest)) (rest : List Char) :
    scan (fuel + 1) (render (.obj fields) ++ rest) = some (.obj fields, rest) := by
  have htext : render (.obj fields) ++ rest =
      '\x7b' :: (separated renderField fields ++ '\x7d' :: rest) := by
    simp [render, renderFields_eq]
  have hstep (text : List Char) : scan (fuel + 1) ('\x7b' :: text) =
      (scanList (scanField (scan fuel)) '\x7d' fuel text).map fun l => (.obj l.1, l.2) := rfl
  have hitem : ∀ field ∈ fields, ∀ rest, Ends rest →
      scanField (scan fuel) (renderField field ++ rest) = some (field, rest) :=
    fun field hfield rest hrest => scanField_renderField (hvalue field hfield rest hrest)
  rw [htext, hstep, scanList_separated (.inr rfl) head_renderField hitem hfuel, Option.map_some]

lemma exists_fuel {j : Json} {fuel : ℕ} (h : j.render.length ≤ fuel) : ∃ k, fuel = k + 1 := by
  obtain ⟨c, tail, hc, -⟩ := head_render j []
  rw [List.append_nil] at hc
  rw [hc, List.length_cons] at h
  exact ⟨fuel - 1, by omega⟩

/-- **A value is scanned** from its text, whatever follows it. -/
theorem scan_render (j : Json) {fuel : ℕ} (hfuel : j.render.length ≤ fuel) {rest : List Char}
    (hrest : Ends rest) : scan fuel (j.render ++ rest) = some (j, rest) := by
  induction j using memRec generalizing fuel rest with
  | null =>
    obtain ⟨fuel, rfl⟩ := exists_fuel hfuel
    exact scanWord_append ['u', 'l', 'l'] rest _
  | bool b =>
    obtain ⟨fuel, rfl⟩ := exists_fuel hfuel
    cases b with
    | true => exact scanWord_append ['r', 'u', 'e'] rest _
    | false => exact scanWord_append ['a', 'l', 's', 'e'] rest _
  | num n =>
    obtain ⟨fuel, rfl⟩ := exists_fuel hfuel
    obtain ⟨c, text, hrender, hc⟩ := render_num_eq_cons n
    have hscan := scanInt_num n hrest.endsNumber
    rw [hrender, List.cons_append] at hscan ⊢
    rw [scan_num hc, hscan, Option.map_some]
  | str s =>
    obtain ⟨fuel, rfl⟩ := exists_fuel hfuel
    exact scan_str s fuel rest
  | arr l ih =>
    obtain ⟨fuel, rfl⟩ := exists_fuel hfuel
    -- two characters go to the brackets, and what is left to the values
    have hlength : (separated render l).length + 2 ≤ fuel + 1 := by
      simpa [render, renderAll_eq] using hfuel
    have hcount : l.length ≤ (separated render l).length := length_separated_le fun j _ hj => by
      obtain ⟨c, tail, hc, -⟩ := head_render j []
      simp [hj] at hc
    refine scan_arr (by omega) (fun j hj rest hrest => ?_) rest
    have hle := length_le_separated (f := render) hj
    exact ih j hj (by omega) hrest
  | obj fields ih =>
    obtain ⟨fuel, rfl⟩ := exists_fuel hfuel
    have hlength : (separated renderField fields).length + 2 ≤ fuel + 1 := by
      simpa [render, renderFields_eq] using hfuel
    have hcount : fields.length ≤ (separated renderField fields).length :=
      length_separated_le fun field _ => by simp [renderField, quote]
    refine scan_obj (by omega) (fun field hfield rest hrest => ?_) rest
    have hle := length_le_separated (f := renderField) hfield
    have hvalue : field.2.render.length ≤ (renderField field).length := by
      simp only [renderField, List.length_append, List.length_cons]
      omega
    exact ih field hfield (by omega) hrest

/-- **What is written is read back**, also from a text with space behind it. -/
theorem ofSlice_append_space (j : Json) {space : List Char}
    (hspace : ∀ c ∈ space, isSpace c = true) :
    ofSlice (toVec j ++ utf8 (String.ofList space)) = some j := by
  have hends : Ends space := fun c hc => .inr (.inr (.inr (hspace c (List.mem_of_mem_head? hc))))
  have hscan : scan ((j.render ++ space).length + 1) (j.render ++ space) = some (j, space) :=
    scan_render j (by rw [List.length_append]; omega) hends
  have hnone : skipSpace space = [] := List.dropWhile_eq_nil_iff.mpr hspace
  rw [toVec, ← utf8_append, ← String.ofList_append, ofSlice, ofUtf8_utf8]
  simp only [Option.bind_eq_bind, Option.bind_some, String.toList_ofList, hscan]
  exact if_pos hnone

theorem ofSlice_toVec (j : Json) : ofSlice (toVec j) = some j := by
  have hread := ofSlice_append_space j (List.forall_mem_nil _)
  rwa [utf8_ofList, List.flatMap_nil, List.append_nil] at hread

/-- **A value is told by its text.** -/
theorem toVec_injective : Function.Injective toVec := fun j k h => by
  have hread := ofSlice_toVec j
  rw [h, ofSlice_toVec] at hread
  exact (Option.some.inj hread).symm

/-! ### Libraries -/

/-- The numbers of the value are words, and it is nested at most so deep. -/
inductive Fits : ℕ → Json → Prop
  | null (depth : ℕ) : Fits depth .null
  | bool (depth : ℕ) (b : Bool) : Fits depth (.bool b)
  | num (depth : ℕ) (n : UInt64) : Fits depth (.num n.toNat)
  | str (depth : ℕ) (s : String) : Fits depth (.str s)
  | arr {depth : ℕ} {l : List Json} (h : ∀ j ∈ l, Fits depth j) : Fits (depth + 1) (.arr l)
  | obj {depth : ℕ} {fields : List (String × Json)} (h : ∀ field ∈ fields, Fits depth field.2) :
    Fits (depth + 1) (.obj fields)

lemma fits_bytes (depth : ℕ) (b : Bytes) : Fits (depth + 1) (bytes b) := by
  refine .arr fun j hj => ?_
  obtain ⟨x, -, rfl⟩ := List.mem_map.mp hj
  have hx := x.toNat_lt
  have hword : (UInt64.ofNat x.toNat).toNat = x.toNat := by
    rw [UInt64.toNat_ofNat']
    omega
  rw [← hword]
  exact .num depth _

/-- What writes and reads texts. -/
structure Text where
  toVec : Json → Bytes
  ofSlice : Bytes → Option Json

/-- What is written is read back, unless it exceeds the limits of the reader. -/
structure Text.Lawful (T : Text) : Prop where
  ofSlice_toVec {j : Json} (h : Fits 127 j) : T.ofSlice (T.toVec j) = some j

/-- `from_slice`. -/
def Text.fromSlice {α : Type} (T : Text) (read : Reader α) (b : Bytes) : Outcome Error α := do
  let j ← okOr (T.ofSlice b) .Syntax
  read j

lemma Text.fromSlice_of_ofSlice {α : Type} {T : Text} {b : Bytes} {j : Json}
    (h : T.ofSlice b = some j) (read : Reader α) : T.fromSlice read b = read j := by
  rw [Text.fromSlice, h]
  rfl

lemma Text.fromSlice_toVec {α : Type} {T : Text} (hT : T.Lawful) {j : Json} (h : Fits 127 j)
    (read : Reader α) : T.fromSlice read (T.toVec j) = read j :=
  Text.fromSlice_of_ofSlice (hT.ofSlice_toVec h) read

def reference : Text := ⟨toVec, ofSlice⟩

theorem reference_lawful : reference.Lawful := ⟨fun _ => ofSlice_toVec _⟩

end CeloLightClient.Lib.Json

import CeloLightClient.Lib.Bytes
import CeloLightClient.Lib.Decimal

/-!
JSON values, as a serializer sees them: the fields of an object come in the order in which they
are written.
-/

namespace CeloLightClient.Lib

inductive Json
  | null
  | bool (b : Bool)
  | num (n : ℤ)
  | str (s : String)
  | arr (l : List Json)
  | obj (fields : List (String × Json))

namespace Json

/-- Induction over a value, whose parts are the members of lists. -/
@[elab_as_elim]
theorem memRec {P : Json → Prop} (null : P .null) (bool : ∀ b, P (.bool b)) (num : ∀ n, P (.num n))
    (str : ∀ s, P (.str s)) (arr : ∀ l, (∀ j ∈ l, P j) → P (.arr l))
    (obj : ∀ fields, (∀ field ∈ fields, P field.2) → P (.obj fields)) : ∀ j, P j
  | .null => null
  | .bool b => bool b
  | .num n => num n
  | .str s => str s
  | .arr l => arr l fun j _ => memRec null bool num str arr obj j
  | .obj fields => obj fields fun field h => by
    have hsize : sizeOf field.2 < sizeOf field := by
      cases field
      simp
    have := List.sizeOf_lt_of_mem h
    exact memRec null bool num str arr obj field.2

/-- A string array, an optional value, and a byte array, which is an array of numbers. -/
def strings (l : List String) : Json := .arr (l.map .str)

def option {α : Type} (f : α → Json) : Option α → Json
  | some a => f a
  | none => .null

def bytes (b : Bytes) : Json := .arr (b.map fun x => .num x.toNat)

/-! ### The text of a value -/

def hexDigit (n : ℕ) : Char := ['0', '1', '2', '3', '4', '5', '6', '7', '8', '9', 'a', 'b', 'c',
  'd', 'e', 'f'].getD n '0'

/-- Some control characters are written with a letter, and the others by number. -/
def escape (c : Char) : List Char :=
  if c = '\x22' ∨ c = '\x5c' then ['\x5c', c]
  else if c = '\x08' then ['\x5c', 'b']
  else if c = '\t' then ['\x5c', 't']
  else if c = '\n' then ['\x5c', 'n']
  else if c = '\x0c' then ['\x5c', 'f']
  else if c = '\r' then ['\x5c', 'r']
  else if c.toNat < 0x20 then
    ['\x5c', 'u', '0', '0', hexDigit (c.toNat / 16), hexDigit (c.toNat % 16)]
  else [c]

lemma escape_of_plain {c : Char} (hquote : c ≠ '\x22') (hslash : c ≠ '\x5c')
    (hplain : 0x20 ≤ c.toNat) : escape c = [c] := by
  have hne (d : Char) (hd : d.toNat < 0x20) : c ≠ d := by
    rintro rfl
    omega
  rw [escape, if_neg (not_or.mpr ⟨hquote, hslash⟩), if_neg (hne _ (by decide)),
    if_neg (hne _ (by decide)), if_neg (hne _ (by decide)), if_neg (hne _ (by decide)),
    if_neg (hne _ (by decide)), if_neg (Nat.not_lt.mpr hplain)]

def quote (s : String) : List Char := '\x22' :: s.toList.flatMap escape ++ ['\x22']

mutual
def render : Json → List Char
  | .null => ['n', 'u', 'l', 'l']
  | .bool true => ['t', 'r', 'u', 'e']
  | .bool false => ['f', 'a', 'l', 's', 'e']
  | .num n => (toString n).toList
  | .str s => quote s
  | .arr l => '[' :: renderAll l ++ [']']
  | .obj fields => '\x7b' :: renderFields fields ++ ['\x7d']

/-- The values between the brackets of an array. -/
def renderAll : List Json → List Char
  | [] => []
  | [j] => render j
  | j :: l => render j ++ ',' :: renderAll l

/-- The fields between the braces of an object. -/
def renderFields : List (String × Json) → List Char
  | [] => []
  | [(name, j)] => quote name ++ ':' :: render j
  | (name, j) :: l => quote name ++ ':' :: render j ++ ',' :: renderFields l
end

/-- `to_vec`. -/
def toVec (j : Json) : Bytes := utf8 (String.ofList j.render)

/-! ### What a text begins with -/

/-- What the first character of a text says about the value. -/
def lead : List Char → Char
  | [] => ' '
  | c :: _ => if c = '-' ∨ c.isDigit then '0' else c

/-- The first character of a value's text, where any number begins with `0`. -/
def leadOf : Json → Char
  | .null => 'n'
  | .bool true => 't'
  | .bool false => 'f'
  | .num _ => '0'
  | .str _ => '\x22'
  | .arr _ => '['
  | .obj _ => '\x7b'

lemma lead_render (j : Json) (s : List Char) : lead (j.render ++ s) = leadOf j := by
  rcases j with _ | (_ | _) | (n | n) | a | l | fields
  case num.negSucc => exact congrArg (fun text => lead (text ++ s)) String.toList_append
  case num.ofNat =>
    obtain ⟨c, text, hc, hdigit⟩ := repr_eq_cons n
    change lead (n.repr.toList ++ s) = '0'
    rw [hc]
    exact if_pos (.inr hdigit)
  all_goals rfl

/-- Texts with commas between them. -/
def separated {α : Type} (f : α → List Char) : List α → List Char
  | [] => []
  | [a] => f a
  | a :: l => f a ++ ',' :: separated f l

/-- The text of one field. -/
def renderField (field : String × Json) : List Char := quote field.1 ++ ':' :: field.2.render

lemma renderAll_eq : ∀ l : List Json, renderAll l = separated render l
  | [] => rfl
  | [_] => rfl
  | j :: k :: l => congrArg (j.render ++ ',' :: ·) (renderAll_eq (k :: l))

lemma renderFields_eq : ∀ fields : List (String × Json),
    renderFields fields = separated renderField fields
  | [] => rfl
  | [_] => rfl
  | (name, j) :: field :: fields => by
    have htail := renderFields_eq (field :: fields)
    simp only [renderFields, separated, renderField, htail, List.append_assoc, List.cons_append]

lemma bytes_injective : Function.Injective bytes := fun b c h => by
  refine List.map_injective_iff.mpr (fun x y hxy => ?_) (Json.arr.inj h)
  exact UInt8.toNat_inj.mp (Int.ofNat_inj.mp (Json.num.inj hxy))

lemma option_injective {α : Type} {f : α → Json} (hf : Function.Injective f)
    (hnull : ∀ a, f a ≠ .null) : Function.Injective (option f) := by
  rintro (_ | a) (_ | b) h
  · rfl
  · exact absurd h.symm (hnull b)
  · exact absurd h (hnull a)
  · exact congrArg some (hf h)

/-! ### The length of a text -/

lemma length_separated_le {α : Type} {f : α → List Char} {l : List α} (h : ∀ a ∈ l, f a ≠ []) :
    l.length ≤ (separated f l).length := by
  induction l with
  | nil => exact Nat.zero_le _
  | cons a l ih =>
    have ha : 0 < (f a).length := List.length_pos_of_ne_nil (h a (by simp))
    have hl := ih fun b hb => h b (by simp [hb])
    cases l with
    | nil => exact ha
    | cons b l =>
      simp only [separated, List.length_append, List.length_cons] at hl ⊢
      omega

lemma separated_cons_cons {α : Type} (f : α → List Char) (a b : α) (l : List α) :
    separated f (a :: b :: l) = f a ++ ',' :: separated f (b :: l) := rfl

lemma length_le_separated {α : Type} {f : α → List Char} {l : List α} {a : α} (h : a ∈ l) :
    (f a).length ≤ (separated f l).length := by
  induction l with
  | nil => cases h
  | cons b l ih =>
    cases l with
    | nil =>
      rw [List.mem_singleton] at h
      rw [h]
      exact le_rfl
    | cons c l =>
      rw [separated_cons_cons, List.length_append, List.length_cons]
      rcases List.mem_cons.mp h with rfl | h
      · omega
      · have htail := ih h
        omega

lemma render_num_ne_nil (n : ℕ) : render (.num n) ≠ [] := by
  obtain ⟨c, text, h, -⟩ := repr_eq_cons n
  have hrender : render (.num n) = n.repr.toList := rfl
  rw [hrender, h]
  exact List.cons_ne_nil _ _

/-- **Bytes are written as a longer text.** -/
theorem length_lt_toVec_bytes (b : Bytes) : b.length < (toVec (bytes b)).length := by
  have hnumbers : b.length ≤ (renderAll (b.map fun x => .num x.toNat)).length := by
    rw [renderAll_eq]
    refine le_of_eq_of_le (List.length_map _).symm (length_separated_le fun j hj => ?_)
    obtain ⟨x, -, rfl⟩ := List.mem_map.mp hj
    exact render_num_ne_nil _
  calc b.length < (bytes b).render.length := by
        rw [bytes, render, List.length_append, List.length_cons]
        omega
    _ ≤ (toVec (bytes b)).length := length_le_utf8 _

end Json

end CeloLightClient.Lib

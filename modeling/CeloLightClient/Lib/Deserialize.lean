import CeloLightClient.Lib.Json
import CeloLightClient.Lib.Outcome

/-!
Typed readers of JSON values.

A struct is read field by field, each by its name, so the order of the fields does not matter. It
may also be written without the names, as an array in the order of its fields.
-/

namespace CeloLightClient.Lib.Json

open Outcome

/-- `serde_json::Error`. -/
inductive Error
  | Syntax
  | Custom (msg : String)
  | InvalidType (expected : String)
  | InvalidValue (expected : String)
  | InvalidLength (len : ℕ) (expected : String)
  | MissingField (name : String)
  | DuplicateField (name : String)
  deriving DecidableEq, Repr

abbrev Reader (α : Type) := Json → Outcome Error α

variable {α β : Type}

/-- `.map_err(D::Error::custom)`. -/
def custom (x : Except String α) : Outcome Error α := mapErr .Custom (ofExcept x)

/-- `&str`, which is a part of the text that is read. An escaped character is not, and the others
are taken not to be escaped. -/
def borrowed : Reader String
  | .str s =>
    if s.toList.flatMap escape = s.toList then .ok s else fail (.InvalidType "a borrowed string")
  | _ => fail (.InvalidType "a borrowed string")

def string : Reader String
  | .str s => .ok s
  | _ => fail (.InvalidType "a string")

def u8 : Reader UInt8
  | .num n => if 0 ≤ n ∧ n < 2 ^ 8 then .ok (UInt8.ofNat n.toNat) else fail (.InvalidValue "u8")
  | _ => fail (.InvalidType "u8")

def u64 : Reader UInt64
  | .num n => if 0 ≤ n ∧ n < 2 ^ 64 then .ok (UInt64.ofNat n.toNat) else fail (.InvalidValue "u64")
  | _ => fail (.InvalidType "u64")

/-- `Vec<T>`. -/
def vec (read : Reader α) : Reader (List α)
  | .arr l => l.mapM read
  | _ => fail (.InvalidType "a sequence")

/-- `[u8; n]`. -/
def array (n : ℕ) (j : Json) : Outcome Error (FixedBytes n) := do
  let b ← vec u8 j
  if h : b.length = n then .ok ⟨b, h⟩
  else fail (.InvalidLength b.length ("an array of length " ++ toString n))

/-- The fields of the struct `name`. -/
def struct (name : String) (names : List String) : Reader (List (String × Json))
  | .obj fields => .ok fields
  | .arr l =>
    if l.length = names.length then .ok (names.zip l)
    else fail (.InvalidLength l.length
      ("struct " ++ name ++ " with " ++ toString names.length ++ " elements"))
  | _ => fail (.InvalidType ("struct " ++ name))

/-- One field of a struct. Fields of other names are ignored. -/
def field (fields : List (String × Json)) (name : String) (read : Reader α) : Outcome Error α :=
  match fields.filter (·.1 = name) with
  | [] => fail (.MissingField name)
  | [(_, j)] => read j
  | _ => fail (.DuplicateField name)

/-! ### Reading what was written -/

lemma filter_of_mem {fields : List (String × Json)} {name : String} {j : Json}
    (hnodup : (fields.map Prod.fst).Nodup) (h : (name, j) ∈ fields) :
    fields.filter (·.1 = name) = [(name, j)] := by
  induction fields with
  | nil => cases h
  | cons head fields ih =>
    rw [List.map_cons, List.nodup_cons] at hnodup
    rcases List.mem_cons.mp h with rfl | hmem
    · have hrest : ∀ other ∈ fields, other.1 ≠ name := by
        rintro other hother rfl
        exact hnodup.1 (List.mem_map.mpr ⟨other, hother, rfl⟩)
      simpa using hrest
    · have hne : head.1 ≠ name := by
        rintro rfl
        exact hnodup.1 (List.mem_map.mpr ⟨_, hmem, rfl⟩)
      rw [List.filter_cons_of_neg (by simpa using hne), ih hnodup.2 hmem]

/-- **The rule for structs**: of fields with different names each is read where it is. -/
lemma field_of_mem {fields : List (String × Json)} {name : String} {j : Json} (read : Reader α)
    (hnodup : (fields.map Prod.fst).Nodup) (h : (name, j) ∈ fields) :
    field fields name read = read j := by
  unfold field
  rw [filter_of_mem hnodup h]

lemma field_eq_ok {fields : List (String × Json)} {name : String} {j : Json} {read : Reader α}
    {a : α} (hnodup : (fields.map Prod.fst).Nodup) (hread : read j = .ok a)
    (h : (name, j) ∈ fields) : field fields name read = .ok a :=
  (field_of_mem read hnodup h).trans hread

lemma field_eq_missing {fields : List (String × Json)} {name : String} (read : Reader α)
    (h : name ∉ fields.map Prod.fst) : field fields name read = fail (.MissingField name) := by
  have hnone : fields.filter (·.1 = name) = [] := by
    refine List.filter_eq_nil_iff.mpr fun other hother hname => h ?_
    exact List.mem_map.mpr ⟨other, hother, of_decide_eq_true hname⟩
  rw [field, hnone]

lemma flatMap_escape_of_forall {l : List Char} (h : ∀ c ∈ l, escape c = [c]) :
    l.flatMap escape = l := by
  induction l with
  | nil => rfl
  | cons c l ih =>
    rw [List.flatMap_cons, h c (by simp), ih fun d hd => h d (by simp [hd])]
    rfl

lemma borrowed_str {s : String} (h : ∀ c ∈ s.toList, escape c = [c]) :
    borrowed (.str s) = .ok s := if_pos (flatMap_escape_of_forall h)

lemma borrowed_ne_abort (j : Json) : borrowed j ≠ abort := by
  unfold borrowed
  split
  · split <;> simp
  · simp

lemma borrowed_eq_ok {s t : String} (h : borrowed (.str s) = .ok t) : t = s := by
  unfold borrowed at h
  simp only at h
  split at h
  · exact (Except.ok.inj h).symm
  · simp at h

lemma u8_num (x : UInt8) : u8 (.num x.toNat) = .ok x := by
  have hx := x.toNat_lt
  have hrange : 0 ≤ (x.toNat : ℤ) ∧ (x.toNat : ℤ) < 2 ^ 8 := by omega
  rw [u8, if_pos hrange, Int.toNat_natCast, UInt8.ofNat_toNat]

lemma u64_num (x : UInt64) : u64 (.num x.toNat) = .ok x := by
  have hx := x.toNat_lt
  have hrange : 0 ≤ (x.toNat : ℤ) ∧ (x.toNat : ℤ) < 2 ^ 64 := by omega
  rw [u64, if_pos hrange, Int.toNat_natCast, UInt64.ofNat_toNat]

lemma vec_arr {write : α → Json} {read : Reader α} (h : ∀ a, read (write a) = .ok a)
    (l : List α) : vec read (.arr (l.map write)) = .ok l := by
  unfold vec
  dsimp only
  induction l with
  | nil => rfl
  | cons a l ih => rw [List.map_cons, List.mapM_cons, h, ok_bind, ih, ok_bind, pure_eq_ok]

lemma array_bytes {n : ℕ} (b : FixedBytes n) : array n (bytes b.1) = .ok b := by
  have hread : vec u8 (bytes b.1) = .ok b.1 := vec_arr u8_num b.1
  rw [array, hread, ok_bind, dif_pos b.2]

end CeloLightClient.Lib.Json

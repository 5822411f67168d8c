import CeloLightClient.Lib.Deserialize

/-!
Formats: how a type is written as JSON, how it is read, and which values say what.

A format is put together from those of its parts, as a derived one is: that of a struct from its
fields, that of an enum from its variants. The fields of a struct may come in any order and among
others, and one that has a default may be missing.
-/

namespace CeloLightClient.Lib.Json

open Outcome

variable {α β : Type}

/-- A format reads exactly the values that say something, and what it writes is one of them. -/
structure Format (α : Type) where
  write : α → Json
  read : Reader α
  Says : Json → α → Prop
  read_eq_ok : ∀ {j a}, read j = .ok a ↔ Says j a
  says_write : ∀ a, Says (write a) a

/-! ### Values -/

def boolean : Reader Bool
  | .bool b => .ok b
  | _ => fail (.InvalidType "a boolean")

def i32 : Reader Int32
  | .num n =>
    if -2 ^ 31 ≤ n ∧ n < 2 ^ 31 then .ok (Int32.ofInt n) else fail (.InvalidValue "i32")
  | _ => fail (.InvalidType "i32")

/-- `Option<T>`. -/
def optional (read : Reader α) : Reader (Option α)
  | .null => .ok none
  | j => some <$> read j

namespace Format

def string : Format String where
  write := .str
  read := Json.string
  Says j s := j = .str s
  read_eq_ok {j s} := by
    cases j <;> simp [Json.string]
  says_write _ := rfl

def bool : Format Bool where
  write := .bool
  read := boolean
  Says j b := j = .bool b
  read_eq_ok {j b} := by
    cases j <;> simp [boolean]
  says_write _ := rfl

def u64 : Format UInt64 where
  write n := .num n.toNat
  read := Json.u64
  Says j n := j = .num n.toNat
  read_eq_ok {j n} := by
    constructor
    · intro h
      unfold Json.u64 at h
      split at h
      · split at h
        · next k hk =>
          have hlt : k.toNat < 2 ^ 64 := by omega
          obtain rfl := Except.ok.inj h
          rw [UInt64.toNat_ofNat_of_lt' hlt, Int.toNat_of_nonneg hk.1]
        · simp at h
      · simp at h
    · rintro rfl
      exact u64_num n
  says_write _ := rfl

def i32 : Format Int32 where
  write n := .num n.toInt
  read := Json.i32
  Says j n := j = .num n.toInt
  read_eq_ok {j n} := by
    constructor
    · intro h
      unfold Json.i32 at h
      split at h
      · split at h
        · next k hk =>
          obtain rfl := Except.ok.inj h
          rw [Int32.toInt_ofInt_of_le hk.1 hk.2]
        · simp at h
      · simp at h
    · rintro rfl
      have hle := n.le_toInt
      have hlt := n.toInt_lt
      rw [Json.i32, if_pos ⟨hle, hlt⟩, Int32.ofInt_toInt]
  says_write _ := rfl

lemma mapM_eq_ok_iff {F : Format α} {items : List Json} {l : List α} :
    items.mapM F.read = .ok l ↔ List.Forall₂ F.Says items l := by
  induction items generalizing l with
  | nil => cases l <;> simp
  | cons j items ih =>
    rw [List.mapM_cons, bind_eq_ok]
    constructor
    · rintro ⟨a, ha, h⟩
      obtain ⟨l', hl', h⟩ := bind_eq_ok.mp h
      obtain rfl := Except.ok.inj h
      exact .cons (F.read_eq_ok.mp ha) (ih.mp hl')
    · rintro (_ | ⟨ha, hl⟩)
      exact ⟨_, F.read_eq_ok.mpr ha, bind_eq_ok.mpr ⟨_, ih.mpr hl, rfl⟩⟩

def vec (F : Format α) : Format (List α) where
  write l := .arr (l.map F.write)
  read := Json.vec F.read
  Says j l := ∃ items, j = .arr items ∧ List.Forall₂ F.Says items l
  read_eq_ok {j l} := by
    cases j <;> simp [Json.vec, mapM_eq_ok_iff]
  says_write l := by
    refine ⟨_, rfl, ?_⟩
    rw [List.forall₂_map_left_iff, List.forall₂_same]
    exact fun a _ => F.says_write a

/-- What is missing is `null`, which must not say anything else. -/
def option (F : Format α) (hnull : ∀ a, ¬ F.Says .null a) : Format (Option α) where
  write := Json.option F.write
  read := optional F.read
  Says j x := j = .null ∧ x = none ∨ ∃ a, x = some a ∧ F.Says j a
  read_eq_ok {j x} := by
    cases j with
    | null =>
      constructor
      · intro h
        exact .inl ⟨rfl, (Except.ok.inj h).symm⟩
      · rintro (⟨-, rfl⟩ | ⟨a, -, ha⟩)
        · rfl
        · exact absurd ha (hnull a)
    | bool | num | str | arr | obj =>
      simp only [optional, reduceCtorEq, false_and, false_or, ← F.read_eq_ok]
      rcases F.read _ with e | a <;> simp [Functor.map, Except.map, eq_comm]
  says_write
    | none => .inl ⟨rfl, rfl⟩
    | some a => .inr ⟨a, rfl, F.says_write a⟩

end Format

/-! ### Fields -/

/-- The occurrences of a field. -/
def occurrences (fields : List (String × Json)) (name : String) : List (String × Json) :=
  fields.filter (·.1 = name)

/-- One field of a struct, which stands for `d` when it is missing. -/
def fieldOr (d : α) (fields : List (String × Json)) (name : String) (read : Reader α) :
    Outcome Error α :=
  match occurrences fields name with
  | [] => .ok d
  | [(_, j)] => read j
  | _ => fail (.DuplicateField name)

/-- Some fields of a struct: how they are written and read, and which fields carry what. -/
structure Fields (α : Type) where
  names : List String
  write : α → List (String × Json)
  read : List (String × Json) → Outcome Error α
  Carry : List (String × Json) → α → Prop
  names_write : ∀ a, (write a).map Prod.fst = names
  read_eq_ok : ∀ {fields a}, read fields = .ok a ↔ Carry fields a
  carry_of_subset : ∀ {fields a}, (fields.map Prod.fst).Nodup → write a ⊆ fields → Carry fields a

/-- The field occurs once, and says `a`. -/
def Once (fields : List (String × Json)) (name : String) (F : Format α) (a : α) : Prop :=
  ∃ j, occurrences fields name = [(name, j)] ∧ F.Says j a

lemma eq_of_mem_occurrences {fields : List (String × Json)} {name : String} {x : String × Json}
    (h : x ∈ occurrences fields name) : x.1 = name := by
  simpa using (List.mem_filter.mp h).2

lemma occurrences_cases (fields : List (String × Json)) (name : String) :
    occurrences fields name = [] ∨ (∃ j, occurrences fields name = [(name, j)]) ∨
      ∃ x y rest, occurrences fields name = x :: y :: rest := by
  rcases h : occurrences fields name with _ | ⟨⟨name', j⟩, _ | ⟨y, rest⟩⟩
  · exact .inl rfl
  · obtain rfl : name' = name := eq_of_mem_occurrences (h ▸ List.mem_singleton_self _)
    exact .inr (.inl ⟨j, rfl⟩)
  · exact .inr (.inr ⟨_, y, rest, rfl⟩)

lemma field_eq_ok_iff {fields : List (String × Json)} {name : String} {F : Format α} {a : α} :
    field fields name F.read = .ok a ↔ Once fields name F a := by
  have hfield : field fields name F.read = match occurrences fields name with
      | [] => fail (.MissingField name)
      | [(_, j)] => F.read j
      | _ => fail (.DuplicateField name) := rfl
  rw [hfield, Once]
  rcases occurrences_cases fields name with h | ⟨j, h⟩ | ⟨x, y, rest, h⟩ <;> rw [h]
  · simp
  · simp [F.read_eq_ok]
  · simp

lemma fieldOr_eq_ok_iff {fields : List (String × Json)} {name : String} {F : Format α} {a d : α} :
    fieldOr d fields name F.read = .ok a ↔
      occurrences fields name = [] ∧ a = d ∨ Once fields name F a := by
  rw [fieldOr, Once]
  rcases occurrences_cases fields name with h | ⟨j, h⟩ | ⟨x, y, rest, h⟩ <;> rw [h]
  · simp [eq_comm]
  · simp [F.read_eq_ok]
  · simp

lemma pair_eq_ok {ε : Type} {x : Outcome ε α} {y : Outcome ε β} {p : α × β} :
    (do let a ← x; let b ← y; pure (a, b)) = .ok p ↔ x = .ok p.1 ∧ y = .ok p.2 := by
  simp only [bind_eq_ok, pure_eq_ok, Except.ok.injEq]
  constructor
  · rintro ⟨a, ha, b, hb, rfl⟩
    exact ⟨ha, hb⟩
  · exact fun ⟨ha, hb⟩ => ⟨_, ha, _, hb, rfl⟩

namespace Fields

def nil : Fields Unit where
  names := []
  write _ := []
  read _ := .ok ()
  Carry _ _ := True
  names_write _ := rfl
  read_eq_ok := by simp
  carry_of_subset _ _ := trivial

/-- A field that has to be there, before others. -/
def one (name : String) (F : Format α) (rest : Fields β) : Fields (α × β) where
  names := name :: rest.names
  write a := (name, F.write a.1) :: rest.write a.2
  read fields := do
    let a ← field fields name F.read
    let b ← rest.read fields
    pure (a, b)
  Carry fields a := Once fields name F a.1 ∧ rest.Carry fields a.2
  names_write a := by rw [List.map_cons, rest.names_write]
  read_eq_ok {fields a} := by
    rw [← field_eq_ok_iff, ← rest.read_eq_ok]
    exact pair_eq_ok
  carry_of_subset hnodup hsub := by
    obtain ⟨hmem, hrest⟩ := List.cons_subset.mp hsub
    exact ⟨⟨_, filter_of_mem hnodup hmem, F.says_write _⟩,
      rest.carry_of_subset hnodup hrest⟩

/-- A field that may be missing, before others. -/
def orElse (name : String) (F : Format α) (d : α) (rest : Fields β) : Fields (α × β) where
  names := name :: rest.names
  write a := (name, F.write a.1) :: rest.write a.2
  read fields := do
    let a ← fieldOr d fields name F.read
    let b ← rest.read fields
    pure (a, b)
  Carry fields a :=
    (occurrences fields name = [] ∧ a.1 = d ∨ Once fields name F a.1) ∧ rest.Carry fields a.2
  names_write a := by rw [List.map_cons, rest.names_write]
  read_eq_ok {fields a} := by
    rw [← fieldOr_eq_ok_iff, ← rest.read_eq_ok]
    exact pair_eq_ok
  carry_of_subset hnodup hsub := by
    obtain ⟨hmem, hrest⟩ := List.cons_subset.mp hsub
    exact ⟨.inr ⟨_, filter_of_mem hnodup hmem, F.says_write _⟩, rest.carry_of_subset hnodup hrest⟩

end Fields

/-! ### Structs and enums -/

namespace Format

/-- A struct, which is made of its fields. Fields of other names are ignored. -/
def struct (f : Fields α) (make : α → β) (parts : β → α) (hparts : ∀ a, parts (make a) = a)
    (hmake : ∀ b, make (parts b) = b) (hnames : f.names.Nodup) : Format β where
  write b := .obj (f.write (parts b))
  read
    | .obj fields => make <$> f.read fields
    | _ => fail (.InvalidType "a struct")
  Says j b := ∃ fields, j = .obj fields ∧ f.Carry fields (parts b)
  read_eq_ok {j b} := by
    cases j with
    | obj fields =>
      simp only [Json.obj.injEq, exists_eq_left', ← f.read_eq_ok]
      rcases f.read fields with e | a
      · simp [Functor.map, Except.map]
      · simp only [Functor.map, Except.map, Except.ok.injEq]
        constructor
        · rintro rfl
          exact (hparts a).symm
        · rintro rfl
          exact hmake b
    | null | bool | num | str | arr => simp
  says_write b := by
    refine ⟨_, rfl, f.carry_of_subset ?_ (List.Subset.refl _)⟩
    rw [f.names_write]
    exact hnames

end Format

/-- A variant of an enum: its name, and what can be said of it. -/
structure Variant (α : Type) where
  tag : String
  read : Reader α
  Says : Json → α → Prop
  read_eq_ok : ∀ {j a}, read j = .ok a ↔ Says j a

/-- A variant that is made of its fields. -/
def Variant.struct (tag : String) (f : Fields β) (make : β → α) : Variant α where
  tag := tag
  read
    | .obj fields => make <$> f.read fields
    | _ => fail (.InvalidType "a struct")
  Says j a := ∃ fields b, j = .obj fields ∧ f.Carry fields b ∧ make b = a
  read_eq_ok {j a} := by
    cases j with
    | obj fields =>
      simp only [Json.obj.injEq, exists_eq_left', exists_and_left, ← f.read_eq_ok]
      rcases f.read fields with e | b <;> simp [Functor.map, Except.map]
    | null | bool | num | str | arr => simp

lemma find?_tag {variants : List (Variant α)} (htags : (variants.map Variant.tag).Nodup)
    {v : Variant α} (hv : v ∈ variants) : variants.find? (·.tag = v.tag) = some v := by
  rcases hw : variants.find? (·.tag = v.tag) with _ | w
  · exact absurd (List.find?_eq_none.mp hw v hv) (by simp)
  · have htag : w.tag = v.tag := by simpa using List.find?_some hw
    obtain rfl := List.inj_on_of_nodup_map htags (List.mem_of_find?_eq_some hw) hv htag
    exact hw

namespace Format

/-- An enum: an object whose one field has the name of the variant. -/
def enum (variants : List (Variant α)) (write : α → String × Json)
    (htags : (variants.map Variant.tag).Nodup)
    (hwrite : ∀ a, ∃ v ∈ variants, v.tag = (write a).1 ∧ v.Says (write a).2 a) : Format α where
  write a := .obj [write a]
  read
    | .obj [(tag, body)] =>
      match variants.find? (·.tag = tag) with
      | some v => v.read body
      | none => fail (.Custom ("unknown variant " ++ tag))
    | _ => fail (.InvalidType "an enum")
  Says j a := ∃ v ∈ variants, ∃ body, j = .obj [(v.tag, body)] ∧ v.Says body a
  read_eq_ok {j a} := by
    constructor
    · intro h
      split at h
      · next tag body =>
        split at h
        · next v hv =>
          have htag : v.tag = tag := by simpa using List.find?_some hv
          exact ⟨v, List.mem_of_find?_eq_some hv, body, by rw [htag], v.read_eq_ok.mp h⟩
        · simp at h
      · simp at h
    · rintro ⟨v, hv, body, rfl, hsaid⟩
      dsimp only
      rw [find?_tag htags hv]
      exact v.read_eq_ok.mpr hsaid
  says_write a := by
    obtain ⟨v, hv, htag, hsaid⟩ := hwrite a
    exact ⟨v, hv, _, by rw [htag], hsaid⟩

end Format

/-! ### Leaving fields out -/

variable (drop : String → Json → Bool)

mutual
/-- The value without the fields that are to be dropped, at any depth. -/
def prune : Json → Json
  | .arr l => .arr (pruneAll l)
  | .obj fields => .obj (pruneFields fields)
  | j => j

def pruneAll : List Json → List Json
  | [] => []
  | j :: l => prune j :: pruneAll l

def pruneFields : List (String × Json) → List (String × Json)
  | [] => []
  | (name, j) :: fields =>
    if drop name j then pruneFields fields else (name, prune j) :: pruneFields fields
end

lemma pruneAll_eq (l : List Json) : pruneAll drop l = l.map (prune drop) := by
  induction l with
  | nil => rfl
  | cons j l ih => rw [pruneAll, List.map_cons, ih]

lemma mem_pruneFields {fields : List (String × Json)} {name : String} {j : Json}
    (h : (name, j) ∈ fields) (hkeep : drop name j = false) :
    (name, prune drop j) ∈ pruneFields drop fields := by
  induction fields with
  | nil => cases h
  | cons head fields ih =>
    obtain ⟨name', j'⟩ := head
    rw [pruneFields]
    rcases List.mem_cons.mp h with heq | hmem
    · obtain ⟨rfl, rfl⟩ := Prod.mk.inj heq
      simp [hkeep]
    · split
      · exact ih hmem
      · exact List.mem_cons_of_mem _ (ih hmem)

lemma exists_of_mem_pruneFields {fields : List (String × Json)} {name : String} {j : Json}
    (h : (name, j) ∈ pruneFields drop fields) :
    ∃ j', (name, j') ∈ fields ∧ drop name j' = false := by
  induction fields with
  | nil => cases h
  | cons head fields ih =>
    obtain ⟨name', j'⟩ := head
    rw [pruneFields] at h
    split at h
    · obtain ⟨k, hk, hkeep⟩ := ih h
      exact ⟨k, List.mem_cons_of_mem _ hk, hkeep⟩
    · next hkeep =>
      rcases List.mem_cons.mp h with heq | hmem
      · obtain ⟨rfl, rfl⟩ := Prod.mk.inj heq
        exact ⟨j', List.mem_cons_self, by simpa using hkeep⟩
      · obtain ⟨k, hk, hkeep⟩ := ih hmem
        exact ⟨k, List.mem_cons_of_mem _ hk, hkeep⟩

lemma names_pruneFields (fields : List (String × Json)) :
    ((pruneFields drop fields).map Prod.fst).Sublist (fields.map Prod.fst) := by
  induction fields with
  | nil => exact .slnil
  | cons head fields ih =>
    obtain ⟨name, j⟩ := head
    rw [pruneFields]
    split
    · exact ih.cons _
    · exact ih.cons_cons _

lemma prune_never (j : Json) : prune (fun _ _ => false) j = j := by
  induction j using memRec with
  | null | bool | num | str => rfl
  | arr l ih =>
    rw [prune, pruneAll_eq]
    exact congrArg Json.arr ((List.map_congr_left ih).trans (List.map_id l))
  | obj fields ih =>
    rw [prune]
    congr 1
    induction fields with
    | nil => rfl
    | cons head fields ihf =>
      obtain ⟨name, j⟩ := head
      have hhead : prune (fun _ _ => false) j = j := ih (name, j) List.mem_cons_self
      rw [pruneFields, if_neg Bool.false_ne_true, hhead,
        ihf fun field h => ih field (List.mem_cons_of_mem _ h)]

/-- A field is found in a value, at any depth. -/
inductive Inside (x : String × Json) : Json → Prop
  | here {fields} : x ∈ fields → Inside x (.obj fields)
  | field {fields y} : y ∈ fields → Inside x y.2 → Inside x (.obj fields)
  | item {l j} : j ∈ l → Inside x j → Inside x (.arr l)

/-- Of the fields of a value, at any depth, those that are dropped are among the ones listed. -/
def DropsOnly (listed : List (String × Json)) (j : Json) : Prop :=
  ∀ x, Inside x j → drop x.1 x.2 → x ∈ listed

variable {drop}

lemma DropsOnly.of_no_fields {listed : List (String × Json)} {j : Json} (h : ∀ x, ¬ Inside x j) :
    DropsOnly drop listed j := fun x hx => absurd hx (h x)

lemma dropsOnly_arr {listed : List (String × Json)} {l : List Json} :
    DropsOnly drop listed (.arr l) ↔ ∀ j ∈ l, DropsOnly drop listed j := by
  constructor
  · exact fun h j hj x hx => h x (.item hj hx)
  · rintro h x (_ | _ | ⟨hj, hx⟩)
    exact h _ hj x hx

lemma dropsOnly_obj {listed fields : List (String × Json)} :
    DropsOnly drop listed (.obj fields) ↔
      ∀ x ∈ fields, (drop x.1 x.2 → x ∈ listed) ∧ DropsOnly drop listed x.2 := by
  constructor
  · exact fun h x hx => ⟨h x (.here hx), fun y hy => h y (.field hx hy)⟩
  · rintro h x (hx | ⟨hy, hx⟩ | _)
    · exact (h x hx).1
    · exact (h _ hy).2 x hx

variable (drop) (listed : List (String × Json))

/-- What is written can be read after fields have been dropped exactly if they are among the ones
listed. -/
def Format.Exact (F : Format α) : Prop :=
  ∀ a, F.Says (prune drop (F.write a)) a ↔ DropsOnly drop listed (F.write a)

/-- The same of fields, each of which is there without what has been dropped inside, or has been
dropped itself. -/
def Fields.Exact (f : Fields α) : Prop :=
  ∀ a fields, (fields.map Prod.fst).Nodup →
    (∀ x ∈ f.write a, if drop x.1 x.2 then x.1 ∉ fields.map Prod.fst
      else (x.1, prune drop x.2) ∈ fields) →
    (f.Carry fields a ↔ DropsOnly drop listed (.obj (f.write a)))

variable {drop listed}

namespace Format

lemma exact_string : string.Exact drop listed := fun _ =>
  iff_of_true rfl (.of_no_fields nofun)

lemma exact_bool : bool.Exact drop listed := fun _ => iff_of_true rfl (.of_no_fields nofun)

lemma exact_u64 : u64.Exact drop listed := fun _ => iff_of_true rfl (.of_no_fields nofun)

lemma exact_i32 : i32.Exact drop listed := fun _ => iff_of_true rfl (.of_no_fields nofun)

lemma Exact.vec {F : Format α} (hF : F.Exact drop listed) : (Format.vec F).Exact drop listed := by
  intro l
  have hprune : prune drop (.arr (l.map F.write)) = .arr ((l.map F.write).map (prune drop)) :=
    congrArg Json.arr (pruneAll_eq drop _)
  change (∃ items, prune drop (.arr (l.map F.write)) = .arr items ∧ List.Forall₂ F.Says items l) ↔
    DropsOnly drop listed (.arr (l.map F.write))
  simp only [hprune, Json.arr.injEq, exists_eq_left', List.forall₂_map_left_iff,
    List.forall₂_same, dropsOnly_arr, List.forall_mem_map]
  exact forall₂_congr fun a _ => hF a

lemma Exact.option {F : Format α} (hF : F.Exact drop listed) {hnull : ∀ a, ¬ F.Says .null a} :
    (Format.option F hnull).Exact drop listed
  | none => iff_of_true (.inl ⟨rfl, rfl⟩) (.of_no_fields nofun)
  | some a => by
    refine Iff.trans ?_ (hF a)
    constructor
    · rintro (⟨-, h⟩ | ⟨a', h, hsaid⟩)
      · cases h
      · obtain rfl := Option.some.inj h
        exact hsaid
    · exact fun h => .inr ⟨a, rfl, h⟩

end Format

namespace Fields

lemma exact_nil : nil.Exact drop listed := fun _ _ _ _ =>
  iff_of_true trivial (dropsOnly_obj.mpr nofun)

lemma occurrences_eq_nil {fields : List (String × Json)} {name : String}
    (h : name ∉ fields.map Prod.fst) : occurrences fields name = [] := by
  refine List.filter_eq_nil_iff.mpr fun x hx => ?_
  have hne : x.1 ≠ name := by
    rintro rfl
    exact h (List.mem_map_of_mem hx)
  simpa using hne

lemma once_iff {fields : List (String × Json)} {name : String} {F : Format α} {a : α} {j : Json}
    (h : occurrences fields name = [(name, j)]) : Once fields name F a ↔ F.Says j a := by
  simp [Once, h]

lemma Exact.one {name : String} {F : Format α} {rest : Fields β} (hF : F.Exact drop listed)
    (hlisted : ∀ a, (name, F.write a) ∉ listed) (hrest : rest.Exact drop listed) :
    (Fields.one name F rest).Exact drop listed := by
  intro a fields hnodup hfields
  change Once fields name F a.1 ∧ rest.Carry fields a.2 ↔
    DropsOnly drop listed (.obj ((name, F.write a.1) :: rest.write a.2))
  rw [hrest a.2 fields hnodup fun x hx => hfields x (List.mem_cons_of_mem _ hx), dropsOnly_obj,
    dropsOnly_obj, List.forall_mem_cons]
  refine and_congr_left' ?_
  have hmem := hfields (name, F.write a.1) List.mem_cons_self
  split at hmem
  · next hdrop =>
    refine iff_of_false ?_ fun h => hlisted _ (h.1 hdrop)
    rintro ⟨j, hj, -⟩
    rw [occurrences_eq_nil hmem] at hj
    cases hj
  · next hkeep =>
    rw [once_iff (filter_of_mem hnodup hmem), hF a.1]
    exact ⟨fun h => ⟨fun hdrop => absurd hdrop hkeep, h⟩, And.right⟩

/-- A field that may be missing is among those listed where it has its default. -/
lemma Exact.orElse {name : String} {F : Format α} {d : α} {rest : Fields β}
    (hF : F.Exact drop listed) (hlisted : ∀ a, (name, F.write a) ∈ listed ↔ a = d)
    (hdefault : ∀ x, ¬ Inside x (F.write d)) (hrest : rest.Exact drop listed) :
    (Fields.orElse name F d rest).Exact drop listed := by
  intro a fields hnodup hfields
  change (occurrences fields name = [] ∧ a.1 = d ∨ Once fields name F a.1) ∧ rest.Carry fields a.2 ↔
    DropsOnly drop listed (.obj ((name, F.write a.1) :: rest.write a.2))
  rw [hrest a.2 fields hnodup fun x hx => hfields x (List.mem_cons_of_mem _ hx), dropsOnly_obj,
    dropsOnly_obj, List.forall_mem_cons]
  refine and_congr_left' ?_
  have hmem := hfields (name, F.write a.1) List.mem_cons_self
  split at hmem
  · next hdrop =>
    have hnil : occurrences fields name = [] := occurrences_eq_nil hmem
    constructor
    · rintro (⟨-, h⟩ | ⟨j, hj, -⟩)
      · exact ⟨fun _ => (hlisted a.1).mpr h, h ▸ .of_no_fields hdefault⟩
      · rw [hnil] at hj
        cases hj
    · exact fun h => .inl ⟨hnil, (hlisted a.1).mp (h.1 hdrop)⟩
  · next hkeep =>
    have honce : occurrences fields name = [(name, prune drop (F.write a.1))] :=
      filter_of_mem hnodup hmem
    rw [once_iff honce, hF a.1, honce]
    constructor
    · rintro (⟨h, -⟩ | h)
      · cases h
      · exact ⟨fun hdrop => absurd hdrop hkeep, h⟩
    · exact fun h => .inr h.2

lemma Exact.carry_prune {f : Fields α} (hf : f.Exact drop listed) (hnames : f.names.Nodup)
    (a : α) : f.Carry (pruneFields drop (f.write a)) a ↔
      DropsOnly drop listed (.obj (f.write a)) := by
  have hnodup : ((f.write a).map Prod.fst).Nodup := by
    rw [f.names_write]
    exact hnames
  refine hf a _ ((names_pruneFields drop _).nodup hnodup) ?_
  rintro ⟨name, j⟩ hmem
  split
  · next hdrop =>
    intro hleft
    obtain ⟨⟨_, j'⟩, hj', rfl⟩ := List.mem_map.mp hleft
    obtain ⟨k, hk, hkeep⟩ := exists_of_mem_pruneFields drop hj'
    -- the names differ, so it is the field that has been dropped
    have hsame : (_, k) = (_, j) := List.inj_on_of_nodup_map hnodup hk hmem rfl
    obtain rfl := (Prod.mk.inj hsame).2
    rw [hkeep] at hdrop
    cases hdrop
  · next hkeep => exact mem_pruneFields drop hmem (by simpa using hkeep)

end Fields

namespace Format

lemma exact_struct {f : Fields α} {make : α → β} {parts : β → α} {hparts : ∀ a, parts (make a) = a}
    {hmake : ∀ b, make (parts b) = b} {hnames : f.names.Nodup} (hf : f.Exact drop listed) :
    (Format.struct f make parts hparts hmake hnames).Exact drop listed := by
  intro b
  refine Iff.trans ?_ (hf.carry_prune hnames (parts b))
  constructor
  · rintro ⟨fields, h, hcarry⟩
    obtain rfl := Json.obj.inj h
    exact hcarry
  · exact fun h => ⟨_, rfl, h⟩

end Format

lemma Variant.exists_exact {l : List (Variant α)} {i : ℕ} {tag : String} {f : Fields β}
    {make : β → α} (hi : l[i]? = some (.struct tag f make)) (hnames : f.names.Nodup)
    (hmake : make.Injective) (hf : f.Exact drop listed) (b : β) :
    ∃ v ∈ l, v.tag = tag ∧ (v.Says (prune drop (.obj (f.write b))) (make b) ↔
      DropsOnly drop listed (.obj (f.write b))) := by
  refine ⟨_, List.mem_of_getElem? hi, rfl, Iff.trans ?_ (hf.carry_prune hnames b)⟩
  constructor
  · rintro ⟨fields, b', h, hcarry, heq⟩
    obtain rfl := Json.obj.inj h
    obtain rfl := hmake heq
    exact hcarry
  · exact fun h => ⟨_, b, rfl, h, rfl⟩

lemma Variant.exists_says {l : List (Variant α)} {tag : String} {j : Json} {a : α}
    (h : ∃ v ∈ l, v.tag = tag ∧ (v.Says (prune (fun _ _ => false) j) a ↔
      DropsOnly (fun _ _ => false) listed j)) : ∃ v ∈ l, v.tag = tag ∧ v.Says j a := by
  obtain ⟨v, hv, htag, hsaid⟩ := h
  rw [prune_never] at hsaid
  exact ⟨v, hv, htag, hsaid.mpr fun _ _ => nofun⟩

lemma Format.exact_enum {variants : List (Variant α)} {write : α → String × Json}
    {htags : (variants.map Variant.tag).Nodup}
    {hwrite : ∀ a, ∃ v ∈ variants, v.tag = (write a).1 ∧ v.Says (write a).2 a}
    (hlisted : ∀ a, write a ∉ listed)
    (hexact : ∀ a, ∃ v ∈ variants, v.tag = (write a).1 ∧
      (v.Says (prune drop (write a).2) a ↔ DropsOnly drop listed (write a).2)) :
    (Format.enum variants write htags hwrite).Exact drop listed := by
  intro a
  obtain ⟨v, hv, htag, hsaid⟩ := hexact a
  change (∃ w ∈ variants, ∃ body, Json.obj (pruneFields drop [((write a).1, (write a).2)]) =
    .obj [(w.tag, body)] ∧ w.Says body a) ↔ DropsOnly drop listed (.obj [write a])
  rw [dropsOnly_obj, List.forall_mem_singleton, ← hsaid, pruneFields, pruneFields]
  split
  · next hdrop =>
    refine iff_of_false ?_ fun h => hlisted a (h.1 hdrop)
    rintro ⟨w, -, body, h, -⟩
    cases h
  · next hkeep =>
    constructor
    · rintro ⟨w, hw, body, h, hbody⟩
      obtain ⟨hname, rfl⟩ : (write a).1 = w.tag ∧ prune drop (write a).2 = body := by simpa using h
      obtain rfl := List.inj_on_of_nodup_map htags hw hv (hname.symm.trans htag.symm)
      exact ⟨fun hdrop => absurd hdrop hkeep, hbody⟩
    · exact fun h => ⟨v, hv, _, by rw [htag], h.2⟩

end CeloLightClient.Lib.Json

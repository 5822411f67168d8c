import Mathlib.Tactic

/-!
Calls that return a value, return an error, or abort.

A program compiled with overflow checks and `panic = abort` has three ways to end a call: it
returns a value, it returns an error its caller can look at, or it stops the process. The
first two are the two sides of a `Result`; the third is no value of any type. `Outcome` keeps
the three apart, and `Action` adds a mutable state that survives an error, as the target of a
`&mut` does.
-/

namespace CeloLightClient.Lib

/-- How a call ends that returns no value. -/
inductive Fault (ε : Type)
  | err (e : ε)
  | panic
  deriving DecidableEq, Repr

/-- A value, an error, or an abort. -/
abbrev Outcome (ε α : Type) := Except (Fault ε) α

namespace Outcome

variable {ε ε' α β : Type}

/-- Return early with an error. -/
def fail (e : ε) : Outcome ε α := .error (.err e)

/-- Stop the process. -/
def abort : Outcome ε α := .error .panic

/-- `if !c { return Err(e) }`. -/
def ensure (c : Prop) [Decidable c] (e : ε) : Outcome ε Unit := if c then .ok () else fail e

/-- `Option::unwrap`. -/
def unwrap : Option α → Outcome ε α
  | some a => .ok a
  | none => abort

/-- The value of an option, or an early return with an error. -/
def okOr (o : Option α) (e : ε) : Outcome ε α :=
  match o with
  | some a => .ok a
  | none => fail e

/-- A `Result` of a call that cannot abort. -/
def ofExcept : Except ε α → Outcome ε α
  | .ok a => .ok a
  | .error e => fail e

/-- `Result::map_err`. -/
def mapErr (f : ε → ε') : Outcome ε α → Outcome ε' α
  | .ok a => .ok a
  | .error (.err e) => fail (f e)
  | .error .panic => abort

/-- `Result::expect`. -/
def expect : Outcome ε α → Outcome ε' α
  | .ok a => .ok a
  | .error _ => abort

/-- Keep the `Result` as a value instead of returning its error; an abort still aborts. -/
def attempt : Outcome ε α → Outcome ε' (Except ε α)
  | .ok a => .ok (.ok a)
  | .error (.err e) => .ok (.error e)
  | .error .panic => abort

@[simp] lemma ok_bind (a : α) (f : α → Outcome ε β) :
    ((Except.ok a : Outcome ε α) >>= f) = f a := rfl

@[simp] lemma error_bind (e : Fault ε) (f : α → Outcome ε β) :
    ((Except.error e : Outcome ε α) >>= f) = .error e := rfl

@[simp] lemma fail_bind (e : ε) (f : α → Outcome ε β) :
    ((fail e : Outcome ε α) >>= f) = fail e := rfl

@[simp] lemma abort_bind (f : α → Outcome ε β) : ((abort : Outcome ε α) >>= f) = abort := rfl

@[simp] lemma pure_eq_ok (a : α) : (pure a : Outcome ε α) = .ok a := rfl

@[simp] lemma fail_ne_ok (e : ε) (a : α) : (fail e : Outcome ε α) ≠ .ok a := by simp [fail]

@[simp] lemma abort_ne_ok (a : α) : (abort : Outcome ε α) ≠ .ok a := by simp [abort]

/-- **The inversion rule of sequencing.** -/
lemma bind_eq_ok {x : Outcome ε α} {f : α → Outcome ε β} {b : β} :
    (x >>= f) = .ok b ↔ ∃ a, x = .ok a ∧ f a = .ok b := by
  cases x with
  | ok a => simp
  | error e => simp

/-- The rule for errors: the first call to fail says which. -/
lemma bind_eq_fail {x : Outcome ε α} {f : α → Outcome ε β} {e : ε} :
    (x >>= f) = fail e ↔ x = fail e ∨ ∃ a, x = .ok a ∧ f a = fail e := by
  cases x with
  | ok a => simp [fail]
  | error e' => simp [fail]

lemma bind_eq_error {x : Outcome ε α} {f : α → Outcome ε β} {e : Fault ε} :
    (x >>= f) = .error e ↔ x = .error e ∨ ∃ a, x = .ok a ∧ f a = .error e := by
  cases x <;> simp

@[simp] lemma fail_inj {e e' : ε} : (fail e : Outcome ε α) = fail e' ↔ e = e' := by simp [fail]

@[simp] lemma ok_ne_fail (a : α) (e : ε) : (Except.ok a : Outcome ε α) ≠ fail e := by simp [fail]

@[simp] lemma abort_ne_fail (e : ε) : (abort : Outcome ε α) ≠ fail e := by simp [abort, fail]

@[simp] lemma ensure_eq_ok {c : Prop} [Decidable c] {e : ε} {u : Unit} :
    ensure c e = .ok u ↔ c := by
  by_cases h : c <;> simp [ensure, h]

lemma ensure_of {c : Prop} [Decidable c] {e : ε} (h : c) : ensure c e = .ok () := by
  simp [ensure, h]

lemma ensure_of_not {c : Prop} [Decidable c] {e : ε} (h : ¬ c) : ensure c e = fail e := by
  simp [ensure, h]

@[simp] lemma unwrap_some (a : α) : (unwrap (some a) : Outcome ε α) = .ok a := rfl

@[simp] lemma unwrap_none : (unwrap (none : Option α) : Outcome ε α) = abort := rfl

@[simp] lemma unwrap_eq_ok {o : Option α} {a : α} :
    (unwrap o : Outcome ε α) = .ok a ↔ o = some a := by
  cases o <;> simp

@[simp] lemma unwrap_ne_fail (o : Option α) (e : ε) : (unwrap o : Outcome ε α) ≠ fail e := by
  cases o <;> simp

@[simp] lemma okOr_eq_ok {o : Option α} {e : ε} {a : α} : okOr o e = .ok a ↔ o = some a := by
  cases o <;> simp [okOr]

@[simp] lemma ofExcept_ok (a : α) : (ofExcept (.ok a) : Outcome ε α) = .ok a := rfl

@[simp] lemma ofExcept_error (e : ε) : (ofExcept (.error e) : Outcome ε α) = fail e := rfl

@[simp] lemma ofExcept_eq_ok {x : Except ε α} {a : α} : ofExcept x = .ok a ↔ x = .ok a := by
  cases x <;> simp

@[simp] lemma mapErr_ok (f : ε → ε') (a : α) :
    mapErr f (.ok a : Outcome ε α) = .ok a := rfl

@[simp] lemma mapErr_fail (f : ε → ε') (e : ε) :
    mapErr f (fail e : Outcome ε α) = fail (f e) := rfl

@[simp] lemma mapErr_eq_ok {f : ε → ε'} {x : Outcome ε α} {a : α} :
    mapErr f x = .ok a ↔ x = .ok a := by
  rcases x with (_ | _) | _ <;> simp [mapErr]

lemma mapErr_eq_fail {f : ε → ε'} {x : Outcome ε α} {e' : ε'} :
    mapErr f x = fail e' ↔ ∃ e, x = fail e ∧ f e = e' := by
  rcases x with (_ | _) | _ <;> simp [mapErr, fail, abort]

lemma ensure_eq_fail {c : Prop} [Decidable c] {e e' : ε} :
    ensure c e = fail e' ↔ ¬ c ∧ e = e' := by
  by_cases h : c <;> simp [ensure, h]

@[simp] lemma attempt_ok (a : α) :
    (attempt (.ok a : Outcome ε α) : Outcome ε' _) = .ok (.ok a) := rfl

@[simp] lemma attempt_eq_ok_ok {x : Outcome ε α} {a : α} :
    (attempt x : Outcome ε' _) = .ok (.ok a) ↔ x = .ok a := by
  rcases x with (_ | _) | _ <;> simp [attempt]

/-! ### Which calls return a value, and which abort -/

@[simp] lemma ok_ne_abort (a : α) : (Except.ok a : Outcome ε α) ≠ abort := by simp [abort]

@[simp] lemma fail_ne_abort (e : ε) : (fail e : Outcome ε α) ≠ abort := by simp [fail, abort]

@[simp] lemma ofExcept_ne_abort (x : Except ε α) : ofExcept x ≠ abort := by
  cases x <;> simp

@[simp] lemma okOr_ne_abort (o : Option α) (e : ε) : okOr o e ≠ abort := by
  cases o <;> simp [okOr]

@[simp] lemma ensure_ne_abort {c : Prop} [Decidable c] (e : ε) : ensure c e ≠ abort := by
  unfold ensure
  split <;> simp

@[simp] lemma unwrap_eq_abort {o : Option α} : (unwrap o : Outcome ε α) = abort ↔ o = none := by
  cases o <;> simp

@[simp] lemma mapErr_eq_abort {f : ε → ε'} {x : Outcome ε α} : mapErr f x = abort ↔ x = abort := by
  rcases x with (_ | _) | _ <;> simp [mapErr, fail, abort]

lemma toOption_eq_some {x : Outcome ε α} {a : α} : x.toOption = some a ↔ x = .ok a := by
  rcases x with e | a <;> simp [Except.toOption]

@[simp] lemma attempt_eq_abort {x : Outcome ε α} :
    (attempt x : Outcome ε' _) = abort ↔ x = abort := by
  rcases x with (_ | _) | _ <;> simp [attempt, abort]

lemma attempt_bind_ofExcept {x : Outcome ε α} {f : α → Outcome ε β} :
    (do
      let r ← attempt x
      let a ← ofExcept r
      f a) = x >>= f := by
  rcases x with (_ | _) | _ <;> rfl

lemma exists_attempt_eq_ok {x : Outcome ε α} :
    (∃ r, (attempt x : Outcome ε' _) = .ok r) ↔ x ≠ abort := by
  rcases x with (_ | _) | _ <;> simp [attempt, abort]

@[simp] lemma expect_eq_ok {x : Outcome ε α} {a : α} :
    (expect x : Outcome ε' α) = .ok a ↔ x = .ok a := by
  cases x <;> simp [expect]

lemma expect_eq_abort {x : Outcome ε α} :
    (expect x : Outcome ε' α) = abort ↔ ¬ ∃ a, x = .ok a := by
  cases x <;> simp [expect]

/-- The rule for aborts: what comes before the call that aborts has returned. -/
lemma bind_eq_abort {x : Outcome ε α} {f : α → Outcome ε β} :
    (x >>= f) = abort ↔ x = abort ∨ ∃ a, x = .ok a ∧ f a = abort := by
  cases x with
  | ok a => simp
  | error e => simp [abort]

lemma exists_bind_eq_ok {x : Outcome ε α} {f : α → Outcome ε β} :
    (∃ b, (x >>= f) = .ok b) ↔ ∃ a, x = .ok a ∧ ∃ b, f a = .ok b := by
  cases x <;> simp

instance decidableExistsEqOk : ∀ x : Outcome ε α, Decidable (∃ a, x = .ok a)
  | .ok a => isTrue ⟨a, rfl⟩
  | .error e => isFalse (by simp)

/-- One of the list is bad, and those before it are good. -/
def Reaches (good bad : α → Prop) : List α → Prop
  | [] => False
  | a :: l => bad a ∨ good a ∧ Reaches good bad l

instance decidableReaches (good bad : α → Prop) [DecidablePred good] [DecidablePred bad] :
    DecidablePred (Reaches good bad)
  | [] => instDecidableFalse
  | _ :: l =>
    have := decidableReaches good bad l
    inferInstanceAs (Decidable (_ ∨ _ ∧ _))

@[simp] lemma reaches_nil (good bad : α → Prop) : ¬ Reaches good bad [] := id

@[simp] lemma reaches_cons {good bad : α → Prop} {a : α} {l : List α} :
    Reaches good bad (a :: l) ↔ bad a ∨ good a ∧ Reaches good bad l := Iff.rfl

lemma mapM_eq_abort {f : α → Outcome ε β} {l : List α} :
    l.mapM f = abort ↔ Reaches (fun a => ∃ b, f a = .ok b) (fun a => f a = abort) l := by
  induction l with
  | nil => simp
  | cons a l ih => simp [bind_eq_abort, ih]

lemma mapM_ne_abort {f : α → Outcome ε β} {l : List α} (h : ∀ a, f a ≠ abort) :
    l.mapM f ≠ abort := by
  induction l with
  | nil => simp
  | cons a l ih => simp [bind_eq_abort, h, ih]

/-- **The rule for loops.** What holds before a loop, and is carried on by each of its rounds, holds
after it. The invariant may speak of the items so far. -/
theorem foldlM_invariant {σ : Type} {f : σ → α → Outcome ε σ} {I : List α → σ → Prop} {l : List α}
    {s t : σ} (h : l.foldlM f s = .ok t) (hs : I [] s)
    (hstep : ∀ l₁ a l₂ u v, l = l₁ ++ a :: l₂ → I l₁ u → f u a = .ok v → I (l₁ ++ [a]) v) :
    I l t := by
  induction l using List.reverseRecOn generalizing t with
  | nil => cases h; exact hs
  | append_singleton l a ih =>
    rw [List.foldlM_append] at h
    obtain ⟨u, hu, h⟩ := bind_eq_ok.mp h
    obtain ⟨v, hv, h⟩ := bind_eq_ok.mp h
    cases h
    refine hstep l a [] u t rfl (ih hu fun l₁ b l₂ v w hl => ?_) hv
    exact hstep l₁ b (l₂ ++ [a]) v w (by rw [hl, List.append_assoc, List.cons_append])

/-- The rule for calls that are known but for some: until one of those is reached, a list is read as
its items are. -/
lemma mapM_of_not_reaches {f : α → Outcome ε β} {R : α → β → Prop} {bad : α → Prop}
    (hf : ∀ a, ¬ bad a → f a ≠ abort ∧ ∀ b, f a = .ok b ↔ R a b) {l : List α}
    (h : ¬ Reaches (fun a => ∃ b, R a b) bad l) :
    l.mapM f ≠ abort ∧ ∀ bs, l.mapM f = .ok bs ↔ List.Forall₂ R l bs := by
  induction l with
  | nil => simp [eq_comm]
  | cons a l ih =>
    rw [reaches_cons, not_or, not_and] at h
    obtain ⟨habort, hok⟩ := hf a h.1
    rw [List.mapM_cons]
    rcases hfa : f a with e | b
    · -- the call fails, and is not in the relation
      have hnot (b : β) : ¬ R a b := fun hb => by simp [(hok b).mpr hb] at hfa
      have he : e ≠ .panic := by simpa [hfa, abort] using habort
      refine ⟨by simpa [abort] using he, fun bs => iff_of_false (by simp) fun hall => ?_⟩
      obtain ⟨b, _, hb, -, -⟩ := List.forall₂_cons_left_iff.mp hall
      exact hnot b hb
    · have hb := (hok b).mp hfa
      obtain ⟨htail, hiff⟩ := ih (h.2 ⟨b, hb⟩)
      constructor
      · rw [ok_bind, Ne, bind_eq_abort]
        simpa using htail
      · intro bs
        simp only [ok_bind, bind_eq_ok, pure_eq_ok, Except.ok.injEq]
        constructor
        · rintro ⟨tail, hread, rfl⟩
          exact .cons hb ((hiff tail).mp hread)
        · intro hall
          obtain ⟨c, tail, hc, hrest, rfl⟩ := List.forall₂_cons_left_iff.mp hall
          obtain rfl := Except.ok.inj (hfa.symm.trans ((hok c).mpr hc))
          exact ⟨tail, (hiff tail).mpr hrest, rfl⟩

lemma exists_mapM_eq_ok {f : α → Outcome ε β} {l : List α} :
    (∃ bs, l.mapM f = .ok bs) ↔ ∀ a ∈ l, ∃ b, f a = .ok b := by
  induction l with
  | nil => simp
  | cons a l ih => simp [exists_bind_eq_ok, ih]

/-! ### Arithmetic on 64-bit words, with overflow checks on -/

/-- `a + b`. -/
def add (a b : UInt64) : Outcome ε UInt64 :=
  if a.toNat + b.toNat < 2 ^ 64 then .ok (a + b) else abort

/-- `a - b`. -/
def sub (a b : UInt64) : Outcome ε UInt64 := if b ≤ a then .ok (a - b) else abort

/-- `a * b`. -/
def mul (a b : UInt64) : Outcome ε UInt64 :=
  if a.toNat * b.toNat < 2 ^ 64 then .ok (a * b) else abort

/-- `a / b`. -/
def div (a b : UInt64) : Outcome ε UInt64 := if b = 0 then abort else .ok (a / b)

/-- `a % b`. -/
def rem (a b : UInt64) : Outcome ε UInt64 := if b = 0 then abort else .ok (a % b)

lemma checked_eq_ok {n : ℕ} {x c : UInt64} (hx : n < 2 ^ 64 → x.toNat = n) :
    (if n < 2 ^ 64 then .ok x else abort : Outcome ε UInt64) = .ok c ↔ c.toNat = n := by
  split
  · next h =>
    rw [Except.ok.injEq, ← UInt64.toNat_inj, hx h]
    exact eq_comm
  · next h =>
    have hlt := c.toNat_lt
    simp only [abort_ne_ok, false_iff]
    omega

lemma add_eq_ok {a b c : UInt64} :
    (add a b : Outcome ε UInt64) = .ok c ↔ c.toNat = a.toNat + b.toNat :=
  checked_eq_ok fun h => by rw [UInt64.toNat_add, Nat.mod_eq_of_lt h]

lemma add_of_lt {a b : UInt64} (h : a.toNat + b.toNat < 2 ^ 64) :
    (add a b : Outcome ε UInt64) = .ok (a + b) := if_pos h

lemma add_of_le {a b : UInt64} (h : 2 ^ 64 ≤ a.toNat + b.toNat) :
    (add a b : Outcome ε UInt64) = abort := if_neg (by omega)

@[simp] lemma add_ne_fail (a b : UInt64) (e : ε) : (add a b : Outcome ε UInt64) ≠ fail e := by
  unfold add
  split <;> simp

lemma sub_eq_ok {a b c : UInt64} :
    (sub a b : Outcome ε UInt64) = .ok c ↔ b.toNat ≤ a.toNat ∧ c.toNat = a.toNat - b.toNat := by
  unfold sub
  split
  · next h =>
    rw [Except.ok.injEq, ← UInt64.toNat_inj, UInt64.toNat_sub_of_le _ _ h]
    have hle := UInt64.le_iff_toNat_le.mp h
    simp only [hle, true_and]
    exact eq_comm
  · next h =>
    rw [UInt64.le_iff_toNat_le] at h
    simp [h]

lemma mul_eq_ok {a b c : UInt64} :
    (mul a b : Outcome ε UInt64) = .ok c ↔ c.toNat = a.toNat * b.toNat :=
  checked_eq_ok fun h => by rw [UInt64.toNat_mul, Nat.mod_eq_of_lt h]

lemma div_of_pos {a b : UInt64} (h : 0 < b) : (div a b : Outcome ε UInt64) = .ok (a / b) := by
  have hb : b ≠ 0 := by rintro rfl; exact absurd h (by decide)
  simp [div, hb]

lemma rem_of_pos {a b : UInt64} (h : 0 < b) : (rem a b : Outcome ε UInt64) = .ok (a % b) := by
  have hb : b ≠ 0 := by rintro rfl; exact absurd h (by decide)
  simp [rem, hb]

/-- `a - b` on `usize`. -/
def subSize (a b : ℕ) : Outcome ε ℕ := if b ≤ a then .ok (a - b) else abort

/-- `&data[..n]`. -/
def sliceTo (data : List α) (n : ℕ) : Outcome ε (List α) :=
  if n ≤ data.length then .ok (data.take n) else abort

/-- `&data[n..]`. -/
def sliceFrom (data : List α) (n : ℕ) : Outcome ε (List α) :=
  if n ≤ data.length then .ok (data.drop n) else abort

/-- `data[i]`. -/
def index (data : List α) (i : ℕ) : Outcome ε α := unwrap data[i]?

lemma sliceTo_of_le {data : List α} {n : ℕ} (h : n ≤ data.length) :
    (sliceTo data n : Outcome ε _) = .ok (data.take n) := by simp [sliceTo, h]

lemma sliceFrom_of_le {data : List α} {n : ℕ} (h : n ≤ data.length) :
    (sliceFrom data n : Outcome ε _) = .ok (data.drop n) := by simp [sliceFrom, h]

lemma subSize_eq_ok {a b c : ℕ} : (subSize a b : Outcome ε ℕ) = .ok c ↔ b ≤ a ∧ a - b = c := by
  unfold subSize
  split <;> simp [*]

@[simp] lemma subSize_eq_abort {a b : ℕ} : (subSize a b : Outcome ε ℕ) = abort ↔ a < b := by
  unfold subSize
  split <;> simp_all

lemma subSize_of_le {a b : ℕ} (h : b ≤ a) : (subSize a b : Outcome ε ℕ) = .ok (a - b) := by
  simp [subSize, h]

end Outcome

/-! ### Calls that write to a state -/

/-- A call with a mutable state of type `σ`. What it has written when it fails stays written. -/
abbrev Action (σ ε α : Type) := ExceptT (Fault ε) (StateM σ) α

namespace Action

open Outcome

variable {σ ε α β : Type}

/-- The outcome of the call on state `s`, and the state it leaves. -/
def exec (x : Action σ ε α) (s : σ) : Outcome ε α × σ := StateT.run (ExceptT.run x) s

@[simp] lemma exec_pure (a : α) (s : σ) : exec (pure a : Action σ ε α) s = (.ok a, s) := rfl

@[simp] lemma exec_bind (x : Action σ ε α) (f : α → Action σ ε β) (s : σ) :
    exec (x >>= f) s =
      match exec x s with
      | (.ok a, s') => exec (f a) s'
      | (.error e, s') => (.error e, s') := by
  unfold exec
  rw [ExceptT.run_bind, StateT.run_bind]
  rcases StateT.run (ExceptT.run x) s with ⟨_ | _, _⟩ <;> rfl

@[simp] lemma exec_lift (x : Outcome ε α) (s : σ) :
    exec (liftM x : Action σ ε α) s = (x, s) := by
  cases x <;> rfl

@[simp] lemma exec_throw (e : Fault ε) (s : σ) :
    exec (throw e : Action σ ε α) s = (.error e, s) := rfl

@[simp] lemma exec_get (s : σ) : exec (get : Action σ ε σ) s = (.ok s, s) := rfl

@[simp] lemma exec_get_bind (f : σ → Action σ ε α) (s : σ) :
    exec (get >>= f) s = exec (f s) s := rfl

@[simp] lemma exec_set (t s : σ) : exec (set t : Action σ ε PUnit) s = (.ok ⟨⟩, t) := rfl

@[simp] lemma exec_modify (f : σ → σ) (s : σ) :
    exec (modify f : Action σ ε PUnit) s = (.ok ⟨⟩, f s) := rfl

lemma exec_ite (c : Prop) [Decidable c] (x y : Action σ ε α) (s : σ) :
    exec (if c then x else y) s = if c then exec x s else exec y s := by
  split <;> rfl

lemma exec_of_fst {x : Action σ ε α} {s : σ} {a : α} (h : (exec x s).1 = .ok a) :
    exec x s = (.ok a, (exec x s).2) := Prod.ext h rfl

/-- **The inversion rule of sequencing**, with the state in between. -/
lemma exec_bind_eq_ok {x : Action σ ε α} {f : α → Action σ ε β} {s s' : σ} {b : β} :
    exec (x >>= f) s = (.ok b, s') ↔
      ∃ a t, exec x s = (.ok a, t) ∧ exec (f a) t = (.ok b, s') := by
  rw [exec_bind]
  rcases h : exec x s with ⟨_ | a, t⟩
  · simp
  · simp

lemma exec_lift_bind_eq_ok {x : Outcome ε α} {f : α → Action σ ε β} {s s' : σ} {b : β} :
    exec ((liftM x : Action σ ε α) >>= f) s = (.ok b, s') ↔
      ∃ a, x = .ok a ∧ exec (f a) s = (.ok b, s') := by
  rw [exec_bind_eq_ok, exec_lift]
  constructor
  · rintro ⟨a, t, h, hf⟩
    cases h
    exact ⟨a, rfl, hf⟩
  · rintro ⟨a, rfl, hf⟩
    exact ⟨a, s, rfl, hf⟩

lemma exec_lift_bind_of_ok {x : Outcome ε α} {a : α} (h : x = .ok a) (f : α → Action σ ε β)
    (s : σ) : exec ((liftM x : Action σ ε α) >>= f) s = exec (f a) s := by
  rw [exec_bind, exec_lift, h]

lemma exec_lift_bind_of_error {x : Outcome ε α} {e : Fault ε} (h : x = .error e)
    (f : α → Action σ ε β) (s : σ) :
    exec ((liftM x : Action σ ε α) >>= f) s = (.error e, s) := by
  rw [exec_bind, exec_lift, h]

lemma exec_lift_bind_of_fail {x : Outcome ε α} {e : ε} (h : x = fail e) (f : α → Action σ ε β)
    (s : σ) : exec ((liftM x : Action σ ε α) >>= f) s = (fail e, s) := exec_lift_bind_of_error h f s

lemma fst_exec_lift_bind (x : Outcome ε α) (f : α → Action σ ε β) (s : σ) :
    (exec ((liftM x : Action σ ε α) >>= f) s).1 = x >>= fun a => (exec (f a) s).1 := by
  rw [exec_bind, exec_lift]
  cases x <;> rfl

/-! ### Errors that a call does not return -/

/-- The call never returns the error `e`. -/
def Avoids (e : ε) (x : Action σ ε α) : Prop := ∀ s, (exec x s).1 ≠ fail e

variable {e : ε} {x : Action σ ε α} {y : Outcome ε α} {f : α → Action σ ε β}

lemma avoids_lift (h : y ≠ fail e) : Avoids e (liftM y : Action σ ε α) := fun s => by
  rwa [exec_lift]

lemma Avoids.bind (hx : Avoids e x) (hf : ∀ a, Avoids e (f a)) : Avoids e (x >>= f) := fun s => by
  have hs := hx s
  rw [exec_bind]
  rcases hexec : exec x s with ⟨e' | a, t⟩
  · intro h
    exact hs (by simpa [hexec, fail] using h)
  · exact hf a t

lemma avoids_lift_bind (hy : y ≠ fail e) (hf : ∀ a, y = .ok a → Avoids e (f a)) :
    Avoids e ((liftM y : Action σ ε α) >>= f) := fun s => by
  rw [exec_bind, exec_lift]
  rcases y with e' | a
  · intro h
    exact hy (by simpa [fail] using h)
  · exact hf a rfl s

/-! ### What a call leaves behind -/

/-- A call that fails has written nothing. -/
def Atomic (x : Action σ ε α) : Prop := ∀ s, (∃ a, (exec x s).1 = .ok a) ∨ (exec x s).2 = s

lemma atomic_of_ok (h : ∀ s, ∃ a, (exec x s).1 = .ok a) : Atomic x := fun s => .inl (h s)

lemma atomic_lift_bind (hf : ∀ a, y = .ok a → Atomic (f a)) :
    Atomic ((liftM y : Action σ ε α) >>= f) := fun s => by
  rw [exec_bind, exec_lift]
  rcases y with e' | a
  · exact .inr rfl
  · exact hf a rfl s

/-- Whatever comes of the call, what is seen of the state stays as it is. -/
def Keeps {γ : Type} (seen : σ → γ) (x : Action σ ε α) : Prop := ∀ s, seen (exec x s).2 = seen s

variable {γ : Type} {seen : σ → γ}

lemma keeps_lift : Keeps seen (liftM y : Action σ ε α) := fun s => by rw [exec_lift]

lemma Keeps.bind (hx : Keeps seen x) (hf : ∀ a, Keeps seen (f a)) : Keeps seen (x >>= f) :=
  fun s => by
  have hs := hx s
  rw [exec_bind]
  rcases hexec : exec x s with ⟨e' | a, t⟩
  · rwa [hexec] at hs
  · rw [hexec] at hs
    exact (hf a t).trans hs

lemma keeps_lift_bind (hf : ∀ a, y = .ok a → Keeps seen (f a)) :
    Keeps seen ((liftM y : Action σ ε α) >>= f) := fun s => by
  rw [exec_bind, exec_lift]
  rcases y with e' | a
  · rfl
  · exact hf a rfl s

lemma leaves_lift_bind {Q : σ → Prop} {s : σ} (hs : Q s)
    (hf : ∀ a, y = .ok a → Q (exec (f a) s).2) :
    Q (exec ((liftM y : Action σ ε α) >>= f) s).2 := by
  rw [exec_bind, exec_lift]
  rcases y with e' | a
  · exact hs
  · exact hf a rfl

/-! ### Calls that do not look at the state -/

/-- The outcome is the same in every state. -/
def Blind (x : Action σ ε α) : Prop := ∀ s t, (exec x s).1 = (exec x t).1

lemma blind_lift : Blind (liftM y : Action σ ε α) := fun s t => by rw [exec_lift, exec_lift]

lemma blind_of_ok {a : α} (h : ∀ s, (exec x s).1 = .ok a) : Blind x :=
  fun s t => (h s).trans (h t).symm

lemma blind_lift_bind (hf : ∀ a, y = .ok a → Blind (f a)) :
    Blind ((liftM y : Action σ ε α) >>= f) := fun s t => by
  rw [fst_exec_lift_bind, fst_exec_lift_bind]
  rcases y with e' | a
  · rfl
  · exact hf a rfl s t

end Action

end CeloLightClient.Lib

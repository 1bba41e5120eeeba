/-!
# `Lib.Dialog` — programs that only ask

A program of which all that is seen is what it asks and what it comes to: `Dialog Q A α` asks questions in
`Q`, goes on as their answers in `A` tell it to, and ends in an `α`. It ends whatever it is told. `run` has
the questions answered by a function on a state; **`All.run`** is the rule for what holds of the end under
every answer. `eval` is the run whose answers are fixed, `Asks` says what is asked and `AtMost` how often.

A function that calls another through a pointer is such a program, and so is a library nobody has read.
-/

/-- A program that asks. -/
inductive Dialog (Q A α : Type) where
  | ret (a : α)
  | ask (q : Q) (k : A → Dialog Q A α)

namespace Dialog

variable {Q A α β σ : Type}

/-- One program after the other. -/
def bind : Dialog Q A α → (α → Dialog Q A β) → Dialog Q A β
  | ret a, f => f a
  | ask q k, f => ask q fun answer => (k answer).bind f

instance : Monad (Dialog Q A) where
  pure := ret
  bind := bind

/-- One question. -/
def query (q : Q) : Dialog Q A A := ask q ret

/-- The program, its questions answered on a state. -/
def run (answer : Q → σ → A × σ) : Dialog Q A α → σ → α × σ
  | ret a, s => (a, s)
  | ask q k, s =>
      let (a, s) := answer q s
      run answer (k a) s

/-- What a program comes to is in `P`, whatever it is told. -/
def All (P : α → Prop) : Dialog Q A α → Prop
  | ret a => P a
  | ask _ k => ∀ a, All P (k a)

variable {P P' : α → Prop} {p : Dialog Q A α}

@[simp] theorem all_query {q : Q} {P : A → Prop} : (query q : Dialog Q A A).All P ↔ ∀ a, P a := Iff.rfl

@[simp] theorem all_bind {f : α → Dialog Q A β} {P : β → Prop} :
    (p >>= f).All P ↔ p.All fun a => (f a).All P := by
  induction p with
  | ret a => rfl
  | ask q k ih => exact forall_congr' ih

theorem All.mono (h : p.All P) (himp : ∀ a, P a → P' a) : p.All P' := by
  induction p with
  | ret a => exact himp a h
  | ask q k ih => exact fun a => ih a (h a)

/-- What all ends have in common. -/
theorem all_of_forall (h : ∀ a, P a) (p : Dialog Q A α) : p.All P := by
  induction p with
  | ret a => exact h a
  | ask q k ih => exact ih

/-- **Every run comes to such an end.** -/
theorem All.run {answer : Q → σ → A × σ} {s : σ} (h : p.All P) : P (p.run answer s).1 := by
  induction p generalizing s with
  | ret a => exact h
  | ask q k ih => exact ih _ (h _)

/-! ## Fixed answers -/

/-- What a program comes to when a function answers it. -/
def eval (f : Q → A) : Dialog Q A α → α
  | ret a => a
  | ask q k => eval f (k (f q))

@[simp] theorem eval_pure (f : Q → A) (a : α) : (pure a : Dialog Q A α).eval f = a := rfl

@[simp] theorem eval_query (f : Q → A) (q : Q) : (query q).eval f = f q := rfl

@[simp] theorem eval_bind (f : Q → A) (p : Dialog Q A α) (g : α → Dialog Q A β) :
    (p >>= g).eval f = (g (p.eval f)).eval f := by
  induction p with
  | ret a => rfl
  | ask q k ih => exact ih (f q)

theorem All.eval {f : Q → A} (h : p.All P) : P (p.eval f) := by
  induction p with
  | ret a => exact h
  | ask q k ih => exact ih (f q) (h (f q))

/-! ## What is asked, and how often -/

/-- Every question is in `P`, whatever the answers are. -/
def Asks (P : Q → Prop) : Dialog Q A α → Prop
  | ret _ => True
  | ask q k => P q ∧ ∀ a, Asks P (k a)

/-- No more than so many questions are asked, whatever the answers are. -/
def AtMost : Nat → Dialog Q A α → Prop
  | _, ret _ => True
  | 0, ask _ _ => False
  | n + 1, ask _ k => ∀ a, AtMost n (k a)

theorem asks_query {R : Q → Prop} {q : Q} (h : R q) : (query q : Dialog Q A A).Asks R :=
  ⟨h, fun _ => trivial⟩

theorem Asks.bind {R : Q → Prop} {p : Dialog Q A α} {f : α → Dialog Q A β} (hp : p.Asks R)
    (hf : ∀ a, (f a).Asks R) : (p >>= f).Asks R := by
  induction p with
  | ret a => exact hf a
  | ask q k ih => exact ⟨hp.1, fun a => ih a (hp.2 a)⟩

theorem atMost_pure (n : Nat) (a : α) : (pure a : Dialog Q A α).AtMost n := by
  cases n <;> exact trivial

theorem AtMost.mono {n m : Nat} {p : Dialog Q A α} (h : p.AtMost n) (hle : n ≤ m) : p.AtMost m := by
  induction p generalizing n m with
  | ret a => exact atMost_pure m a
  | ask q k ih =>
      cases n with
      | zero => exact h.elim
      | succ n =>
          obtain ⟨k', rfl⟩ := Nat.exists_eq_add_of_le hle
          rw [Nat.succ_add]
          exact fun a => ih a (h a) (Nat.le_add_right n k')

theorem atMost_query (q : Q) : (query q : Dialog Q A A).AtMost 1 := fun _ => trivial

theorem AtMost.bind {n m : Nat} {p : Dialog Q A α} {f : α → Dialog Q A β} (hp : p.AtMost n)
    (hf : ∀ a, (f a).AtMost m) : (p >>= f).AtMost (n + m) := by
  induction p generalizing n with
  | ret a => exact (hf a).mono (Nat.le_add_left m n)
  | ask q k ih =>
      cases n with
      | zero => exact hp.elim
      | succ n =>
          rw [Nat.succ_add]
          exact fun a => ih a (hp a)

end Dialog

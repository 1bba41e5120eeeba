import Liblaser.Lib.Dialog

/-!
# `Lib.Lossy` — programs on a source that may fail to answer

There is a record, which has an entry for some of the questions, and a source that answers out of it when it
answers at all (`Lossy`): an answer is as good as the entry (`R`), and there may be none, now and then or
always. What does a program come to on such a source, compared with what it comes to on the record?

One that gives up at the first question without an answer (`Cautious`) comes to what the record says, or to
what it gives up with: **`Cautious.run_lossy`**. Where every entry is delivered (`Delivering`) any program
comes to what the record says: **`Respects.run_delivering`**. Both are of programs that do not tell apart
answers that are as good as each other (`Respects`).
-/

namespace Dialog

variable {Q A α β σ : Type} {answer : Q → σ → Option A × σ} {I : σ → Prop} {R : A → A → Prop}
  {record : Q → Option A} {p : Dialog Q (Option A) α} {d : α} {s : σ}

/-- In the states `I`, which it does not leave, the source answers out of the record or not at all. -/
structure Lossy (answer : Q → σ → Option A × σ) (I : σ → Prop) (R : A → A → Prop)
    (record : Q → Option A) : Prop where
  keeps : ∀ q s, I s → I (answer q s).2
  truthful : ∀ q s a, I s → (answer q s).1 = some a → ∃ b, record q = some b ∧ R a b

/-- It does answer, when there is an entry. -/
structure Delivering (answer : Q → σ → Option A × σ) (I : σ → Prop) (R : A → A → Prop)
    (record : Q → Option A) : Prop extends Lossy answer I R record where
  delivers : ∀ q s b, I s → record q = some b → ∃ a, (answer q s).1 = some a

/-- Answers that are as good as each other make no difference to the program. -/
def Respects (R : A → A → Prop) : Dialog Q (Option A) α → Prop
  | ret _ => True
  | ask _ k => (∀ a b, R a b → k (some a) = k (some b)) ∧ ∀ a, Respects R (k a)

/-- The program gives up with `d` at a question without an answer. -/
def Cautious (d : α) : Dialog Q (Option A) α → Prop
  | ret _ => True
  | ask _ k => k none = ret d ∧ ∀ a, Cautious d (k (some a))

/-! ## Composition -/

theorem respects_pure (R : A → A → Prop) (a : α) : (pure a : Dialog Q (Option A) α).Respects R := trivial

theorem cautious_pure (d a : α) : (pure a : Dialog Q (Option A) α).Cautious d := trivial

/-- A question first. -/
theorem respects_query_bind {q : Q} {f : Option A → Dialog Q (Option A) α}
    (hsame : ∀ a b, R a b → f (some a) = f (some b)) (hf : ∀ a, (f a).Respects R) :
    (query q >>= f).Respects R := ⟨hsame, hf⟩

theorem cautious_query_bind {q : Q} {f : Option A → Dialog Q (Option A) α} (hnone : f none = pure d)
    (hf : ∀ a, (f (some a)).Cautious d) : (query q >>= f).Cautious d := ⟨hnone, hf⟩

theorem Respects.bind {f : α → Dialog Q (Option A) β} (hp : p.Respects R) (hf : ∀ a, (f a).Respects R) :
    (p >>= f).Respects R := by
  induction p with
  | ret a => exact hf a
  | ask q k ih =>
      refine ⟨?_, fun a => ih a (hp.2 a)⟩
      intro a b hab
      exact congrArg (fun p => p.bind f) (hp.1 a b hab)

/-- Giving up in the first part is giving up, when the second part has nothing to ask then. -/
theorem Cautious.bind {f : α → Dialog Q (Option A) β} {e : β} (hp : p.Cautious d) (hd : f d = pure e)
    (hf : ∀ a, (f a).Cautious e) : (p >>= f).Cautious e := by
  induction p with
  | ret a => exact hf a
  | ask q k ih =>
      refine ⟨?_, fun a => ih (some a) (hp.2 a)⟩
      show (k none).bind f = ret e
      rw [hp.1]
      exact hd

/-- Answers to what is not asked make no difference. -/
theorem Asks.eval_congr {A : Type} {p : Dialog Q A α} {P : Q → Prop} {f g : Q → A} (hasks : p.Asks P)
    (hsame : ∀ q, P q → f q = g q) : p.eval f = p.eval g := by
  induction p with
  | ret a => rfl
  | ask q k ih =>
      show (k (f q)).eval f = (k (g q)).eval g
      rw [hsame q hasks.1]
      exact ih (g q) (hasks.2 (g q))

/-! ## Runs -/

@[simp] theorem run_pure {A : Type} (answer : Q → σ → A × σ) (a : α) (s : σ) :
    (pure a : Dialog Q A α).run answer s = (a, s) := rfl

@[simp] theorem run_bind {A : Type} (answer : Q → σ → A × σ) (p : Dialog Q A α) (f : α → Dialog Q A β)
    (s : σ) : (p >>= f).run answer s = (f (p.run answer s).1).run answer (p.run answer s).2 := by
  induction p generalizing s with
  | ret a => rfl
  | ask q k ih => exact ih (answer q s).1 (answer q s).2

@[simp] theorem run_query {A : Type} (answer : Q → σ → A × σ) (q : Q) (s : σ) :
    (query q).run answer s = answer q s := rfl

/-- A run keeps what its answers keep. -/
theorem run_keeps {A : Type} {answer : Q → σ → A × σ} (hkeeps : ∀ q s, I s → I (answer q s).2)
    (p : Dialog Q A α) (hs : I s) : I (p.run answer s).2 := by
  induction p generalizing s with
  | ret a => exact hs
  | ask q k ih => exact ih _ (hkeeps q s hs)

/-- **A cautious program comes to what the record says, or gives up.** -/
theorem Cautious.run_lossy (hlossy : Lossy answer I R record) (hcautious : p.Cautious d)
    (hrespects : p.Respects R) (hs : I s) :
    (p.run answer s).1 = d ∨ (p.run answer s).1 = p.eval record := by
  induction p generalizing s with
  | ret a => exact .inr rfl
  | ask q k ih =>
      show ((k (answer q s).1).run answer (answer q s).2).1 = d
        ∨ ((k (answer q s).1).run answer (answer q s).2).1 = (k (record q)).eval record
      cases hanswer : (answer q s).1 with
      | none =>
          left
          rw [hcautious.1]
          rfl
      | some a =>
          obtain ⟨b, hb, hab⟩ := hlossy.truthful q s a hs hanswer
          rw [hb, ← hrespects.1 a b hab]
          exact ih (some a) (hcautious.2 a) (hrespects.2 _) (hlossy.keeps q s hs)

/-- **On a source that delivers, any program comes to what the record says.** -/
theorem Respects.run_delivering (hdelivering : Delivering answer I R record) (hrespects : p.Respects R)
    (hs : I s) : (p.run answer s).1 = p.eval record := by
  induction p generalizing s with
  | ret a => rfl
  | ask q k ih =>
      show ((k (answer q s).1).run answer (answer q s).2).1 = (k (record q)).eval record
      have hrest := ih (answer q s).1 (hrespects.2 _) (hdelivering.keeps q s hs)
      rw [hrest]
      cases hanswer : (answer q s).1 with
      | some a =>
          obtain ⟨b, hb, hab⟩ := hdelivering.truthful q s a hs hanswer
          rw [hb, hrespects.1 a b hab]
      | none =>
          cases hrecord : record q with
          | none => rfl
          | some b =>
              obtain ⟨a, ha⟩ := hdelivering.delivers q s b hs hrecord
              rw [hanswer] at ha
              cases ha

end Dialog

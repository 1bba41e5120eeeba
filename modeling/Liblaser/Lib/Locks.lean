import Mathlib.Data.List.Lattice
import Mathlib.Data.List.Nodup
import Mathlib.Logic.Function.Basic
import Mathlib.Order.WellFounded
import Liblaser.Lib.Transition

/-!
# `Lib.Locks` — programs that take and release locks

What a program does to its locks, with all else it does left to chance: `Code` is its control flow, each
condition a choice of either branch, and `Code.Runs` says which paths it can take and how it leaves them.

A path keeps to the order (`walk`) if each lock it takes has a higher rank than all it holds and each it
releases is one it holds. `Code.outcomes` decides that of every path of a program at once, a loop by the
locks at its head; **`Code.outcomes_sound`**. Threads that run such programs one after the other never come to
wait for each other in a circle: **`Kept.no_circular_wait`**, by the rank of the lock that is waited for.

Nothing here knows what the locks protect.
-/

namespace Locks

open Transition

variable {L R τ : Type}

/-! ## Paths -/

/-- One thing done to a lock. -/
inductive Op (L : Type) where
  | acquire (l : L)
  | release (l : L)
deriving DecidableEq, Repr

/-- What is done to locks, in order. -/
abbrev Path (L : Type) := List (Op L)

section Walk

variable [DecidableEq L] [LT R] [DecidableLT R]

/-- What is held after a path, if it keeps to the order. -/
def walk (rank : L → R) : List L → Path L → Option (List L)
  | held, [] => some held
  | held, .acquire l :: path =>
      if held.all fun k => decide (rank k < rank l) then walk rank (l :: held) path else none
  | held, .release l :: path => if held.contains l then walk rank (held.erase l) path else none

theorem walk_acquire {rank : L → R} {held : List L} {l : L} {path : Path L} :
    walk rank held (.acquire l :: path)
      = if held.all fun k => decide (rank k < rank l) then walk rank (l :: held) path else none := rfl

theorem walk_release {rank : L → R} {held : List L} {l : L} {path : Path L} :
    walk rank held (.release l :: path)
      = if held.contains l then walk rank (held.erase l) path else none := rfl

theorem walk_append {rank : L → R} {held : List L} {path path' : Path L} :
    walk rank held (path ++ path') = (walk rank held path).bind fun held' => walk rank held' path' := by
  induction path generalizing held with
  | nil => rfl
  | cons op path ih =>
      cases op with
      | acquire l =>
          rw [List.cons_append, walk_acquire, walk_acquire]
          split
          · exact ih
          · rfl
      | release l =>
          rw [List.cons_append, walk_release, walk_release]
          split
          · exact ih
          · rfl

end Walk

/-! ## Programs -/

/-- How a piece of a program is left. -/
inductive Exit where
  /-- By its end. -/
  | next
  | brk
  | cont
  | ret
deriving DecidableEq, Repr

/-- A program, as far as its locks and its ways out go. -/
inductive Code (L : Type) where
  | skip
  | lock (l : L)
  | unlock (l : L)
  /-- `break`, `continue`, `return`. -/
  | leave (e : Exit)
  | seq (first second : Code L)
  /-- One branch or the other. -/
  | either (yes no : Code L)
  /-- One of several programs. -/
  | any {n : Nat} (choices : Fin n → Code L)
  /-- Any number of times. -/
  | loop (body : Code L)
  /-- A function call: it goes on after the function's `return`. -/
  | call (body : Code L)

namespace Code

/-- Statements one after the other. -/
def block (statements : List (Code L)) : Code L := statements.foldr seq skip

/-- A branch without an `else`. -/
def whenever (branch : Code L) : Code L := either branch skip

/-- A wait on a condition variable: the lock is released, and taken again to go on. -/
def condWait (l : L) : Code L := block [unlock l, lock l]

/-- A path the program can take, and how it leaves it. -/
inductive Runs : Code L → Path L → Exit → Prop where
  | skip : Runs skip [] .next
  | lock (l : L) : Runs (lock l) [.acquire l] .next
  | unlock (l : L) : Runs (unlock l) [.release l] .next
  | leave (e : Exit) : Runs (leave e) [] e
  | seq {first second : Code L} {path path' : Path L} {e : Exit} (hfirst : Runs first path .next)
      (hsecond : Runs second path' e) : Runs (seq first second) (path ++ path') e
  | left {first second : Code L} {path : Path L} {e : Exit} (hfirst : Runs first path e)
      (hleft : e ≠ .next) : Runs (seq first second) path e
  | yes {yes no : Code L} {path : Path L} {e : Exit} (hyes : Runs yes path e) :
      Runs (either yes no) path e
  | no {yes no : Code L} {path : Path L} {e : Exit} (hno : Runs no path e) :
      Runs (either yes no) path e
  | any {n : Nat} {choices : Fin n → Code L} {path : Path L} {e : Exit} (i : Fin n)
      (hchoice : Runs (choices i) path e) : Runs (any choices) path e
  | ends {body : Code L} : Runs (loop body) [] .next
  | again {body : Code L} {path path' : Path L} {e e' : Exit} (hbody : Runs body path e)
      (hon : e = .next ∨ e = .cont) (hloop : Runs (loop body) path' e') :
      Runs (loop body) (path ++ path') e'
  | broken {body : Code L} {path : Path L} (hbody : Runs body path .brk) : Runs (loop body) path .next
  | returned {body : Code L} {path : Path L} (hbody : Runs body path .ret) : Runs (loop body) path .ret
  | call {body : Code L} {path : Path L} {e : Exit} (hbody : Runs body path e)
      (hout : e = .next ∨ e = .ret) : Runs (call body) path .next

/-- Past the first statement of a block. -/
theorem Runs.cons {code : Code L} {codes : List (Code L)} {path path' : Path L} {e : Exit}
    (hfirst : Runs code path .next) (hrest : Runs (block codes) path' e) :
    Runs (block (code :: codes)) (path ++ path') e := .seq hfirst hrest

/-- Out of a block by its first statement. -/
theorem Runs.out {code : Code L} {codes : List (Code L)} {path : Path L} {e : Exit}
    (hfirst : Runs code path e) (hleft : e ≠ .next) : Runs (block (code :: codes)) path e :=
  .left hfirst hleft

/-- Past a branch that is not taken. -/
theorem Runs.past {branch : Code L} {codes : List (Code L)} {path : Path L} {e : Exit}
    (hrest : Runs (block codes) path e) : Runs (block (whenever branch :: codes)) path e :=
  .seq (.no .skip) hrest

variable [DecidableEq L] [LT R] [DecidableLT R]

/-- What a piece of a program can leave behind: how it is left, and the locks held then. -/
structure Outcome (L : Type) where
  exit : Exit
  held : List L
deriving DecidableEq, Repr

/-- The outcomes of all of a list of pieces, if each keeps to the order. -/
def gather {α : Type} (f : α → Option (List (Outcome L))) : List α → Option (List (Outcome L))
  | [] => some []
  | a :: as => (f a).bind fun outs => (gather f as).map fun outs' => outs ∪ outs'

/-- A call goes on from the outcomes of its body. -/
def resume (outs : List (Outcome L)) : List (Outcome L) :=
  outs.foldr (fun out outs' => List.insert ⟨.next, out.held⟩ outs') []

/-- The outcomes of a loop with these of its body, `held` being held at its head. -/
def around (held : List L) (outs : List (Outcome L)) : List (Outcome L) :=
  outs.foldr (fun out outs' =>
    match out.exit with
    | .brk => List.insert ⟨.next, out.held⟩ outs'
    | .ret => List.insert out outs'
    | _ => outs') [⟨.next, held⟩]

/-- The outcomes of a program that is entered with these locks, if it keeps to the order on every path. A
    loop has to come back to its head with the locks it had there. -/
def outcomes (rank : L → R) : Code L → List L → Option (List (Outcome L))
  | .skip, held => some [⟨.next, held⟩]
  | .lock l, held =>
      if held.all fun k => decide (rank k < rank l) then some [⟨.next, l :: held⟩] else none
  | .unlock l, held => if held.contains l then some [⟨.next, held.erase l⟩] else none
  | .leave e, held => some [⟨e, held⟩]
  | .seq first second, held =>
      (first.outcomes rank held).bind fun outs =>
        gather (fun out => if out.exit = .next then second.outcomes rank out.held else some [out]) outs
  | .either yes no, held =>
      (yes.outcomes rank held).bind fun outs => (no.outcomes rank held).map fun outs' => outs ∪ outs'
  | .any choices, held => gather (fun i => (choices i).outcomes rank held) (List.finRange _)
  | .loop body, held =>
      (body.outcomes rank held).bind fun outs =>
        if outs.all fun out => out.exit = .brk ∨ out.exit = .ret ∨ out.held = held then some (around held outs)
        else none
  | .call body, held => (body.outcomes rank held).map resume

/-- A function that keeps to the order on every path, and has released what it took on every return. -/
def Balanced (rank : L → R) (body : Code L) : Prop := (call body).outcomes rank [] = some [⟨.next, []⟩]

instance (rank : L → R) (body : Code L) : Decidable (Balanced rank body) :=
  inferInstanceAs (Decidable (_ = _))

variable {rank : L → R} {outs : List (Outcome L)} {held held' : List L}

/-! ### Evaluation

A proof in parentheses keeps an equation out of definitional unfolding, so that what it rewrites is not
evaluated again when the proof is checked. -/

omit [LT R] [DecidableLT R] in
@[simp] theorem gather_nil {α : Type} {f : α → Option (List (Outcome L))} : gather f [] = some [] := rfl

omit [LT R] [DecidableLT R] in
@[simp] theorem gather_cons {α : Type} {f : α → Option (List (Outcome L))} {a : α} {as : List α} :
    gather f (a :: as) = (f a).bind fun outs => (gather f as).map fun outs' => outs ∪ outs' := rfl

omit [LT R] [DecidableLT R] in
/-- Pieces with the same outcomes. -/
@[simp] theorem gather_const {α : Type} {as : List α} (has : as ≠ []) :
    gather (fun _ => some outs) as = some (outs ∪ []) := by
  induction as with
  | nil => exact absurd rfl has
  | cons a as ih =>
      rw [gather_cons]
      cases as with
      | nil => rfl
      | cons b bs =>
          rw [ih (List.cons_ne_nil b bs)]
          show some (outs ∪ (outs ∪ [])) = some (outs ∪ [])
          rw [List.Subset.union_eq_right fun out hout => List.mem_union_left hout []]

omit [LT R] [DecidableLT R] in
@[simp] theorem resume_nil : resume ([] : List (Outcome L)) = [] := rfl

omit [LT R] [DecidableLT R] in
@[simp] theorem resume_cons {out : Outcome L} :
    resume (out :: outs) = List.insert ⟨.next, out.held⟩ (resume outs) := rfl

omit [LT R] [DecidableLT R] in
@[simp] theorem around_nil : around held [] = [⟨.next, held⟩] := rfl

omit [LT R] [DecidableLT R] in
@[simp] theorem around_brk : around held (⟨.brk, held'⟩ :: outs)
    = List.insert ⟨.next, held'⟩ (around held outs) := rfl

omit [LT R] [DecidableLT R] in
@[simp] theorem around_ret : around held (⟨.ret, held'⟩ :: outs)
    = List.insert ⟨.ret, held'⟩ (around held outs) := rfl

omit [LT R] [DecidableLT R] in
@[simp] theorem around_next : around held (⟨.next, held'⟩ :: outs) = around held outs := rfl

omit [LT R] [DecidableLT R] in
@[simp] theorem around_cont : around held (⟨.cont, held'⟩ :: outs) = around held outs := rfl

@[simp] theorem outcomes_block_nil : (block []).outcomes rank held = some [⟨.next, held⟩] := (rfl)

@[simp] theorem outcomes_block_cons {code : Code L} {codes : List (Code L)} :
    (block (code :: codes)).outcomes rank held
      = (code.outcomes rank held).bind fun outs =>
          gather (fun out => if out.exit = .next then (block codes).outcomes rank out.held else some [out])
            outs := (rfl)

@[simp] theorem outcomes_lock {l : L} : (lock l).outcomes rank held
    = if held.all fun k => decide (rank k < rank l) then some [⟨.next, l :: held⟩] else none := (rfl)

@[simp] theorem outcomes_unlock {l : L} : (unlock l).outcomes rank held
    = if held.contains l then some [⟨.next, held.erase l⟩] else none := (rfl)

@[simp] theorem outcomes_leave {e : Exit} : (leave e).outcomes rank held = some [⟨e, held⟩] := (rfl)

@[simp] theorem outcomes_either {yes no : Code L} : (either yes no).outcomes rank held
    = (yes.outcomes rank held).bind fun outs =>
        (no.outcomes rank held).map fun outs' => outs ∪ outs' := (rfl)

@[simp] theorem outcomes_whenever {branch : Code L} : (whenever branch).outcomes rank held
    = (branch.outcomes rank held).map fun outs => outs ∪ [⟨.next, held⟩] := by
  show (branch.outcomes rank held).bind _ = _
  cases branch.outcomes rank held <;> rfl

@[simp] theorem outcomes_any {n : Nat} {choices : Fin n → Code L} : (any choices).outcomes rank held
    = gather (fun i => (choices i).outcomes rank held) (List.finRange n) := (rfl)

@[simp] theorem outcomes_loop {body : Code L} : (loop body).outcomes rank held
    = (body.outcomes rank held).bind fun outs =>
        if outs.all fun out => out.exit = .brk ∨ out.exit = .ret ∨ out.held = held then some (around held outs)
        else none := (rfl)

/-! ### Soundness -/

omit [LT R] [DecidableLT R] in
theorem gather_mem {α : Type} {f : α → Option (List (Outcome L))} {as : List α} {a : α}
    (hgather : gather f as = some outs) (ha : a ∈ as) : ∃ outs', f a = some outs' ∧ outs' ⊆ outs := by
  induction as generalizing outs with
  | nil => cases ha
  | cons b as ih =>
      obtain ⟨outs₁, hfirst, hrest⟩ := Option.bind_eq_some_iff.mp hgather
      obtain ⟨outs₂, hothers, rfl⟩ := Option.map_eq_some_iff.mp hrest
      rcases List.mem_cons.mp ha with rfl | ha
      · exact ⟨outs₁, hfirst, fun out hout => List.mem_union_iff.mpr (.inl hout)⟩
      · obtain ⟨outs', hf, hsub⟩ := ih hothers ha
        exact ⟨outs', hf, fun out hout => List.mem_union_iff.mpr (.inr (hsub hout))⟩

omit [LT R] [DecidableLT R] in
theorem resume_mem {e : Exit} (hout : ⟨e, held⟩ ∈ outs) : ⟨.next, held⟩ ∈ resume outs := by
  induction outs with
  | nil => cases hout
  | cons out outs ih =>
      apply List.mem_insert_iff.mpr
      rcases List.mem_cons.mp hout with rfl | hout
      · exact .inl rfl
      · exact .inr (ih hout)

omit [LT R] [DecidableLT R] in
theorem around_head : ⟨.next, held⟩ ∈ around held outs := by
  induction outs with
  | nil => exact List.mem_singleton_self _
  | cons out outs ih =>
      show _ ∈ (match out.exit with | .brk => _ | .ret => _ | _ => _)
      split
      · exact List.mem_insert_of_mem ih
      · exact List.mem_insert_of_mem ih
      · exact ih

omit [LT R] [DecidableLT R] in
theorem around_out {e : Exit} (hout : ⟨e, held'⟩ ∈ outs) :
    (e = .brk → ⟨.next, held'⟩ ∈ around held outs)
      ∧ (e = .ret → ⟨.ret, held'⟩ ∈ around held outs) := by
  induction outs with
  | nil => cases hout
  | cons out outs ih =>
      rcases List.mem_cons.mp hout with rfl | hout
      · refine ⟨?_, ?_⟩
        · rintro rfl
          exact List.mem_insert_self
        · rintro rfl
          exact List.mem_insert_self
      · obtain ⟨hbrk, hret⟩ := ih hout
        have hkeep : ∀ {x}, x ∈ around held outs → x ∈ around held (out :: outs) := by
          intro x hx
          show _ ∈ (match out.exit with | .brk => _ | .ret => _ | _ => _)
          split
          · exact List.mem_insert_of_mem hx
          · exact List.mem_insert_of_mem hx
          · exact hx
        exact ⟨fun he => hkeep (hbrk he), fun he => hkeep (hret he)⟩

/-- **The checker is right**: a path of a program keeps to the order, and ends in one of its outcomes. -/
theorem outcomes_sound {code : Code L} {path : Path L} {e : Exit} (hruns : code.Runs path e)
    (houts : code.outcomes rank held = some outs) :
    ∃ held', walk rank held path = some held' ∧ ⟨e, held'⟩ ∈ outs := by
  -- by the path that was taken
  induction hruns generalizing outs held with
  | skip =>
      cases houts
      exact ⟨held, rfl, List.mem_singleton_self _⟩
  | lock l =>
      obtain ⟨hrank, heq⟩ := Option.ite_none_right_eq_some.mp houts
      cases heq
      refine ⟨l :: held, ?_, List.mem_singleton_self _⟩
      rw [walk_acquire, if_pos hrank]
      rfl
  | unlock l =>
      obtain ⟨hheld, heq⟩ := Option.ite_none_right_eq_some.mp houts
      cases heq
      refine ⟨held.erase l, ?_, List.mem_singleton_self _⟩
      rw [walk_release, if_pos hheld]
      rfl
  | leave e =>
      cases houts
      exact ⟨held, rfl, List.mem_singleton_self _⟩
  | seq _ _ ihfirst ihsecond =>
      obtain ⟨outs₁, hfirst, hgather⟩ := Option.bind_eq_some_iff.mp houts
      obtain ⟨held₁, hwalk₁, hout₁⟩ := ihfirst hfirst
      obtain ⟨outs₂, hsecond, hsub⟩ := gather_mem hgather hout₁
      rw [if_pos rfl] at hsecond
      obtain ⟨held₂, hwalk₂, hout₂⟩ := ihsecond hsecond
      refine ⟨held₂, ?_, hsub hout₂⟩
      rw [walk_append, hwalk₁]
      exact hwalk₂
  | left _ hleft ih =>
      obtain ⟨outs₁, hfirst, hgather⟩ := Option.bind_eq_some_iff.mp houts
      obtain ⟨held', hwalk, hout⟩ := ih hfirst
      obtain ⟨outs₂, hsecond, hsub⟩ := gather_mem hgather hout
      rw [if_neg hleft] at hsecond
      cases hsecond
      exact ⟨held', hwalk, hsub (List.mem_singleton_self _)⟩
  | yes _ ih =>
      obtain ⟨outs₁, hyes, hno⟩ := Option.bind_eq_some_iff.mp houts
      obtain ⟨outs₂, -, rfl⟩ := Option.map_eq_some_iff.mp hno
      obtain ⟨held', hwalk, hout⟩ := ih hyes
      exact ⟨held', hwalk, List.mem_union_iff.mpr (.inl hout)⟩
  | no _ ih =>
      obtain ⟨outs₁, -, hno⟩ := Option.bind_eq_some_iff.mp houts
      obtain ⟨outs₂, hother, rfl⟩ := Option.map_eq_some_iff.mp hno
      obtain ⟨held', hwalk, hout⟩ := ih hother
      exact ⟨held', hwalk, List.mem_union_iff.mpr (.inr hout)⟩
  | any i _ ih =>
      obtain ⟨outs₁, hchoice, hsub⟩ := gather_mem houts (List.mem_finRange i)
      obtain ⟨held', hwalk, hout⟩ := ih hchoice
      exact ⟨held', hwalk, hsub hout⟩
  | ends =>
      obtain ⟨outs₁, -, hloop⟩ := Option.bind_eq_some_iff.mp houts
      obtain ⟨-, heq⟩ := Option.ite_none_right_eq_some.mp hloop
      cases heq
      exact ⟨held, rfl, around_head⟩
  | again _ hon _ ihbody ihloop =>
      obtain ⟨outs₁, hbody, hloop⟩ := Option.bind_eq_some_iff.mp houts
      obtain ⟨hheads, -⟩ := Option.ite_none_right_eq_some.mp hloop
      obtain ⟨held₁, hwalk₁, hout₁⟩ := ihbody hbody
      -- back at the head, with the locks of the head
      have hhead := List.all_eq_true.mp hheads _ hout₁
      have hsame : held₁ = held := by rcases hon with rfl | rfl <;> simpa using hhead
      subst hsame
      obtain ⟨held₂, hwalk₂, hout₂⟩ := ihloop houts
      refine ⟨held₂, ?_, hout₂⟩
      rw [walk_append, hwalk₁]
      exact hwalk₂
  | broken _ ih =>
      obtain ⟨outs₁, hbody, hloop⟩ := Option.bind_eq_some_iff.mp houts
      obtain ⟨-, heq⟩ := Option.ite_none_right_eq_some.mp hloop
      cases heq
      obtain ⟨held', hwalk, hout⟩ := ih hbody
      exact ⟨held', hwalk, (around_out hout).1 rfl⟩
  | returned _ ih =>
      obtain ⟨outs₁, hbody, hloop⟩ := Option.bind_eq_some_iff.mp houts
      obtain ⟨-, heq⟩ := Option.ite_none_right_eq_some.mp hloop
      cases heq
      obtain ⟨held', hwalk, hout⟩ := ih hbody
      exact ⟨held', hwalk, (around_out hout).2 rfl⟩
  | call _ _ ih =>
      obtain ⟨outs₁, hbody, rfl⟩ := Option.map_eq_some_iff.mp houts
      obtain ⟨held', hwalk, hout⟩ := ih hbody
      exact ⟨held', hwalk, resume_mem hout⟩

theorem Balanced.walk {body : Code L} {path : Path L} (hbalanced : Balanced rank body)
    (hruns : (call body).Runs path .next) : walk rank [] path = some [] := by
  obtain ⟨held, hwalk, hout⟩ := outcomes_sound hruns hbalanced
  rw [hwalk]
  have hnone := congrArg Outcome.held (List.mem_singleton.mp hout)
  exact congrArg some hnone

end Code

/-! ## Threads -/

/-- Who holds each lock, and what is left of the operation each thread is in. The path an operation is
    going to take is named when it starts; that is only how the model speaks of what it turns out to
    do, and of a moment of an operation that never ends it is one of those that end from there. -/
structure Threads (τ L : Type) where
  rest : τ → Path L
  holder : L → Option τ

/-- Nobody in an operation. -/
def Threads.start : Threads τ L := ⟨fun _ => [], fun _ => none⟩

/-- The thread is at a lock that somebody holds. -/
def Threads.Waits (s : Threads τ L) (t : τ) (l : L) (owner : τ) : Prop :=
  (∃ path, s.rest t = .acquire l :: path) ∧ s.holder l = some owner

variable [DecidableEq L] [DecidableEq τ]

/-- One step of thread `t`, the operations having these paths. -/
inductive Step (operations : Path L → Prop) (s : Threads τ L) (t : τ) : Threads τ L → Prop where
  | starts {path : Path L} (hidle : s.rest t = []) (hpath : operations path) :
      Step operations s t { s with rest := Function.update s.rest t path }
  | acquires {l : L} {path : Path L} (hrest : s.rest t = .acquire l :: path) (hfree : s.holder l = none) :
      Step operations s t ⟨Function.update s.rest t path, Function.update s.holder l (some t)⟩
  | releases {l : L} {path : Path L} (hrest : s.rest t = .release l :: path) :
      Step operations s t ⟨Function.update s.rest t path, Function.update s.holder l none⟩

variable [Preorder R] [DecidableLT R] {rank : L → R} {s s' : Threads τ L} {t : τ}
  {operations : Path L → Prop}

/-- The locks `held` are those of thread `t`, and with them what is left of its operation keeps to the order
    and releases them all. -/
structure Owes (rank : L → R) (s : Threads τ L) (t : τ) (held : List L) : Prop where
  nodup : held.Nodup
  holds : ∀ l, l ∈ held ↔ s.holder l = some t
  path : walk rank held (s.rest t) = some []

/-- **The invariant.** -/
def Kept (rank : L → R) (s : Threads τ L) : Prop := ∀ t, ∃ held, Owes rank s t held

omit [DecidableEq τ] in
theorem Kept.start : Kept rank (Threads.start : Threads τ L) := by
  intro t
  refine ⟨[], List.nodup_nil, ?_, rfl⟩
  intro l
  simp [Threads.start]

omit [DecidableEq τ] in
theorem Owes.acquire {held : List L} {l : L} {path : Path L} (howes : Owes rank s t held)
    (hrest : s.rest t = .acquire l :: path) :
    (∀ k ∈ held, rank k < rank l) ∧ walk rank (l :: held) path = some [] := by
  have hwalk := howes.path
  rw [hrest, walk_acquire] at hwalk
  split at hwalk
  · next hrank => exact ⟨by simpa using hrank, hwalk⟩
  · cases hwalk

omit [DecidableEq τ] in
theorem Owes.release {held : List L} {l : L} {path : Path L} (howes : Owes rank s t held)
    (hrest : s.rest t = .release l :: path) :
    s.holder l = some t ∧ walk rank (held.erase l) path = some [] := by
  have hwalk := howes.path
  rw [hrest, walk_release] at hwalk
  split at hwalk
  · next hheld => exact ⟨(howes.holds l).mp (by simpa using hheld), hwalk⟩
  · cases hwalk

omit [DecidableEq τ] in
/-- A thread that is in no operation holds nothing. -/
theorem Owes.idle {held : List L} (howes : Owes rank s t held) (hidle : s.rest t = []) : held = [] := by
  have hwalk := howes.path
  rw [hidle] at hwalk
  exact Option.some.inj hwalk

/-- What another thread owes is not changed by a step that neither gives it a lock nor takes one from it. -/
theorem Owes.other {u : τ} {held : List L} {path : Path L} {holder : L → Option τ}
    (howes : Owes rank s u held) (hne : u ≠ t)
    (hholder : ∀ l, holder l = some u ↔ s.holder l = some u) :
    Owes rank ⟨Function.update s.rest t path, holder⟩ u held := by
  refine ⟨howes.nodup, fun l => (howes.holds l).trans (hholder l).symm, ?_⟩
  show walk rank held (Function.update s.rest t path u) = some []
  rw [Function.update_of_ne hne]
  exact howes.path

theorem Kept.step (hoperations : ∀ path, operations path → walk rank [] path = some [])
    (hkept : Kept rank s) (hstep : Step operations s t s') : Kept rank s' := by
  intro u
  obtain ⟨held, howes⟩ := hkept u
  cases hstep with
  | @starts path hidle hpath =>
      by_cases hu : u = t
      · subst hu
        have hnone := howes.idle hidle
        subst hnone
        refine ⟨[], howes.nodup, howes.holds, ?_⟩
        show walk rank [] (Function.update s.rest u path u) = some []
        rw [Function.update_self]
        exact hoperations path hpath
      · exact ⟨held, howes.other hu fun _ => Iff.rfl⟩
  | @acquires l path hrest hfree =>
      by_cases hu : u = t
      · subst hu
        obtain ⟨-, hpath⟩ := howes.acquire hrest
        have hnew : l ∉ held := by
          rw [howes.holds, hfree]
          simp
        refine ⟨l :: held, List.nodup_cons.mpr ⟨hnew, howes.nodup⟩, ?_, ?_⟩
        · intro k
          show k ∈ l :: held ↔ Function.update s.holder l (some u) k = some u
          by_cases hk : k = l
          · subst hk
            simp
          · rw [Function.update_of_ne hk, List.mem_cons, ← howes.holds]
            exact or_iff_right hk
        · show walk rank (l :: held) (Function.update s.rest u path u) = some []
          rw [Function.update_self]
          exact hpath
      · refine ⟨held, howes.other hu fun k => ?_⟩
        by_cases hk : k = l
        · subst hk
          rw [Function.update_self, hfree]
          simp [Ne.symm hu]
        · rw [Function.update_of_ne hk]
  | @releases l path hrest =>
      by_cases hu : u = t
      · subst hu
        obtain ⟨-, hpath⟩ := howes.release hrest
        refine ⟨held.erase l, howes.nodup.erase l, ?_, ?_⟩
        · intro k
          show k ∈ held.erase l ↔ Function.update s.holder l none k = some u
          rw [howes.nodup.mem_erase_iff]
          by_cases hk : k = l
          · subst hk
            simp
          · rw [Function.update_of_ne hk, ← howes.holds]
            exact and_iff_right hk
        · show walk rank (held.erase l) (Function.update s.rest u path u) = some []
          rw [Function.update_self]
          exact hpath
      · -- the lock was the releasing thread's
        obtain ⟨held', howes'⟩ := hkept t
        obtain ⟨howner, -⟩ := howes'.release hrest
        refine ⟨held, howes.other hu fun k => ?_⟩
        by_cases hk : k = l
        · subst hk
          rw [Function.update_self, howner]
          simp [Ne.symm hu]
        · rw [Function.update_of_ne hk]

theorem Kept.run {labels : List τ} (hoperations : ∀ path, operations path → walk rank [] path = some [])
    (hrun : Run (Step operations) Threads.start labels s) : Kept rank s :=
  hrun.invariant (I := fun _ s => Kept rank s)
    (fun _ _ _ _ _ hkept hstep => hkept.step hoperations hstep) .start

omit [DecidableEq τ] in
theorem Kept.idle (hkept : Kept rank s) (hidle : s.rest t = []) (l : L) : s.holder l ≠ some t := by
  obtain ⟨held, howes⟩ := hkept t
  intro hholder
  have hmem := (howes.holds l).mpr hholder
  rw [howes.idle hidle] at hmem
  exact List.not_mem_nil hmem

omit [DecidableEq τ] in
/-- The lock waited for has a higher rank than what is held. -/
theorem Kept.rank_lt (hkept : Kept rank s) {k l : L} {path : Path L} (hholder : s.holder k = some t)
    (hrest : s.rest t = .acquire l :: path) : rank k < rank l := by
  obtain ⟨held, howes⟩ := hkept t
  exact (howes.acquire hrest).1 k ((howes.holds k).mpr hholder)

omit [DecidableEq τ] in
/-- **No circular wait.** -/
theorem Kept.no_circular_wait [WellFoundedGT R] (hkept : Kept rank s) {T : τ → Prop} (ht : T t) :
    ¬ ∀ t, T t → ∃ l owner, T owner ∧ s.Waits t l owner := by
  intro hcircle
  -- whatever lock one of them waits for, its holder waits for one of a higher rank
  have hnone : ∀ r t l owner, rank l = r → T owner → ¬ s.Waits t l owner := by
    intro r
    apply wellFounded_gt.induction r
    rintro r ih t l owner rfl hin ⟨-, hholder⟩
    obtain ⟨l', owner', hin', hwaits⟩ := hcircle owner hin
    obtain ⟨path, hrest⟩ := hwaits.1
    exact ih (rank l') (hkept.rank_lt hholder hrest) owner l' owner' rfl hin' hwaits
  obtain ⟨l, owner, hin, hwaits⟩ := hcircle t ht
  exact hnone _ t l owner rfl hin hwaits

end Locks

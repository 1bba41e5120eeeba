/-!
# `Lib.Ledger` — resources obtained and given back

A ledger is the list of what was done with some resources, newest first: each is obtained (`got`) or
given back (`gave`), and anything else worth keeping in order stands between as `other`.

`Owns l rs` is the account of a ledger: the resources `rs` have been obtained and not given back, and
every other one has never been obtained, or was obtained once and given back once, in that order. It is
kept by the three things that can be written down (`Owns.got`, `Owns.gave`, `Owns.other`), so the account
of a program is read off its steps. **`Owns.settled`**: with nothing owned, nothing was lost and
nothing given back twice.

Nothing here knows what the resources are.
-/

namespace Ledger

variable {ρ ε : Type} [DecidableEq ρ]

/-- One line of a ledger. -/
inductive Entry (ρ ε : Type) where
  | got (r : ρ)
  | gave (r : ρ)
  | other (e : ε)
deriving DecidableEq, Repr

/-- Is the line about this resource? -/
def Entry.about (r : ρ) : Entry ρ ε → Bool
  | .got r' => r' == r
  | .gave r' => r' == r
  | .other _ => false

/-- The lines about one resource, newest first. -/
def account (r : ρ) (l : List (Entry ρ ε)) : List (Entry ρ ε) := l.filter (Entry.about r)

/-- The other lines, newest first. -/
def others (l : List (Entry ρ ε)) : List ε :=
  l.filterMap fun | .other e => some e | _ => none

variable {l : List (Entry ρ ε)} {r r' : ρ} {rs : List ρ} {e : ε}

@[simp] theorem account_nil : account r ([] : List (Entry ρ ε)) = [] := rfl

@[simp] theorem account_got_self : account r (.got r :: l) = .got r :: account r l := by
  simp [account, Entry.about]

@[simp] theorem account_gave_self : account r (.gave r :: l) = .gave r :: account r l := by
  simp [account, Entry.about]

theorem account_got_ne (h : r' ≠ r) : account r (.got r' :: l) = account r l := by
  simp [account, Entry.about, h]

theorem account_gave_ne (h : r' ≠ r) : account r (.gave r' :: l) = account r l := by
  simp [account, Entry.about, h]

@[simp] theorem account_other : account r (.other e :: l) = account r l := by
  simp [account, Entry.about]

omit [DecidableEq ρ] in
@[simp] theorem others_nil : others ([] : List (Entry ρ ε)) = [] := rfl

omit [DecidableEq ρ] in
@[simp] theorem others_got : others (.got r :: l) = others l := rfl

omit [DecidableEq ρ] in
@[simp] theorem others_gave : others (.gave r :: l) = others l := rfl

omit [DecidableEq ρ] in
@[simp] theorem others_other : others (.other e :: l) = e :: others l := rfl

/-! ## The account -/

/-- The resources `rs` are owned; every other one was never obtained, or obtained and given back. -/
structure Owns (l : List (Entry ρ ε)) (rs : List ρ) : Prop where
  nodup : rs.Nodup
  owned : ∀ r ∈ rs, account r l = [.got r]
  rest : ∀ r, r ∉ rs → account r l = [] ∨ account r l = [.gave r, .got r]

theorem Owns.nil : Owns ([] : List (Entry ρ ε)) [] := by
  refine ⟨.nil, ?_, fun _ _ => .inl rfl⟩
  intro r hr
  cases hr

/-- The order in which the resources are listed does not matter. -/
theorem Owns.perm {rs' : List ρ} (h : Owns l rs) (hperm : rs.Perm rs') : Owns l rs' :=
  ⟨hperm.nodup_iff.mp h.nodup, fun r hr => h.owned r (hperm.mem_iff.mpr hr),
    fun r hr => h.rest r fun hmem => hr (hperm.mem_iff.mp hmem)⟩

/-- A resource never obtained before is owned once it is. -/
theorem Owns.got (h : Owns l rs) (hfresh : account r l = []) : Owns (.got r :: l) (r :: rs) := by
  -- a resource that is owned has been obtained
  have hnew : r ∉ rs := by
    intro hmem
    rw [h.owned r hmem] at hfresh
    cases hfresh
  refine ⟨List.nodup_cons.mpr ⟨hnew, h.nodup⟩, ?_, ?_⟩
  · intro r' hr'
    by_cases heq : r' = r
    · subst heq
      rw [account_got_self, hfresh]
    · rw [account_got_ne (Ne.symm heq)]
      exact h.owned r' (List.mem_of_ne_of_mem heq hr')
  · intro r' hr'
    simp only [List.mem_cons, not_or] at hr'
    rw [account_got_ne (Ne.symm hr'.1)]
    exact h.rest r' hr'.2

/-- The last resource obtained of those owned can be given back. -/
theorem Owns.gave (h : Owns l (r :: rs)) : Owns (.gave r :: l) rs := by
  obtain ⟨hnew, hnodup⟩ := List.nodup_cons.mp h.nodup
  refine ⟨hnodup, ?_, ?_⟩
  · intro r' hr'
    have hne : r' ≠ r := fun heq => hnew (heq ▸ hr')
    rw [account_gave_ne (Ne.symm hne)]
    exact h.owned r' (List.mem_cons_of_mem r hr')
  · intro r' hr'
    by_cases heq : r' = r
    · subst heq
      right
      rw [account_gave_self, h.owned r' List.mem_cons_self]
    · rw [account_gave_ne (Ne.symm heq)]
      exact h.rest r' (by simp [heq, hr'])

/-- Nothing else touches the account. -/
theorem Owns.other (h : Owns l rs) : Owns (.other e :: l) rs :=
  ⟨h.nodup, fun r hr => account_other.trans (h.owned r hr), fun r hr => by
    rw [account_other]
    exact h.rest r hr⟩

/-- **Nothing owned**: each resource was never obtained, or obtained once and given back once. -/
theorem Owns.settled (h : Owns l []) (r : ρ) : account r l = [] ∨ account r l = [.gave r, .got r] :=
  h.rest r (by simp)

end Ledger

/-!
# `Lib.Lease` — exclusive ownership, read off a log

A thing is owned by at most one cookie at a time. The log says who took it and who dropped it, newest
first; everything else in it is `other`. `holder` is the owner the log leads to, and a log is `Lawful` if
it is taken only when free and dropped only by its owner.

**`Lawful.exclusive`**: in a lawful log, between a take and any later one the first owner has dropped it.
`holder_append` says that only the last change since a moment matters to who the owner is.

Nothing here knows what is owned.
-/

namespace Lease

variable {κ : Type}

/-- One line of the log. -/
inductive Act (κ : Type) where
  | took (k : κ)
  | dropped (k : κ)
  | other
deriving DecidableEq, Repr

variable {l newer mid older : List (Act κ)} {k k' : κ}

/-- The last change of owner, if there was one: to an owner, or to none. -/
def change : List (Act κ) → Option (Option κ)
  | [] => none
  | .took k :: _ => some (some k)
  | .dropped _ :: _ => some none
  | .other :: older => change older

/-- The owner. -/
def holder (l : List (Act κ)) : Option κ := (change l).getD none

@[simp] theorem holder_nil : holder ([] : List (Act κ)) = none := rfl

@[simp] theorem holder_took : holder (.took k :: l) = some k := rfl

@[simp] theorem holder_dropped : holder (.dropped k :: l) = none := rfl

@[simp] theorem holder_other : holder (.other :: l) = holder l := rfl

theorem change_append : change (newer ++ older) = (change newer).or (change older) := by
  induction newer with
  | nil => rfl
  | cons a newer ih => cases a <;> simp_all [change]

/-- The owner is the one the last change since then made, or else the one of then. -/
theorem holder_append : holder (newer ++ older) = (change newer).getD (holder older) := by
  unfold holder
  rw [change_append]
  cases change newer <;> rfl

/-- Taken only when free, dropped only by its owner. -/
def Lawful : List (Act κ) → Prop
  | [] => True
  | .took _ :: older => holder older = none ∧ Lawful older
  | .dropped k :: older => holder older = some k ∧ Lawful older
  | .other :: older => Lawful older

theorem Lawful.tail (h : Lawful (newer ++ older)) : Lawful older := by
  induction newer with
  | nil => exact h
  | cons a newer ih =>
      cases a with
      | took _ => exact ih h.2
      | dropped _ => exact ih h.2
      | other => exact ih h

/-- What was taken stays with its owner until its owner drops it. -/
theorem Lawful.held (h : Lawful (mid ++ .took k :: older)) (hkept : .dropped k ∉ mid) :
    holder (mid ++ .took k :: older) = some k := by
  induction mid with
  | nil => rfl
  | cons a mid ih =>
      simp only [List.mem_cons, not_or] at hkept
      obtain ⟨hhead, htail⟩ := hkept
      cases a with
      | took k' =>
          -- it was not free to be taken
          have hfree : holder (mid ++ .took k :: older) = none := h.1
          rw [ih h.2 htail] at hfree
          cases hfree
      | dropped k' =>
          have howner : holder (mid ++ .took k :: older) = some k' := h.1
          rw [ih h.2 htail] at howner
          injection howner with howner
          subst howner
          exact absurd rfl hhead
      | other => exact ih h htail

/-- **Exclusion.** Before it is taken again, its owner has dropped it. -/
theorem Lawful.exclusive (h : Lawful (newer ++ .took k' :: (mid ++ .took k :: older))) :
    .dropped k ∈ mid := by
  have hlast : Lawful (.took k' :: (mid ++ .took k :: older)) := h.tail
  by_cases hdropped : .dropped k ∈ mid
  · exact hdropped
  · have hfree := hlast.1
    rw [hlast.2.held hdropped] at hfree
    cases hfree

end Lease

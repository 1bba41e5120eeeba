import Liblaser.Registry.Unwind

/-!
# `Registry.Table` — what one call does to the table

Everything the two public calls can do to the table, said once. A call leaves it alone, changes the
`refs` of one slot in use, fills a free slot, spoils a free slot (a registration that failed: the slot is
free again), or frees a slot. **`laserAcquire_cases`** and **`laserRelease_cases`**
are the two lists; the invariants are proved from them alone.
-/

namespace Liblaser

variable {R : Registry} {i j : Fin laserMaxDevices} {token : Int} {b : Build} {n : Nat}

/-! ## The pieces -/

@[simp] theorem put_slots_self : (R.put i n b).slots i = b.entry := Function.update_self ..

@[simp] theorem put_regs_self : (R.put i n b).regs i = n := Function.update_self ..

@[simp] theorem put_ledgers_self : (R.put i n b).ledgers n = b.ledger := Function.update_self ..

theorem put_slots_ne (h : j ≠ i) : (R.put i n b).slots j = R.slots j := Function.update_of_ne h ..

theorem put_regs_ne (h : j ≠ i) : (R.put i n b).regs j = R.regs j := Function.update_of_ne h ..

theorem put_ledgers_ne {m : Nat} (h : m ≠ n) : (R.put i n b).ledgers m = R.ledgers m :=
  Function.update_of_ne h ..

@[simp] theorem enter_slots_self : (R.enter i b).slots i = b.entry := Function.update_self ..

@[simp] theorem enter_regs_self : (R.enter i b).regs i = R.count := Function.update_self ..

@[simp] theorem enter_ledgers_self : (R.enter i b).ledgers R.count = b.ledger :=
  Function.update_self ..

@[simp] theorem enter_count : (R.enter i b).count = R.count + 1 := rfl

theorem enter_slots_ne (h : j ≠ i) : (R.enter i b).slots j = R.slots j := Function.update_of_ne h ..

theorem enter_regs_ne (h : j ≠ i) : (R.enter i b).regs j = R.regs j := Function.update_of_ne h ..

theorem enter_ledgers_ne {m : Nat} (h : m ≠ R.count) : (R.enter i b).ledgers m = R.ledgers m :=
  Function.update_of_ne h ..

@[simp] theorem modify_slots_self {f : LaserEntry → LaserEntry} :
    (R.modify i f).slots i = f (R.slots i) := Function.update_self ..

theorem modify_slots_ne {f : LaserEntry → LaserEntry} (h : j ≠ i) :
    (R.modify i f).slots j = R.slots j := Function.update_of_ne h ..

@[simp] theorem modify_regs {f : LaserEntry → LaserEntry} : (R.modify i f).regs = R.regs := rfl

@[simp] theorem modify_ledgers {f : LaserEntry → LaserEntry} : (R.modify i f).ledgers = R.ledgers := rfl

@[simp] theorem modify_count {f : LaserEntry → LaserEntry} : (R.modify i f).count = R.count := rfl

/-- What a write in place does not change of its slot, it does not change of any. -/
theorem modify_field {α : Type} {f : LaserEntry → LaserEntry} (get : LaserEntry → α)
    (h : get (f (R.slots i)) = get (R.slots i)) (j : Fin laserMaxDevices) :
    get ((R.modify i f).slots j) = get (R.slots j) := by
  by_cases hj : j = i
  · subst hj
    rw [modify_slots_self, h]
  · rw [modify_slots_ne hj]

/-- The claim of the first acquire, counted in the slot just filled. -/
theorem enter_modify {f : LaserEntry → LaserEntry} :
    (R.enter i b).modify i f = R.enter i ⟨f b.entry, b.ledger⟩ := by
  simp [Registry.modify, Registry.enter, Registry.put]

/-! ## Looking up -/

/-- The slot that holds this token, if it is in use. -/
abbrev HoldsToken (R : Registry) (token : Int) (i : Fin laserMaxDevices) : Prop :=
  (R.slots i).inUse = true ∧ (R.slots i).token = token

theorem laserLookup_some (h : laserLookup R token = some i) : HoldsToken R token i := by
  have hfound := List.find?_some h
  simpa using hfound

theorem laserLookup_none (h : laserLookup R token = none) (j : Fin laserMaxDevices) :
    ¬ HoldsToken R token j := by
  have hmissed := List.find?_eq_none.mp h j (List.mem_finRange j)
  simpa using hmissed

/-- A token held by one slot only is found in it. -/
theorem laserLookup_of_only (h : HoldsToken R token i) (honly : ∀ j, HoldsToken R token j → j = i) :
    laserLookup R token = some i := by
  cases hfound : laserLookup R token with
  | none => exact absurd h (laserLookup_none hfound i)
  | some j => rw [honly j (laserLookup_some hfound)]

theorem laserLookup_of_none (h : ∀ j, ¬ HoldsToken R token j) : laserLookup R token = none := by
  cases hfound : laserLookup R token with
  | none => rfl
  | some j => exact absurd (laserLookup_some hfound) (h j)

/-- `reserve_slot()` takes a free slot. -/
theorem reserveSlot_some (h : reserveSlot R token = some i) : (R.slots i).inUse = false := by
  unfold reserveSlot at h
  split at h
  · cases h
  · have hfree := List.find?_some h
    simpa using hfree

/-! ## The two calls -/

/-- **What `laser_acquire()` does.** -/
theorem laserAcquire_cases (token : Int) (o : Setup) (st : Option (Nat × Nat)) (R : Registry) :
    laserAcquire token o st R = (.errNoSuchToken, R)
    ∨ (∃ i b, (R.slots i).inUse = false ∧ b.entry = {} ∧ Aborted b.ledger
        ∧ laserAcquire token o st R = (.errNoSuchToken, R.enter i b))
    ∨ (∃ i, laserLookup R token = some i
        ∧ laserAcquire token o st R = (.ok, R.modify i fun e => { e with refs := e.refs + 1 }))
    ∨ ∃ i b, laserLookup R token = none ∧ (R.slots i).inUse = false ∧ Kept b.ledger
        ∧ b.entry.token = token ∧ b.entry.inUse = true ∧ b.entry.refs = 0
        ∧ laserAcquire token o st R
          = (.ok, (R.enter i b).modify i fun e => { e with refs := e.refs + 1 }) := by
  unfold laserAcquire
  cases hlookup : laserLookup R token with
  | some i =>
      by_cases hours : fdStillOurs (R.slots i) st
      · right; right; left
        exact ⟨i, rfl, by simp [hours]⟩
      · left
        simp [hours]
  | none =>
      have hnone := laserLookup_none hlookup
      unfold laserRegister
      -- the table is full, or the setup fails, or it does not
      cases hslot : reserveSlot R token with
      | none =>
          left
          simp [hlookup]
      | some i =>
          have hfree := reserveSlot_some hslot
          have hsetup := setupEntry_spec o token
          cases hb : setupEntry o token with
          | error b =>
              rw [hb] at hsetup
              right; left
              refine ⟨i, b, hfree, hsetup.1, hsetup.2, ?_⟩
              -- the slot is free again, so the token is still not found
              have hmissed : laserLookup (R.enter i b) token = none := by
                apply laserLookup_of_none
                intro j hj
                by_cases hji : j = i
                · subst hji
                  rw [HoldsToken, enter_slots_self, hsetup.1] at hj
                  cases hj.1
                · rw [HoldsToken, enter_slots_ne hji] at hj
                  exact hnone j hj
              simp [hmissed]
          | ok b =>
              rw [hb] at hsetup
              obtain ⟨hkept, htoken, hinUse, hrefs, -⟩ := hsetup
              right; right; right
              refine ⟨i, b, rfl, hfree, hkept, htoken, hinUse, hrefs, ?_⟩
              have hfound : laserLookup (R.enter i b) token = some i := by
                apply laserLookup_of_only
                · exact ⟨by simpa using hinUse, by simpa using htoken⟩
                · intro j hj
                  by_contra hji
                  rw [HoldsToken, enter_slots_ne hji] at hj
                  exact hnone j hj
              simp [hfound]

/-- **What `laser_release()` does.** -/
theorem laserRelease_cases (token : Int) (R : Registry) :
    (laserLookup R token = none ∧ laserRelease token R = R)
    ∨ ∃ i, laserLookup R token = some i
      ∧ (((R.slots i).refs = 0 ∧ laserRelease token R = R)
        ∨ (1 < (R.slots i).refs
          ∧ laserRelease token R = R.modify i fun e => { e with refs := e.refs - 1 })
        ∨ ((R.slots i).refs = 1 ∧ ∃ e,
          laserRelease token R
            = R.put i (R.regs i) (teardownEntryLocked ⟨e, R.ledgers (R.regs i)⟩))) := by
  unfold laserRelease
  cases hlookup : laserLookup R token with
  | none => exact .inl ⟨rfl, rfl⟩
  | some i =>
      right
      refine ⟨i, rfl, ?_⟩
      dsimp only
      by_cases hzero : (R.slots i).refs ≤ 0
      · left
        rw [if_pos hzero]
        exact ⟨by omega, rfl⟩
      · rw [if_neg hzero]
        by_cases hmore : 0 < (R.slots i).refs - 1
        · right; left
          rw [if_pos hmore]
          exact ⟨by omega, rfl⟩
        · right; right
          rw [if_neg hmore]
          exact ⟨by omega, _, rfl⟩

end Liblaser

import Liblaser.Lib.Transition
import Liblaser.Registry.Table

/-!
# `Registry.Accounts` — the table over whole runs

A run of the registry is any sequence of `laser_acquire()` and `laser_release()`, with any tokens, any
outcome of every setup step and any answer of `fstat`; between them the rest of the library may write
what it likes in an entry but its token, its flag and its count.

`RegistryInvariant` holds at every boundary of `g_registry_lock`, whatever came before: one slot a token, a
slot in use exactly while it is claimed, a claim for every acquire since the registration less one for
every release, and every registration either in the table with all it made, or over and settled.
**`registry_balanced`** is that, with what the next call can do to what is there.
-/

namespace Liblaser

open Transition

variable {R R' : Registry} {i j : Fin laserMaxDevices} {token : Int} {b : Build} {n : Nat}

/-! ## Runs -/

/-- What was called, and what came of it. -/
inductive RegistryEvent where
  /-- `laser_acquire()` returned `LASER_OK`; `registered` if it was this call that registered. -/
  | acquired (token : Int) (registered : Bool)
  /-- `laser_acquire()` returned anything else. -/
  | refused (token : Int)
  | released (token : Int)
  /-- Anything else the library does to an entry. -/
  | elsewhere
deriving DecidableEq, Repr

/-- One critical section of `g_registry_lock`, or anything between two of them. -/
inductive RegistryStep : Registry → RegistryEvent → Registry → Prop where
  | acquired {R : Registry} (token : Int) (o : Setup) (st : Option (Nat × Nat))
      (hok : (laserAcquire token o st R).1 = .ok) :
      RegistryStep R (.acquired token (laserLookup R token).isNone) (laserAcquire token o st R).2
  | refused {R : Registry} (token : Int) (o : Setup) (st : Option (Nat × Nat))
      (hrefused : (laserAcquire token o st R).1 ≠ .ok) :
      RegistryStep R (.refused token) (laserAcquire token o st R).2
  | released {R : Registry} (token : Int) : RegistryStep R (.released token) (laserRelease token R)
  | elsewhere {R : Registry} (i : Fin laserMaxDevices) (f : LaserEntry → LaserEntry)
      (hkeeps : ∀ e, (f e).inUse = e.inUse ∧ (f e).token = e.token ∧ (f e).refs = e.refs) :
      RegistryStep R .elsewhere (R.modify i f)

variable {hist : List RegistryEvent} {e : RegistryEvent}

/-! ## The balance of a token -/

/-- The events since this token was last registered, that one included. -/
def sinceRegistered (token : Int) : List RegistryEvent → List RegistryEvent
  | [] => []
  | e :: older =>
    if e = .acquired token true then [e] else e :: sinceRegistered token older

/-- The acquires of this token that returned `LASER_OK`. -/
def okAcquires (token : Int) (hist : List RegistryEvent) : Nat :=
  hist.count (.acquired token true) + hist.count (.acquired token false)

/-- The releases of this token. -/
def releases (token : Int) (hist : List RegistryEvent) : Nat := hist.count (.released token)

/-- Acquires less releases since the token was registered. -/
def balance (token : Int) (hist : List RegistryEvent) : Int :=
  okAcquires token (sinceRegistered token hist) - releases token (sinceRegistered token hist)

/-- The token whose balance an event changes. -/
def RegistryEvent.claims : RegistryEvent → Option Int
  | .acquired token _ => some token
  | .released token => some token
  | .refused _ => none
  | .elsewhere => none

theorem balance_registered : balance token (.acquired token true :: hist) = 1 := by
  simp [balance, sinceRegistered, okAcquires, releases]

theorem balance_acquired :
    balance token (.acquired token false :: hist) = balance token hist + 1 := by
  simp [balance, sinceRegistered, okAcquires, releases]
  omega

theorem balance_released : balance token (.released token :: hist) = balance token hist - 1 := by
  simp [balance, sinceRegistered, okAcquires, releases]
  omega

/-- An event about another token, or about none, leaves the balance. -/
theorem balance_of_ne (h : e.claims ≠ some token) :
    balance token (e :: hist) = balance token hist := by
  cases e <;> simp_all [balance, sinceRegistered, okAcquires, releases, RegistryEvent.claims]

theorem balance_le_length : balance token hist ≤ hist.length := by
  induction hist with
  | nil => simp [balance, sinceRegistered, okAcquires, releases]
  | cons e older ih =>
      rw [List.length_cons]
      by_cases hclaims : e.claims = some token
      · cases e with
        | acquired token' registered =>
            obtain rfl := Option.some.inj hclaims
            cases registered
            · rw [balance_acquired]
              omega
            · rw [balance_registered]
              omega
        | released token' =>
            obtain rfl := Option.some.inj hclaims
            rw [balance_released]
            omega
        | refused _ => cases hclaims
        | elsewhere => cases hclaims
      · rw [balance_of_ne hclaims]
        omega

/-! ## The invariant -/

/-- What holds at every boundary of `g_registry_lock`. -/
structure RegistryInvariant (hist : List RegistryEvent) (R : Registry) : Prop where
  /-- The tokens of the slots in use are pairwise distinct. -/
  distinct : ∀ i j, (R.slots i).inUse = true → (R.slots j).inUse = true →
    (R.slots i).token = (R.slots j).token → i = j
  /-- In use exactly while claimed. -/
  claimed : ∀ i, (R.slots i).inUse = true ↔ 1 ≤ (R.slots i).refs
  /-- `refs` is the acquires that returned `LASER_OK` less the releases, since the registration. -/
  balanced : ∀ i, (R.slots i).inUse = true →
    ((R.slots i).refs : Int) = balance (R.slots i).token hist
  /-- A slot in use has a registration of its own, which has given back nothing. -/
  kept : ∀ i, (R.slots i).inUse = true → R.regs i < R.count ∧ Kept (R.ledgers (R.regs i))
  own : ∀ i j, (R.slots i).inUse = true → (R.slots j).inUse = true → R.regs i = R.regs j → i = j
  /-- A registration whose device is not in the table has given back everything. -/
  settled : ∀ n < R.count, (∀ i, (R.slots i).inUse = true → R.regs i ≠ n) → Settled (R.ledgers n)

theorem RegistryInvariant.init : RegistryInvariant [] Registry.init := by
  constructor <;> intros <;> simp_all [Registry.init]

/-- Nothing touched, and no slot in use counts the event. -/
theorem RegistryInvariant.quiet (h : RegistryInvariant hist R)
    (hquiet : ∀ j, (R.slots j).inUse = true → e.claims ≠ some (R.slots j).token) :
    RegistryInvariant (e :: hist) R := by
  refine ⟨h.distinct, h.claimed, ?_, h.kept, h.own, h.settled⟩
  intro j hj
  rw [balance_of_ne (hquiet j hj)]
  exact h.balanced j hj

/-- A slot written in place: its flag and its token stay, its count follows the event. -/
theorem RegistryInvariant.modify (h : RegistryInvariant hist R) {f : LaserEntry → LaserEntry}
    (hinUse : (f (R.slots i)).inUse = (R.slots i).inUse)
    (htoken : (f (R.slots i)).token = (R.slots i).token)
    (hclaimed : (R.slots i).inUse = true ↔ 1 ≤ (f (R.slots i)).refs)
    (hbalance : (R.slots i).inUse = true →
      ((f (R.slots i)).refs : Int) = balance (R.slots i).token (e :: hist))
    (hquiet : ∀ j, j ≠ i → (R.slots j).inUse = true → e.claims ≠ some (R.slots j).token) :
    RegistryInvariant (e :: hist) (R.modify i f) := by
  have hinUse' := modify_field LaserEntry.inUse hinUse
  have htoken' := modify_field LaserEntry.token htoken
  refine ⟨?_, ?_, ?_, ?_, ?_, ?_⟩
  · intro j k
    rw [hinUse', hinUse', htoken', htoken']
    exact h.distinct j k
  · intro j
    rw [hinUse']
    by_cases hj : j = i
    · subst hj
      rw [modify_slots_self]
      exact hclaimed
    · rw [modify_slots_ne hj]
      exact h.claimed j
  · intro j
    rw [hinUse', htoken']
    intro hused
    by_cases hj : j = i
    · subst hj
      rw [modify_slots_self]
      exact hbalance hused
    · rw [modify_slots_ne hj, balance_of_ne (hquiet j hj hused)]
      exact h.balanced j hused
  · intro j
    rw [hinUse']
    exact h.kept j
  · intro j k
    rw [hinUse', hinUse']
    exact h.own j k
  · intro n hn hfree
    exact h.settled n hn fun j hj => hfree j ((hinUse' j).trans hj)

/-! ### A registration, in either outcome -/

/-- What a registration leaves in the slot `i` that it took, and the event it goes with. -/
structure Enters (hist : List RegistryEvent) (R : Registry) (e : RegistryEvent)
    (i : Fin laserMaxDevices) (b : Build) : Prop where
  free : (R.slots i).inUse = false
  new : ∀ j, (R.slots j).inUse = true → b.entry.inUse = true → (R.slots j).token ≠ b.entry.token
  claimed : b.entry.inUse = true ↔ 1 ≤ b.entry.refs
  balanced : b.entry.inUse = true → (b.entry.refs : Int) = balance b.entry.token (e :: hist)
  kept : b.entry.inUse = true → Kept b.ledger
  settled : b.entry.inUse = false → Settled b.ledger
  quiet : ∀ j, (R.slots j).inUse = true → e.claims ≠ some (R.slots j).token

/-- The slots in use are other slots, and their registrations are older. -/
theorem RegistryInvariant.older (h : RegistryInvariant hist R) (hfree : (R.slots i).inUse = false)
    (hj : (R.slots j).inUse = true) : j ≠ i ∧ R.regs j ≠ R.count := by
  refine ⟨?_, Nat.ne_of_lt (h.kept j hj).1⟩
  intro heq
  rw [heq, hfree] at hj
  cases hj

theorem Enters.distinct_enter (henters : Enters hist R e i b) (h : RegistryInvariant hist R)
    (j k : Fin laserMaxDevices) : ((R.enter i b).slots j).inUse = true →
      ((R.enter i b).slots k).inUse = true →
      ((R.enter i b).slots j).token = ((R.enter i b).slots k).token → j = k := by
  by_cases hj : j = i <;> by_cases hk : k = i
  · intro _ _ _
    rw [hj, hk]
  · subst hj
    rw [enter_slots_self, enter_slots_ne hk]
    intro hused hused' heq
    exact absurd heq.symm (henters.new k hused' hused)
  · subst hk
    rw [enter_slots_self, enter_slots_ne hj]
    intro hused hused' heq
    exact absurd heq (henters.new j hused hused')
  · rw [enter_slots_ne hj, enter_slots_ne hk]
    exact h.distinct j k

theorem Enters.own_enter (henters : Enters hist R e i b) (h : RegistryInvariant hist R)
    (j k : Fin laserMaxDevices) : ((R.enter i b).slots j).inUse = true →
      ((R.enter i b).slots k).inUse = true → (R.enter i b).regs j = (R.enter i b).regs k → j = k := by
  by_cases hj : j = i <;> by_cases hk : k = i
  · intro _ _ _
    rw [hj, hk]
  · subst hj
    rw [enter_regs_self, enter_slots_ne hk, enter_regs_ne hk]
    intro _ hused heq
    exact absurd heq.symm (h.older henters.free hused).2
  · subst hk
    rw [enter_regs_self, enter_slots_ne hj, enter_regs_ne hj]
    intro hused _ heq
    exact absurd heq (h.older henters.free hused).2
  · rw [enter_slots_ne hj, enter_slots_ne hk, enter_regs_ne hj, enter_regs_ne hk]
    exact h.own j k

theorem Enters.kept_enter (henters : Enters hist R e i b) (h : RegistryInvariant hist R)
    (j : Fin laserMaxDevices) (hj : ((R.enter i b).slots j).inUse = true) :
    (R.enter i b).regs j < (R.enter i b).count
      ∧ Kept ((R.enter i b).ledgers ((R.enter i b).regs j)) := by
  by_cases hji : j = i
  · subst hji
    rw [enter_slots_self] at hj
    rw [enter_regs_self, enter_ledgers_self, enter_count]
    exact ⟨by omega, henters.kept hj⟩
  · rw [enter_slots_ne hji] at hj
    rw [enter_regs_ne hji, enter_count, enter_ledgers_ne (h.older henters.free hj).2]
    obtain ⟨hlt, hkept⟩ := h.kept j hj
    exact ⟨by omega, hkept⟩

theorem Enters.settled_enter (henters : Enters hist R e i b) (h : RegistryInvariant hist R)
    (hn : n < (R.enter i b).count)
    (hout : ∀ j, ((R.enter i b).slots j).inUse = true → (R.enter i b).regs j ≠ n) :
    Settled ((R.enter i b).ledgers n) := by
  by_cases hlast : n = R.count
  · -- the registration just made is over already
    subst hlast
    rw [enter_ledgers_self]
    apply henters.settled
    have hnot := hout i
    rw [enter_slots_self, enter_regs_self] at hnot
    simpa using hnot
  · rw [enter_count] at hn
    rw [enter_ledgers_ne hlast]
    apply h.settled n (by omega)
    intro j hused
    obtain ⟨hj, -⟩ := h.older henters.free hused
    have hnot := hout j
    rw [enter_slots_ne hj, enter_regs_ne hj] at hnot
    exact hnot hused

theorem RegistryInvariant.enter (h : RegistryInvariant hist R) (henters : Enters hist R e i b) :
    RegistryInvariant (e :: hist) (R.enter i b) := by
  refine ⟨henters.distinct_enter h, ?_, ?_, henters.kept_enter h, henters.own_enter h,
    fun n hn => henters.settled_enter h hn⟩
  · intro j
    by_cases hj : j = i
    · subst hj
      rw [enter_slots_self]
      exact henters.claimed
    · rw [enter_slots_ne hj]
      exact h.claimed j
  · intro j
    by_cases hj : j = i
    · subst hj
      rw [enter_slots_self]
      exact henters.balanced
    · rw [enter_slots_ne hj]
      intro hused
      rw [balance_of_ne (henters.quiet j hused)]
      exact h.balanced j hused

/-! ### The end of a registration -/

/-- A slot that was freed is not one of those in use after it. -/
theorem put_slots_used (hentry : b.entry = {}) (hj : ((R.put i n b).slots j).inUse = true) :
    j ≠ i ∧ (R.slots j).inUse = true := by
  by_cases hji : j = i
  · subst hji
    rw [put_slots_self, hentry] at hj
    cases hj
  · rw [put_slots_ne hji] at hj
    exact ⟨hji, hj⟩

/-- A slot in use freed, its registration settled. -/
theorem RegistryInvariant.free (h : RegistryInvariant hist R) (hused : (R.slots i).inUse = true)
    (hentry : b.entry = {}) (hsettled : Settled b.ledger)
    (hquiet : ∀ j, j ≠ i → (R.slots j).inUse = true → e.claims ≠ some (R.slots j).token) :
    RegistryInvariant (e :: hist) (R.put i (R.regs i) b) := by
  refine ⟨?_, ?_, ?_, ?_, ?_, ?_⟩
  · intro j k hj hk
    obtain ⟨hji, hj⟩ := put_slots_used hentry hj
    obtain ⟨hki, hk⟩ := put_slots_used hentry hk
    rw [put_slots_ne hji, put_slots_ne hki]
    exact h.distinct j k hj hk
  · intro j
    by_cases hj : j = i
    · subst hj
      rw [put_slots_self, hentry]
      simp
    · rw [put_slots_ne hj]
      exact h.claimed j
  · intro j hj
    obtain ⟨hji, hj⟩ := put_slots_used hentry hj
    rw [put_slots_ne hji, balance_of_ne (hquiet j hji hj)]
    exact h.balanced j hj
  · intro j hj
    obtain ⟨hji, hj⟩ := put_slots_used hentry hj
    -- its registration is its own, so not the one that ended
    have hreg : R.regs j ≠ R.regs i := fun heq => hji (h.own j i hj hused heq)
    rw [put_regs_ne hji, put_ledgers_ne hreg]
    exact h.kept j hj
  · intro j k hj hk
    obtain ⟨hji, hj⟩ := put_slots_used hentry hj
    obtain ⟨hki, hk⟩ := put_slots_used hentry hk
    rw [put_regs_ne hji, put_regs_ne hki]
    exact h.own j k hj hk
  · intro n hn hout
    by_cases hreg : n = R.regs i
    · subst hreg
      rw [put_ledgers_self]
      exact hsettled
    · rw [put_ledgers_ne hreg]
      apply h.settled n hn
      intro j hj heq
      by_cases hji : j = i
      · subst hji
        exact hreg heq.symm
      · have hnot := hout j
        rw [put_slots_ne hji, put_regs_ne hji] at hnot
        exact hnot hj heq

/-! ## The steps -/

/-- What a step does to the registrations already there. -/
structure StepAccount (R : Registry) (e : RegistryEvent) (R' : Registry) : Prop where
  /-- A refused acquire leaves every slot in use as it is, and what it registered is unwound. -/
  refused : ∀ token, e = .refused token →
    (∀ i, (R.slots i).inUse = true →
      R'.slots i = R.slots i ∧ R'.regs i = R.regs i ∧ R'.ledgers (R.regs i) = R.ledgers (R.regs i))
    ∧ (R'.count = R.count ∨ R'.count = R.count + 1 ∧ Aborted (R'.ledgers R.count))
  /-- A slot in use is freed by the release that takes its count to zero, and by nothing else. -/
  freed : ∀ i, (R.slots i).inUse = true →
    ((R'.slots i).inUse = false ↔ e = .released (R.slots i).token ∧ (R.slots i).refs = 1)
  /-- That release ends the registration of the slot, and no step writes in an older one otherwise. -/
  ended : ∀ n < R.count, R'.ledgers n ≠ R.ledgers n →
    ∃ i, (R.slots i).inUse = true ∧ R.regs i = n ∧ e = .released (R.slots i).token
      ∧ (R.slots i).refs = 1 ∧ TornDown (R'.ledgers n)

/-- A step that keeps every slot in use, writes in none of the ledgers there, and is no last release. -/
theorem StepAccount.of_kept
    (hslots : ∀ j, (R.slots j).inUse = true → (R'.slots j).inUse = true)
    (hledgers : ∀ n < R.count, R'.ledgers n = R.ledgers n)
    (hmore : ∀ j, (R.slots j).inUse = true → e = .released (R.slots j).token → (R.slots j).refs ≠ 1)
    (hrefused : ∀ token, e = .refused token →
      (∀ i, (R.slots i).inUse = true →
        R'.slots i = R.slots i ∧ R'.regs i = R.regs i ∧ R'.ledgers (R.regs i) = R.ledgers (R.regs i))
      ∧ (R'.count = R.count ∨ R'.count = R.count + 1 ∧ Aborted (R'.ledgers R.count))) :
    StepAccount R e R' := by
  refine ⟨hrefused, ?_, ?_⟩
  · intro j hj
    rw [hslots j hj]
    constructor
    · intro h
      cases h
    · intro h
      exact absurd h.2 (hmore j hj h.1)
  · intro n hn hne
    exact absurd (hledgers n hn) hne

/-- A write in place that leaves the flag, and is no last release. -/
theorem StepAccount.modify {f : LaserEntry → LaserEntry}
    (hinUse : (f (R.slots i)).inUse = (R.slots i).inUse)
    (hmore : ∀ j, (R.slots j).inUse = true → e = .released (R.slots j).token → (R.slots j).refs ≠ 1)
    (hnot : ∀ token, e ≠ .refused token) : StepAccount R e (R.modify i f) := by
  apply StepAccount.of_kept
  · intro j hj
    rw [modify_field LaserEntry.inUse hinUse]
    exact hj
  · intro n _
    rfl
  · exact hmore
  · intro token heq
    exact absurd heq (hnot token)

/-- The other slots in use hold other tokens. -/
theorem RegistryInvariant.only (h : RegistryInvariant hist R) (hfound : HoldsToken R token i) :
    ∀ j, j ≠ i → (R.slots j).inUse = true → some token ≠ some (R.slots j).token := by
  intro j hj hused heq
  apply hj
  apply h.distinct j i hused hfound.1
  rw [hfound.2]
  exact (Option.some.inj heq).symm

/-- `laser_acquire()` on a device already registered. -/
theorem RegistryInvariant.claim (h : RegistryInvariant hist R) (hfound : HoldsToken R token i) :
    RegistryInvariant (.acquired token false :: hist)
        (R.modify i fun e => { e with refs := e.refs + 1 })
      ∧ StepAccount R (.acquired token false) (R.modify i fun e => { e with refs := e.refs + 1 }) := by
  obtain ⟨hused, htoken⟩ := hfound
  constructor
  · apply h.modify rfl rfl
    · simp [hused]
    · intro _
      have hbalanced := h.balanced i hused
      rw [htoken] at hbalanced ⊢
      rw [balance_acquired]
      push_cast
      omega
    · exact h.only ⟨hused, htoken⟩
  · apply StepAccount.modify rfl
    · intro j _ heq
      cases heq
    · intro token' heq
      cases heq

/-- A registration, in either outcome, touches nothing of the slots in use. -/
theorem RegistryInvariant.enter_account (h : RegistryInvariant hist R)
    (hfree : (R.slots i).inUse = false)
    (haborted : ∀ token, e = .refused token → Aborted b.ledger)
    (hnot : ∀ token, e ≠ .released token) : StepAccount R e (R.enter i b) := by
  have hother : ∀ j, (R.slots j).inUse = true → j ≠ i := fun j hj => (h.older hfree hj).1
  apply StepAccount.of_kept
  · intro j hj
    rw [enter_slots_ne (hother j hj)]
    exact hj
  · intro n hn
    exact enter_ledgers_ne (Nat.ne_of_lt hn)
  · intro j _ heq
    exact absurd heq (hnot _)
  · intro token heq
    refine ⟨?_, .inr ⟨rfl, ?_⟩⟩
    · intro j hj
      exact ⟨enter_slots_ne (hother j hj), enter_regs_ne (hother j hj),
        enter_ledgers_ne (Nat.ne_of_lt (h.kept j hj).1)⟩
    · rw [enter_ledgers_self]
      exact haborted token heq

/-- **`laser_acquire()` keeps the invariant.** -/
theorem RegistryInvariant.acquire (h : RegistryInvariant hist R) (token : Int) (o : Setup)
    (st : Option (Nat × Nat)) (hevent : e = if (laserAcquire token o st R).1 = .ok then
      .acquired token (laserLookup R token).isNone else .refused token) :
    RegistryInvariant (e :: hist) (laserAcquire token o st R).2
      ∧ StepAccount R e (laserAcquire token o st R).2 := by
  obtain heq | ⟨i, b, hfree, hentry, haborted, heq⟩ | ⟨i, hlookup, heq⟩
    | ⟨i, b, hlookup, hfree, hkept, htoken, hinUse, hrefs, heq⟩ := laserAcquire_cases token o st R
  all_goals rw [heq] at hevent ⊢
  · -- a recycled descriptor, or no slot left
    rw [if_neg (by simp)] at hevent
    subst hevent
    refine ⟨h.quiet (by simp [RegistryEvent.claims]), ?_⟩
    apply StepAccount.of_kept
    · exact fun _ hj => hj
    · exact fun _ _ => rfl
    · intro j _ heq
      cases heq
    · exact fun _ _ => ⟨fun _ _ => ⟨rfl, rfl, rfl⟩, .inl rfl⟩
  · -- a registration that failed
    rw [if_neg (by simp)] at hevent
    subst hevent
    refine ⟨h.enter ⟨hfree, ?_, ?_, ?_, ?_, ?_, ?_⟩, h.enter_account hfree ?_ ?_⟩
    · simp [hentry]
    · simp [hentry]
    · simp [hentry]
    · simp [hentry]
    · exact fun _ => .inl haborted
    · simp [RegistryEvent.claims]
    · exact fun _ _ => haborted
    · simp
  · -- another claim on the device
    rw [if_pos rfl, hlookup] at hevent
    subst hevent
    exact h.claim (laserLookup_some hlookup)
  · -- the first claim on a new device
    rw [if_pos rfl, hlookup] at hevent
    subst hevent
    have hnone := laserLookup_none hlookup
    rw [enter_modify]
    refine ⟨h.enter ⟨hfree, ?_, ?_, ?_, ?_, ?_, ?_⟩, h.enter_account hfree ?_ ?_⟩
    · intro j hj _ heq
      exact hnone j ⟨hj, heq.trans htoken⟩
    · simp [hinUse]
    · intro _
      show ((b.entry.refs + 1 : Nat) : Int) = balance b.entry.token _
      rw [hrefs, htoken]
      exact balance_registered.symm
    · exact fun _ => hkept
    · intro hunused
      rw [hinUse] at hunused
      cases hunused
    · intro j hj heq
      exact hnone j ⟨hj, (Option.some.inj heq).symm⟩
    · intro token' heq
      cases heq
    · simp

/-- `laser_release()` with other claims left. -/
theorem RegistryInvariant.unclaim (h : RegistryInvariant hist R) (hfound : HoldsToken R token i)
    (hmore : 1 < (R.slots i).refs) :
    RegistryInvariant (.released token :: hist) (R.modify i fun e => { e with refs := e.refs - 1 })
      ∧ StepAccount R (.released token) (R.modify i fun e => { e with refs := e.refs - 1 }) := by
  obtain ⟨hused, htoken⟩ := hfound
  have honly := h.only ⟨hused, htoken⟩
  constructor
  · apply h.modify rfl rfl
    · simp only [hused, true_iff]
      omega
    · intro _
      have hbalanced := h.balanced i hused
      rw [htoken] at hbalanced ⊢
      rw [balance_released]
      show (((R.slots i).refs - 1 : Nat) : Int) = _
      omega
    · exact honly
  · apply StepAccount.modify rfl
    · intro j hj heq
      by_cases hji : j = i
      · subst hji
        omega
      · injection heq with heq
        exact absurd (congrArg some heq) (honly j hji hj)
    · intro token' heq
      cases heq

/-- `laser_release()` of the last claim: the one step that ends a registration. -/
theorem RegistryInvariant.lastRelease (h : RegistryInvariant hist R) (hfound : HoldsToken R token i)
    (hlast : (R.slots i).refs = 1) (hentry : b.entry = {}) (htorn : TornDown b.ledger) :
    RegistryInvariant (.released token :: hist) (R.put i (R.regs i) b)
      ∧ StepAccount R (.released token) (R.put i (R.regs i) b) := by
  obtain ⟨hused, htoken⟩ := hfound
  have honly := h.only ⟨hused, htoken⟩
  -- nobody else holds this token, so no other balance changes
  refine ⟨h.free hused hentry (.inr htorn) honly, ?_, ?_, ?_⟩
  · intro token' heq
    cases heq
  · intro j hj
    by_cases hji : j = i
    · subst hji
      rw [put_slots_self, hentry, htoken]
      exact ⟨fun _ => ⟨rfl, hlast⟩, fun _ => rfl⟩
    · rw [put_slots_ne hji, hj]
      constructor
      · intro hfalse
        cases hfalse
      · intro heq
        injection heq.1 with heq
        exact absurd (congrArg some heq) (honly j hji hj)
  · intro n _ hne
    have hreg : n = R.regs i := by
      by_contra hreg
      exact hne (put_ledgers_ne hreg)
    subst hreg
    refine ⟨i, hused, rfl, ?_, hlast, ?_⟩
    · rw [htoken]
    · rw [put_ledgers_self]
      exact htorn

/-- **`laser_release()` keeps the invariant.** -/
theorem RegistryInvariant.release (h : RegistryInvariant hist R) (token : Int) :
    RegistryInvariant (.released token :: hist) (laserRelease token R)
      ∧ StepAccount R (.released token) (laserRelease token R) := by
  obtain ⟨hlookup, heq⟩ | ⟨i, hlookup, hcases⟩ := laserRelease_cases token R
  · -- nothing registered under the token
    have hnone := laserLookup_none hlookup
    rw [heq]
    refine ⟨h.quiet ?_, ?_⟩
    · intro j hj heq
      exact hnone j ⟨hj, (Option.some.inj heq).symm⟩
    · apply StepAccount.of_kept
      · exact fun _ hj => hj
      · exact fun _ _ => rfl
      · intro j hj heq
        injection heq with heq
        exact absurd ⟨hj, heq.symm⟩ (hnone j)
      · intro token' heq
        cases heq
  · have hfound := laserLookup_some hlookup
    obtain ⟨hzero, -⟩ | ⟨hmore, heq⟩ | ⟨hlast, e, heq⟩ := hcases
    · -- a slot in use is always claimed, so the guard on `refs` never fires
      have hclaimed := (h.claimed i).mp hfound.1
      omega
    · rw [heq]
      exact h.unclaim hfound hmore
    · rw [heq]
      have hkept := (h.kept i hfound.1).2
      obtain ⟨hentry, htorn⟩ := Kept.teardown (b := ⟨e, R.ledgers (R.regs i)⟩) hkept
      exact h.lastRelease hfound hlast hentry htorn

/-- **One step.** -/
theorem RegistryInvariant.step (h : RegistryInvariant hist R) (hstep : RegistryStep R e R') :
    RegistryInvariant (e :: hist) R' ∧ StepAccount R e R' := by
  cases hstep with
  | acquired token o st hok => exact h.acquire token o st (by rw [if_pos hok])
  | refused token o st hrefused => exact h.acquire token o st (by rw [if_neg hrefused])
  | released token => exact h.release token
  | elsewhere i f hkeeps =>
      obtain ⟨hinUse, htoken, hrefs⟩ := hkeeps (R.slots i)
      constructor
      · apply h.modify hinUse htoken
        · rw [hrefs]
          exact h.claimed i
        · intro hused
          rw [hrefs, balance_of_ne (by simp [RegistryEvent.claims])]
          exact h.balanced i hused
        · simp [RegistryEvent.claims]
      · apply StepAccount.modify hinUse
        · intro j _ heq
          cases heq
        · intro token' heq
          cases heq

/-- **Every run.** -/
theorem RegistryInvariant.run (hrun : Run RegistryStep Registry.init hist R) :
    RegistryInvariant hist R :=
  hrun.invariant (I := RegistryInvariant) (fun _ _ _ _ _ h hstep => (h.step hstep).1) .init

/-- `refs` stays an `int` for as long as there were fewer than 2³¹ calls. -/
theorem RegistryInvariant.refs_le (h : RegistryInvariant hist R) (hused : (R.slots i).inUse = true) :
    (R.slots i).refs ≤ hist.length := by
  have hbalanced := h.balanced i hused
  have hle : balance (R.slots i).token hist ≤ hist.length := balance_le_length
  omega

/-- The driver rule holds of every registration there was. -/
theorem RegistryInvariant.driverRule (h : RegistryInvariant hist R) (hn : n < R.count) :
    DriverRule (R.ledgers n) := by
  by_cases hin : ∃ i, (R.slots i).inUse = true ∧ R.regs i = n
  · obtain ⟨i, hused, hreg⟩ := hin
    rw [← hreg]
    exact (h.kept i hused).2.driverRule
  · apply (h.settled n hn ?_).driverRule
    intro i hused hreg
    exact hin ⟨i, hused, hreg⟩

/-- **The registry over whole runs.** The invariant holds at every boundary of `g_registry_lock`; every
    kernel driver was handed back exactly as it should; and whatever the next call is, it ends no
    registration but by the last release, and touches nothing of the others if it is refused. -/
theorem registry_balanced (hrun : Run RegistryStep Registry.init hist R) :
    RegistryInvariant hist R ∧ (∀ n < R.count, DriverRule (R.ledgers n))
      ∧ ∀ e R', RegistryStep R e R' → StepAccount R e R' := by
  have hinv := RegistryInvariant.run hrun
  exact ⟨hinv, fun _ hn => hinv.driverRule hn, fun _ _ hstep => (hinv.step hstep).2⟩

/-- A drive the kernel had bound, and a USB key it had bound. -/
def someDrive : Setup where
  fstat := some (1, 42)
  ioLockInit := true
  cssMtxInit := true
  cssClockMonotonic := true
  condattrInit := true
  condattrSetclock := true
  condInit := true
  initContext := true
  wrapSysDevice := true
  descriptor := some (0x13fd, 0x0840, 0x0114)
  endpoints := some ⟨0, 0x81, 0x02, 512⟩
  kernelDriverActive := 1
  detachKernelDriver := true
  claimInterface := true
  probe := .yes
  lun := 0
  bot := {}
  notReady := false

def someKey : Setup := { someDrive with fstat := some (1, 43), probe := .no }

theorem registry_balanced_drive_and_key : ∃ R, R.count = 2 ∧
    RegistryInvariant [.released 7, .refused 9, .acquired 7 true] R
      ∧ (∀ n < R.count, DriverRule (R.ledgers n))
      ∧ ∀ e R', RegistryStep R e R' → StepAccount R e R' := by
  have hdrive : RegistryStep Registry.init (.acquired 7 true) _ :=
    .acquired 7 someDrive none (by decide)
  have hkey : RegistryStep _ (.refused 9) _ :=
    .refused (R := (laserAcquire 7 someDrive none Registry.init).2) 9 someKey none (by decide)
  have hrun := ((Run.refl.step hdrive).step hkey).step (.released 7)
  exact ⟨_, by decide, registry_balanced hrun⟩

end Liblaser

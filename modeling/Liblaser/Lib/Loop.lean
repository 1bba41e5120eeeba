/-!
# `Lib.Loop` — loops that may leave early, run on fuel

A loop body is a function from a state to a `Turn`: go round again in a new state, or leave with a
result. `iterate` runs the body on fuel, so a loop that never leaves is `none` at every fuel, and a
statement about "the loop returns" is a statement about some fuel giving `some`. `Reaches` is the
relation the inductions are on: the states in which a turn begins.

## Contents
- **Runs.** `Reaches`, and `iterate_eq_some_iff`: a result is a reached state whose turn leaves.
- **Partial correctness.** `Reaches.invariant` / `iterate_invariant`: what every turn keeps holds of
  every reached state, and of the result.
- **Termination.** `iterate_of_measure`: a measure that every turn decreases is enough fuel.
- **Divergence.** `iterate_none_of_again`: a set of states no turn leaves is never left.

Nothing here knows what the loop is about.
-/

namespace Loop

variable {σ ρ : Type}

/-- One turn of a loop body: round again in a new state, or out with a result. -/
inductive Turn (σ ρ : Type) where
  | again (s : σ)
  | done (r : ρ)

/-- Run the body for at most `fuel` turns; `none` when the fuel runs out first. -/
def iterate (body : σ → Turn σ ρ) : Nat → σ → Option ρ
  | 0, _ => none
  | fuel + 1, s =>
    match body s with
    | .again s' => iterate body fuel s'
    | .done r => some r

/-- `Reaches body s n t`: started in `s`, the loop begins its turn number `n` (from 0) in `t`. -/
inductive Reaches (body : σ → Turn σ ρ) (s : σ) : Nat → σ → Prop where
  | start : Reaches body s 0 s
  | turn {n : Nat} {t u : σ} : Reaches body s n t → body t = .again u → Reaches body s (n + 1) u

variable {body : σ → Turn σ ρ} {s t u : σ} {n m fuel : Nat} {r : ρ}

/-- A first turn can be put in front of a run. -/
theorem Reaches.head (h : body s = .again t) (hr : Reaches body t n u) :
    Reaches body s (n + 1) u := by
  induction hr with
  | start => exact .turn .start h
  | turn _ hb ih => exact .turn ih hb

/-- A run either has made no turn, or has made its first turn and runs on from there. -/
theorem Reaches.cases_head (hr : Reaches body s n t) :
    (n = 0 ∧ t = s) ∨ ∃ m s', n = m + 1 ∧ body s = .again s' ∧ Reaches body s' m t := by
  induction hr with
  | start => exact .inl ⟨rfl, rfl⟩
  | turn _ hb ih =>
      right
      rcases ih with ⟨rfl, rfl⟩ | ⟨m, s', rfl, hb', hr'⟩
      · exact ⟨0, _, rfl, hb, .start⟩
      · exact ⟨m + 1, s', rfl, hb', hr'.turn hb⟩

/-- A run is deterministic: one state for each turn number. -/
theorem Reaches.unique (h₁ : Reaches body s n t) (h₂ : Reaches body s n u) : t = u := by
  induction h₁ generalizing u with
  | start => cases h₂; rfl
  | turn _ hb ih =>
      cases h₂ with
      | turn hr hb' =>
          have := ih hr
          subst this
          rw [hb] at hb'
          injection hb'

/-- No turn is begun after the one that leaves. -/
theorem Reaches.le_of_done (hr : Reaches body s n t) (hdone : body t = .done r)
    (hu : Reaches body s m u) : m ≤ n := by
  induction hu with
  | start => exact Nat.zero_le n
  | @turn k x _ hx hb ih =>
      rcases Nat.lt_or_eq_of_le ih with hlt | rfl
      · exact hlt
      · have hsame := hx.unique hr
        subst hsame
        rw [hdone] at hb
        cases hb

/-- Every reached state comes before the one whose turn leaves. -/
theorem Reaches.to_done (hr : Reaches body s n t) (hu : Reaches body s m u)
    (hdone : body u = .done r) : ∃ k, Reaches body t k u := by
  induction hr with
  | start => exact ⟨m, hu⟩
  | turn _ hb ih =>
      obtain ⟨k, hk⟩ := ih
      rcases hk.cases_head with ⟨-, rfl⟩ | ⟨k', s', -, hb', hr'⟩
      · rw [hb] at hdone
        cases hdone
      · rw [hb] at hb'
        injection hb' with heq
        exact ⟨k', heq ▸ hr'⟩

/-- The loop returns `r` exactly when some reached state leaves with `r`, within the fuel. -/
theorem iterate_eq_some_iff :
    iterate body fuel s = some r ↔ ∃ n t, n < fuel ∧ Reaches body s n t ∧ body t = .done r := by
  induction fuel generalizing s with
  | zero => simp [iterate]
  | succ fuel ih =>
      constructor
      · intro h
        unfold iterate at h
        cases hb : body s with
        | done r' =>
            rw [hb] at h
            exact ⟨0, s, Nat.succ_pos _, .start, by rw [hb]; simpa using h⟩
        | again s' =>
            rw [hb] at h
            obtain ⟨n, t, hn, hr, hd⟩ := ih.mp h
            exact ⟨n + 1, t, Nat.succ_lt_succ hn, hr.head hb, hd⟩
      · rintro ⟨n, t, hn, hr, hd⟩
        unfold iterate
        rcases hr.cases_head with ⟨rfl, rfl⟩ | ⟨m, s', rfl, hb, hr'⟩
        · rw [hd]
        · rw [hb]
          exact ih.mpr ⟨m, t, Nat.lt_of_succ_lt_succ hn, hr', hd⟩

/-- More fuel changes no result. -/
theorem iterate_mono (h : iterate body fuel s = some r) (hle : fuel ≤ m) :
    iterate body m s = some r := by
  obtain ⟨n, t, hn, hr, hd⟩ := iterate_eq_some_iff.mp h
  exact iterate_eq_some_iff.mpr ⟨n, t, Nat.lt_of_lt_of_le hn hle, hr, hd⟩

/-- At every fuel the loop has returned, or has begun that many turns. -/
theorem iterate_or_reaches (body : σ → Turn σ ρ) (fuel : Nat) (s : σ) :
    (∃ r, iterate body fuel s = some r) ∨ ∃ t, Reaches body s fuel t := by
  induction fuel generalizing s with
  | zero => exact .inr ⟨s, .start⟩
  | succ fuel ih =>
      unfold iterate
      cases hb : body s with
      | done r => exact .inl ⟨r, rfl⟩
      | again s' => exact (ih s').imp id fun ⟨t, ht⟩ => ⟨t, ht.head hb⟩

/-- What a turn leads to: `P` of the state to go on in, or `Q` of the result. -/
def Turn.All (P : σ → Prop) (Q : ρ → Prop) : Turn σ ρ → Prop
  | .again s => P s
  | .done r => Q r

/-- A turn in another state space. -/
def Turn.map {σ' ρ' : Type} (f : σ → σ') (g : ρ → ρ') : Turn σ ρ → Turn σ' ρ'
  | .again s => .again (f s)
  | .done r => .done (g r)

/-- A loop whose turns are those of another, seen through `f` and `g`, returns what the other does. -/
theorem iterate_map {σ' ρ' : Type} {body' : σ' → Turn σ' ρ'} {f : σ → σ'} {g : ρ → ρ'}
    (hsim : ∀ s, body' (f s) = (body s).map f g) :
    iterate body' fuel (f s) = (iterate body fuel s).map g := by
  induction fuel generalizing s with
  | zero => rfl
  | succ fuel ih =>
      unfold iterate
      rw [hsim s]
      cases hb : body s with
      | again s' =>
          show iterate body' fuel (f s') = _
          exact ih
      | done r => rfl

/-- A loop whose turns are those of another in the states that either comes through returns what the
    other does. -/
theorem iterate_congr {body' : σ → Turn σ ρ} {I : σ → Prop} (hsame : ∀ t, I t → body' t = body t)
    (hkeep : ∀ t u, I t → body t = .again u → I u) (hs : I s) :
    iterate body' fuel s = iterate body fuel s := by
  induction fuel generalizing s with
  | zero => rfl
  | succ fuel ih =>
      unfold iterate
      rw [hsame s hs]
      cases hb : body s with
      | again s' => exact ih (hkeep s s' hs hb)
      | done r => rfl

/-- The state in which the loop begins its turn number `n`, computed. -/
def nthTurn (body : σ → Turn σ ρ) : Nat → σ → Option σ
  | 0, s => some s
  | n + 1, s =>
    match body s with
    | .again s' => nthTurn body n s'
    | .done _ => none

theorem Reaches.of_nthTurn (h : nthTurn body n s = some t) : Reaches body s n t := by
  induction n generalizing s with
  | zero =>
      injection h with h
      subst h
      exact .start
  | succ n ih =>
      unfold nthTurn at h
      cases hb : body s with
      | done r =>
          rw [hb] at h
          cases h
      | again s' =>
          rw [hb] at h
          exact (ih h).head hb

theorem Reaches.nthTurn_eq (hr : Reaches body s n t) : nthTurn body n s = some t := by
  induction n generalizing s with
  | zero =>
      rcases hr.cases_head with ⟨-, rfl⟩ | ⟨m, s', hm, -, -⟩
      · rfl
      · cases hm
  | succ n ih =>
      rcases hr.cases_head with ⟨hn, -⟩ | ⟨m, s', hm, hb, hr'⟩
      · cases hn
      · injection hm with hm
        subst hm
        unfold nthTurn
        rw [hb]
        exact ih hr'

/-- A run that has come to a turn has come through those before. -/
theorem Reaches.earlier (hr : Reaches body s n t) (hle : m ≤ n) : ∃ u, Reaches body s m u := by
  induction hr with
  | start =>
      obtain rfl : m = 0 := Nat.le_zero.mp hle
      exact ⟨s, .start⟩
  | turn hr hb ih =>
      rcases Nat.lt_or_eq_of_le hle with hlt | rfl
      · exact ih (Nat.le_of_lt_succ hlt)
      · exact ⟨_, hr.turn hb⟩

/-- What holds of each turn of a run that is over after `m` of them holds of every reached state. -/
theorem Reaches.all_of_nthTurn {P : σ → Prop} [DecidablePred P] (m : Nat)
    (hover : nthTurn body m s = none)
    (hall : ∀ n < m, (nthTurn body n s).all (fun t => decide (P t)) = true)
    (hr : Reaches body s n t) : P t := by
  rcases Nat.lt_or_ge n m with hlt | hge
  · have hturn := hall n hlt
    rw [hr.nthTurn_eq] at hturn
    exact of_decide_eq_true hturn
  · obtain ⟨u, hu⟩ := hr.earlier hge
    rw [hu.nthTurn_eq] at hover
    cases hover

/-! ## The states of a run -/

/-- `Visits body s ts t`: started in `s`, the loop has begun a turn in each state of `ts`, newest first,
    and begins its next one in `t`. -/
inductive Visits (body : σ → Turn σ ρ) (s : σ) : List σ → σ → Prop where
  | start : Visits body s [] s
  | turn {ts : List σ} {t u : σ} : Visits body s ts t → body t = .again u → Visits body s (t :: ts) u

/-- The loop rule for an invariant that speaks of the states before. -/
theorem Visits.invariant {I : List σ → σ → Prop} {ts : List σ}
    (hkeep : ∀ ts t u, Visits body s ts t → I ts t → body t = .again u → I (t :: ts) u)
    (hv : Visits body s ts t) (hs : I [] s) : I ts t := by
  induction hv with
  | start => exact hs
  | turn hv hb ih => exact hkeep _ _ _ hv ih hb

/-- A run and its states. -/
theorem Reaches.visits (hr : Reaches body s n t) : ∃ ts, Visits body s ts t := by
  induction hr with
  | start => exact ⟨[], .start⟩
  | turn _ hb ih =>
      obtain ⟨ts, hts⟩ := ih
      exact ⟨_, hts.turn hb⟩

theorem Visits.reaches {ts : List σ} (hv : Visits body s ts t) : Reaches body s ts.length t := by
  induction hv with
  | start => exact .start
  | turn _ hb ih => exact ih.turn hb

/-- The states of the first turns of a run, computed. -/
def history (body : σ → Turn σ ρ) (s : σ) : Nat → Option (List σ × σ)
  | 0 => some ([], s)
  | n + 1 =>
    match history body s n with
    | some (ts, t) =>
      match body t with
      | .again u => some (t :: ts, u)
      | .done _ => none
    | none => none

theorem Visits.of_history {ts : List σ} (h : history body s n = some (ts, t)) :
    Visits body s ts t := by
  induction n generalizing ts t with
  | zero =>
      cases h
      exact .start
  | succ n ih =>
      unfold history at h
      cases hn : history body s n with
      | none =>
          rw [hn] at h
          cases h
      | some before =>
          obtain ⟨ts', t'⟩ := before
          rw [hn] at h
          dsimp only at h
          cases hb : body t' with
          | done r =>
              rw [hb] at h
              cases h
          | again u =>
              rw [hb] at h
              cases h
              exact (ih hn).turn hb

/-- Of two turns of a run the earlier one is among the states the later one comes after, or is the
    same. -/
theorem Visits.mem_of_reaches {ts : List σ} {x : σ} (hv : Visits body s ts t)
    (hx : Reaches body s m x) (hle : m ≤ ts.length) : x ∈ t :: ts := by
  induction hv with
  | start =>
      obtain rfl : m = 0 := Nat.le_zero.mp hle
      exact List.mem_singleton.mpr (hx.unique .start)
  | @turn ts t u hv hb ih =>
      rcases Nat.lt_or_eq_of_le hle with hlt | rfl
      · exact List.mem_cons_of_mem _ (ih (Nat.le_of_lt_succ hlt))
      · have hsame := hx.unique (hv.turn hb).reaches
        rw [hsame]
        exact List.mem_cons_self

/-! ## Partial correctness -/

/-- **The loop rule.** What holds at the start and is kept by every turn holds of every reached
    state. -/
theorem Reaches.invariant {I : σ → Prop} (hkeep : ∀ t u, I t → body t = .again u → I u)
    (hr : Reaches body s n t) (hs : I s) : I t := by
  induction hr with
  | start => exact hs
  | turn _ hb ih => exact hkeep _ _ ih hb

/-- The loop rule for an invariant that also speaks of the number of turns made, and of a turn that
    is known to be reached. -/
theorem Reaches.invariant_count {I : Nat → σ → Prop}
    (hkeep : ∀ k t u, Reaches body s k t → I k t → body t = .again u → I (k + 1) u)
    (hr : Reaches body s n t) (hs : I 0 s) : I n t := by
  induction hr with
  | start => exact hs
  | turn hr hb ih => exact hkeep _ _ _ hr ih hb

/-- **The loop rule, to the result.** With an invariant, what the leaving turn establishes from it
    holds of the result. -/
theorem iterate_invariant {I : σ → Prop} {Q : ρ → Prop}
    (hkeep : ∀ t u, I t → body t = .again u → I u) (hdone : ∀ t r, I t → body t = .done r → Q r)
    (hs : I s) (h : iterate body fuel s = some r) : Q r := by
  obtain ⟨n, t, -, hr, hd⟩ := iterate_eq_some_iff.mp h
  exact hdone t r (hr.invariant hkeep hs) hd

/-- The loop rule for a body stated turn by turn. -/
theorem iterate_all {I : σ → Prop} {Q : ρ → Prop} (hbody : ∀ t, I t → (body t).All I Q) (hs : I s)
    (h : iterate body fuel s = some r) : Q r := by
  apply iterate_invariant (I := I) ?_ ?_ hs h
  · intro t u ht hb
    have hturn := hbody t ht
    rwa [hb] at hturn
  · intro t r ht hb
    have hturn := hbody t ht
    rwa [hb] at hturn

/-! ## Termination and divergence -/

/-- **Enough fuel.** If an invariant makes every turn decrease a measure, one more fuel than the
    measure at the start runs the loop to its result. -/
theorem iterate_of_measure {I : σ → Prop} (μ : σ → Nat)
    (hkeep : ∀ t u, I t → body t = .again u → I u)
    (hdec : ∀ t u, I t → body t = .again u → μ u < μ t)
    (hs : I s) (hfuel : μ s < fuel) : ∃ r, iterate body fuel s = some r := by
  induction fuel generalizing s with
  | zero => exact absurd hfuel (Nat.not_lt_zero _)
  | succ fuel ih =>
      unfold iterate
      cases hb : body s with
      | done r => exact ⟨r, rfl⟩
      | again s' =>
          have hlt := hdec s s' hs hb
          exact ih (hkeep s s' hs hb) (by omega)

/-- **Divergence.** A set of states from which every turn goes round again, inside the set, is never
    left: no fuel gives a result. -/
theorem iterate_none_of_again {I : σ → Prop}
    (hagain : ∀ t, I t → ∃ u, body t = .again u ∧ I u) (hs : I s) : iterate body fuel s = none := by
  induction fuel generalizing s with
  | zero => rfl
  | succ fuel ih =>
      obtain ⟨u, hb, hu⟩ := hagain s hs
      unfold iterate
      rw [hb]
      exact ih hu

end Loop

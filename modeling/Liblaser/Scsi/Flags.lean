/-!
# `Scsi.Flags` — the two flags that give attempts back, as a machine

`becoming_ready` and `not_ready` decide which answers the retry loop gives an attempt back for. What
they do depends on two answers alone, 02h/04h and 28h/00h, so it is stated here of lists of those two,
newest first: how often a becoming-ready wait starts and how often 28h/00h is absorbed.

**`flags_once_iff`**: each happens at most once exactly when the answers do not go back and forth
(`Flapping`).
-/

namespace Liblaser

open scoped List

/-- The two answers the loop gives attempts back for. -/
inductive SpinUpAnswer where
  /-- 02h/04h. -/
  | becomingReady
  /-- 28h/00h. -/
  | changed
deriving DecidableEq, Repr

/-- The answers, on an entry whose readiness wait gave up or not, that make the loop give attempts back
    beyond its budget: 28h/00h between two 02h/04h, or, the wait having given up, 02h/04h between two
    28h/00h. The other answers in between do not matter. -/
def Flapping (notReady : Bool) (answers : List SpinUpAnswer) : Prop :=
  [.becomingReady, .changed, .becomingReady] <+ answers
    ∨ (notReady = true ∧ [.changed, .becomingReady, .changed] <+ answers)

instance (notReady : Bool) (answers : List SpinUpAnswer) :
    Decidable (Flapping notReady answers) := by
  unfold Flapping
  infer_instance

/-- The two flags of the loop, `becoming_ready` and the entry's `not_ready`, with the number of times
    each is acted on, as a machine on the answers alone. -/
structure SpinUpFlags where
  becomingReady : Bool
  notReady : Bool
  starts : Nat
  swaps : Nat
deriving DecidableEq, Repr

/-- 02h/04h raises the first flag; 28h/00h lowers both. -/
def SpinUpFlags.step (f : SpinUpFlags) : SpinUpAnswer → SpinUpFlags
  | .becomingReady =>
    { f with becomingReady := true, starts := f.starts + if f.becomingReady then 0 else 1 }
  | .changed => ⟨false, false, f.starts, f.swaps + 1⟩

/-- The flags after some answers, newest first. -/
def flagsAfter (notReady : Bool) : List SpinUpAnswer → SpinUpFlags
  | [] => ⟨false, notReady, 0, 0⟩
  | a :: answers => (flagsAfter notReady answers).step a

/-- Each 28h/00h found one of the flags up: otherwise it would have ended the call. -/
def Absorbed (notReady : Bool) : List SpinUpAnswer → Prop
  | [] => True
  | .becomingReady :: answers => Absorbed notReady answers
  | .changed :: answers =>
    ((flagsAfter notReady answers).becomingReady = true
      ∨ (flagsAfter notReady answers).notReady = true) ∧ Absorbed notReady answers

/-- What the flags and the counts say of the answers, newest first. -/
structure FlagsSpec (notReady : Bool) (answers : List SpinUpAnswer) : Prop where
  given : (flagsAfter notReady answers).notReady = true →
    notReady = true ∧ (flagsAfter notReady answers).swaps = 0
  swaps_iff : 1 ≤ (flagsAfter notReady answers).swaps ↔ .changed ∈ answers
  starts_iff : 1 ≤ (flagsAfter notReady answers).starts ↔ .becomingReady ∈ answers
  /-- 28h/00h was absorbed because of the entry's flag, or of a wait. -/
  swap_reason : .changed ∈ answers → notReady = true ∨ [.changed, .becomingReady] <+ answers
  /-- No wait is running: the last one was ended by 28h/00h. -/
  stopped : (flagsAfter notReady answers).becomingReady = false → .becomingReady ∈ answers →
    [.changed, .becomingReady] <+ answers
  /-- A wait is running, after a 28h/00h or not. -/
  running : (flagsAfter notReady answers).becomingReady = true → .becomingReady ∈ answers
    ∧ (.changed ∈ answers → [.becomingReady, .changed] <+ answers
        ∧ (notReady = true ∨ [.becomingReady, .changed, .becomingReady] <+ answers))
  restarted : [.changed, .becomingReady] <+ answers →
    (flagsAfter notReady answers).becomingReady = false ∨ 2 ≤ (flagsAfter notReady answers).starts
  two_starts : 2 ≤ (flagsAfter notReady answers).starts ↔
    [.becomingReady, .changed, .becomingReady] <+ answers
  two_swaps : 2 ≤ (flagsAfter notReady answers).swaps → Flapping notReady answers
  swaps_of_two : [.changed, .becomingReady, .changed] <+ answers →
    2 ≤ (flagsAfter notReady answers).swaps

/-- One more element matches the head of a subsequence or nothing of it. -/
theorem pair_sublist_cons {α : Type} {a b c : α} {l : List α} :
    [a, b] <+ c :: l ↔ [a, b] <+ l ∨ (a = c ∧ b ∈ l) := by
  simp [List.sublist_cons_iff, and_comm, eq_comm]

theorem triple_sublist_cons {α : Type} {a b c d : α} {l : List α} :
    [a, b, c] <+ d :: l ↔ [a, b, c] <+ l ∨ (a = d ∧ [b, c] <+ l) := by
  simp [List.sublist_cons_iff, and_comm, eq_comm]

theorem mem_of_pair_sublist {α : Type} {a b : α} {l : List α} (hsub : [a, b] <+ l) :
    a ∈ l ∧ b ∈ l :=
  ⟨hsub.subset (by simp), hsub.subset (by simp)⟩

/-- 02h/04h: a wait starts, or runs on. -/
theorem FlagsSpec.becomingReady {notReady : Bool} {answers : List SpinUpAnswer}
    (hspec : FlagsSpec notReady answers) : FlagsSpec notReady (.becomingReady :: answers) := by
  have hmem := fun a b => @mem_of_pair_sublist _ a b answers
  obtain ⟨given, swaps_iff, starts_iff, swap_reason, stopped, running, restarted, two_starts,
    two_swaps, swaps_of_two⟩ := hspec
  constructor <;>
    simp only [flagsAfter, SpinUpFlags.step, Flapping, pair_sublist_cons, triple_sublist_cons,
      List.mem_cons]
  -- a second start follows a wait that 28h/00h stopped
  case two_starts => grind
  -- a wait that starts after an absorbed 28h/00h: `swap_reason` says why that one was absorbed
  case running => grind
  case two_swaps => grind [Flapping]
  all_goals grind

/-- 28h/00h, with one of the flags up. -/
theorem FlagsSpec.changed {notReady : Bool} {answers : List SpinUpAnswer}
    (hspec : FlagsSpec notReady answers)
    (hup : (flagsAfter notReady answers).becomingReady = true
      ∨ (flagsAfter notReady answers).notReady = true) :
    FlagsSpec notReady (.changed :: answers) := by
  have hmem := fun a b => @mem_of_pair_sublist _ a b answers
  obtain ⟨given, swaps_iff, starts_iff, swap_reason, stopped, running, restarted, two_starts,
    two_swaps, swaps_of_two⟩ := hspec
  constructor <;>
    simp only [flagsAfter, SpinUpFlags.step, Flapping, pair_sublist_cons, triple_sublist_cons,
      List.mem_cons]
  -- a second swap finds a wait running, since the first one lowered the entry's flag
  case two_swaps => grind [Flapping]
  case swap_reason => grind
  all_goals grind

theorem flagsAfter_spec {notReady : Bool} {answers : List SpinUpAnswer}
    (habsorbed : Absorbed notReady answers) : FlagsSpec notReady answers := by
  induction answers with
  | nil => constructor <;> simp [flagsAfter]
  | cons a answers ih =>
      cases a with
      | becomingReady => exact (ih habsorbed).becomingReady
      | changed => exact (ih habsorbed.2).changed habsorbed.1

/-- **One wait and one absorbed 28h/00h, unless the answers go back and forth.** -/
theorem flags_once_iff {notReady : Bool} {answers : List SpinUpAnswer}
    (habsorbed : Absorbed notReady answers) :
    ((flagsAfter notReady answers).starts ≤ 1 ∧ (flagsAfter notReady answers).swaps ≤ 1)
      ↔ ¬ Flapping notReady answers := by
  have hspec := flagsAfter_spec habsorbed
  constructor
  · rintro ⟨hstarts, hswaps⟩ (hflap | ⟨-, hflap⟩)
    · have := hspec.two_starts.mpr hflap
      omega
    · have := hspec.swaps_of_two hflap
      omega
  · intro hno
    refine ⟨Nat.le_of_not_lt fun hlt => hno (.inl (hspec.two_starts.mp hlt)),
      Nat.le_of_not_lt fun hlt => hno (hspec.two_swaps hlt)⟩

end Liblaser

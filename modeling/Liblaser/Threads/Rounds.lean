import Liblaser.Css.Exclusion
import Liblaser.Threads.Machine

/-!
# `Threads.Rounds` — what one act does

One lemma for each thing the properties of the machine ask of a round: whether it touches the bus, and what
it does to the fields of the entry that other threads read. A round of the retry loop touches the bus
unless it finds the token cancelled or has no attempt left; the critical sections of
`laser_token_settle()` and of the wait always do.

`EntryAct` is what any act can do to the entry. The invariants of the machine are read off it.
-/

namespace Liblaser

open Loop

section Bus

variable {U : Type} {usb : UsbHost U} {clockGettime : U → Timespec × U} {isCancelled : U → Bool × U}

/-- Every transaction of the trace whose CDB fits has made a transfer. -/
def Heard (s : Sys (Bus U)) : Prop :=
  ∀ sender req o, .sent sender req o ∈ s.trace → req.cdb.length ≤ cbwcbSize → Transfers s.world.log

theorem heard_preserved (usb : UsbHost U) (clockGettime : U → Timespec × U)
    (isCancelled : U → Bool × U) (S : Sender → Prop) :
    Preserved (.onBus usb clockGettime isCancelled) S Heard := by
  have hother : ∀ {s s' : Sys (Bus U)} (e : ScsiEvent), Heard s → e.outcome = none →
      s'.world.log = s.world.log → s'.trace = e :: s.trace → Heard s' := by
    intro s s' e hs he hlog htrace sender req o hmem hfit
    rw [htrace] at hmem
    rw [hlog]
    refine hs sender req o (List.mem_of_ne_of_mem ?_ hmem) hfit
    rintro rfl
    cases he
  constructor
  case send =>
    intro s sender req _ hs sender' req' o hmem hfit
    have hspec := laserBotSendLocked_spec usb s.entry req s.world.usb
    show Transfers ((laserBotSendLocked usb s.entry req s.world.usb).2.log ++ s.world.log)
    rw [transfers_append]
    rcases List.mem_cons.mp hmem with heq | hmem
    · injection heq with _ heq _
      exact .inl (hspec.transfers (heq ▸ hfit))
    · exact .inr (hs sender' req' o hmem hfit)
  case clockGettime =>
    intro s hs
    exact hs
  case usleep =>
    intro s us hs
    exact hother (.slept us) hs rfl rfl rfl
  case isCancelled =>
    intro s hs
    exact hother (.polled (isCancelled s.world.usb).1) hs rfl rfl rfl
  case record =>
    intro s e he hs
    exact hother e hs he rfl rfl
  case entry =>
    intro s e _ hs
    exact hs

/-- The bus log only grows. -/
theorem transfers_preserved (usb : UsbHost U) (clockGettime : U → Timespec × U)
    (isCancelled : U → Bool × U) (S : Sender → Prop) :
    Preserved (.onBus usb clockGettime isCancelled) S fun s => Transfers s.world.log where
  send _ _ _ hs := transfers_append.mpr (.inr hs)
  clockGettime hs := hs
  usleep _ hs := hs
  isCancelled hs := hs
  record _ hs := hs
  entry _ _ hs := hs

/-- A state without a trace yet. -/
theorem heard_start (entry : LaserEntry) (b : Bus U) : Heard (⟨entry, b, []⟩ : Sys (Bus U)) := by
  intro sender req o hmem
  cases hmem

end Bus

variable {W : Type} {h : Host W} {call : CdbCall} {v v' : CdbVars} {s t u : Sys W} {o : BotOutcome}
  {sense : Sense}

/-! ## The round of the retry loop -/

theorem Failed.sent_mem (hfailed : Failed h call v s o sense v' t) :
    .sent .scsiCdb call.request o ∈ t.trace := by
  obtain ⟨v₁, s₁, hasked, -, hsense, -⟩ := hfailed.asked
  apply hsense.suffix.subset
  rw [hasked.trace]
  exact List.mem_cons_self

/-- A round that goes round again has sent the CDB. -/
theorem AgainSpec.sent_mem (hspec : AgainSpec h call v s v' u) :
    ∃ o, .sent .scsiCdb call.request o ∈ u.trace := by
  cases hspec with
  | mediumReady hfailed _ _ => exact ⟨_, List.mem_cons_of_mem _ hfailed.sent_mem⟩
  | free hfailed _ _ hwait _ _ =>
      exact ⟨_, List.mem_cons_of_mem _ (List.mem_cons_of_mem _
        (hwait.suffix.subset hfailed.sent_mem))⟩
  | late hfailed _ _ hwait _ _ hspent =>
      exact ⟨_, hspent.suffix.subset (hwait.suffix.subset hfailed.sent_mem)⟩
  | retried hfailed _ _ _ hspent => exact ⟨_, hspent.suffix.subset hfailed.sent_mem⟩

/-- One that ends the loop has too, when it had an attempt to make and the token was not cancelled. -/
theorem DoneSpec.sent_mem (hspec : DoneSpec h call v s v' u) (hle : v.attempt ≤ laserMaxRetries)
    (hon : (s.isCancelled h).1 = false) : ∃ o, .sent .scsiCdb call.request o ∈ u.trace := by
  cases hspec with
  | exhausted hmax => exact absurd hle (Nat.not_le_of_lt hmax)
  | cancelled _ hcancel =>
      have hon : (h.isCancelled s.world).1 = false := hon
      rw [hcancel] at hon
      cases hon
  | passed hasked =>
      rw [sampleThroughputLocked_trace, hasked.trace]
      exact ⟨_, List.mem_cons_self⟩
  | gone hasked =>
      show ∃ o, _ ∈ Sys.trace _
      rw [Sys.markGone, hasked.trace]
      exact ⟨_, List.mem_cons_self⟩
  | final hfailed _ => exact ⟨_, hfailed.sent_mem⟩

section Round

variable {U : Type} {usb : UsbHost U} {clockGettime : U → Timespec × U} {entry : LaserEntry} {b : U}
  {v v' : CdbVars} {t : Sys (Bus U)} {call : CheckedCall} {cancelled : Bool}

/-- A checked CDB fits a CBW. -/
theorem CheckedCall.fits (call : CheckedCall) : call.1.request.cdb.length ≤ cbwcbSize :=
  CdbCall.fits_of_valid call.2

/-- A round that finds the token cancelled ends the call and does not touch the bus. -/
theorem round_cancelled
    {turn : Turn (CdbVars × Sys (Bus U)) (CdbVars × Sys (Bus U))}
    (hturn : cdbTurn (roundHost usb clockGettime true) call.1 (v, ⟨entry, ⟨b, []⟩, []⟩) = turn) :
    ∃ v' t, turn = .done (v', t) ∧ t.world.log = [] := by
  subst hturn
  by_cases hle : v.attempt ≤ laserMaxRetries
  · rw [cdbTurn_of_cancelled hle rfl]
    exact ⟨_, _, rfl, rfl⟩
  · unfold cdbTurn
    dsimp only
    rw [if_pos (Nat.lt_of_not_le hle)]
    exact ⟨_, _, rfl, rfl⟩

/-- A round that goes round again has touched it. -/
theorem round_again_transfers
    (hturn : cdbTurn (roundHost usb clockGettime cancelled) call.1 (v, ⟨entry, ⟨b, []⟩, []⟩)
      = .again (v', t)) : Transfers t.world.log := by
  have hheard := (heard_preserved usb clockGettime (fun u => (cancelled, u)) fun _ => True).cdbTurn
    trivial trivial call.1 v (heard_start entry ⟨b, []⟩)
  obtain ⟨o, hmem⟩ := (cdbTurn_again hturn).sent_mem
  unfold roundHost at hturn
  rw [hturn] at hheard
  exact hheard _ _ o hmem call.fits

/-- So has one that ends the call with an attempt to make, on a token that is not cancelled. -/
theorem round_done_transfers (hle : v.attempt ≤ laserMaxRetries)
    (hturn : cdbTurn (roundHost usb clockGettime false) call.1 (v, ⟨entry, ⟨b, []⟩, []⟩)
      = .done (v', t)) : Transfers t.world.log := by
  have hheard := (heard_preserved usb clockGettime (fun u => (false, u)) fun _ => True).cdbTurn
    trivial trivial call.1 v (heard_start entry ⟨b, []⟩)
  obtain ⟨o, hmem⟩ := (cdbTurn_done hturn).sent_mem hle rfl
  unfold roundHost at hturn
  rw [hturn] at hheard
  rcases hheard with hheard | ⟨t', hheard, heq⟩
  · exact hheard _ _ o hmem call.fits
  · have heq : t = t'.markGone := heq
    subst heq
    exact hheard _ _ o hmem call.fits

/-! ## The rounds of the wait -/

theorem test_transfers {o : BotOutcome}
    (htest : testUnitReadyLocked (roundHost usb clockGettime cancelled) ⟨entry, ⟨b, []⟩, []⟩ = (o, t)) :
    Transfers t.world.log := by
  have hheard := (heard_preserved usb clockGettime (fun u => (cancelled, u)) fun _ => True)
    |>.testUnitReadyLocked (fun _ _ => trivial) (heard_start entry ⟨b, []⟩)
  obtain ⟨o', bot, w, heq⟩ := testUnitReadyLocked_eq (roundHost usb clockGettime cancelled)
    (⟨entry, ⟨b, []⟩, []⟩ : Sys (Bus U))
  unfold roundHost at htest heq
  rw [htest] at hheard heq
  injection heq with _ heq
  refine hheard .testUnitReady testUnitReadyRequest o' ?_ (by decide)
  rw [heq]
  exact List.mem_cons_self

/-- The wait begins with a START STOP UNIT. -/
theorem spinUp_transfers {started since : Timespec}
    (hbegin : waitBegin (roundHost usb clockGettime cancelled) ⟨entry, ⟨b, []⟩, []⟩
      = (started, since, t)) : Transfers t.world.log := by
  have hlog := transfers_preserved usb clockGettime (fun u => (cancelled, u)) fun _ => True
  have hfirst : ∀ s : Sys (Bus U),
      Transfers (startStopUnitLocked (roundHost usb clockGettime cancelled) 1 0x01 s).2.world.log := by
    intro s
    have hspec := laserBotSendLocked_spec usb s.entry (startStopRequest 1 0x01) s.world.usb
    apply hlog.senseOf trivial
    exact transfers_append.mpr (.inl (hspec.transfers (by decide)))
  have hrungs : ∀ s : Sys (Bus U),
      Transfers (startRungs (roundHost usb clockGettime cancelled) s).2.world.log := by
    intro s
    unfold startRungs
    dsimp only
    split
    · exact hlog.startStopUnitLocked trivial trivial 1 0x01 (hfirst s)
    · exact hfirst s
  have hladder : ∀ s : Sys (Bus U),
      Transfers (spinUpLocked (roundHost usb clockGettime cancelled) s).world.log := by
    intro s
    unfold spinUpLocked
    dsimp only
    split
    · exact hrungs s
    split
    · exact hrungs s
    split
    · exact hrungs s
    split
    · exact hlog.startStopUnitLocked trivial trivial 0 0x01 (hrungs s)
    · exact hlog.startStopUnitLocked trivial trivial 1 0x03 (hrungs s)
  rw [show t = (waitBegin (roundHost usb clockGettime cancelled) ⟨entry, ⟨b, []⟩, []⟩).2.2 by
    rw [hbegin]]
  exact hlog.entry _ rfl (hlog.clockGettime (hladder _))

/-! ## The entry after a round -/

theorem round_again_frame
    (hturn : cdbTurn (roundHost usb clockGettime cancelled) call.1 (v, ⟨entry, ⟨b, []⟩, []⟩)
      = .again (v', t)) : t.entry.frame = entry.frame :=
  (cdbTurn_again hturn).frame

/-- A round that ends the call may latch `device_gone`. -/
theorem round_done_frame
    (hturn : cdbTurn (roundHost usb clockGettime cancelled) call.1 (v, ⟨entry, ⟨b, []⟩, []⟩)
      = .done (v', t)) :
    ∃ gone, (conclude v' t).2.entry.frame = { entry.frame with deviceGone := gone } := by
  obtain ⟨_, hframe⟩ := (cdbTurn_done hturn).frame
  obtain ⟨gone, hverdict⟩ := conclude_frame v' t
  refine ⟨gone, ?_⟩
  rw [hverdict, hframe]

/-- It does not lower it. -/
theorem round_done_gone (hgone : entry.deviceGone = true)
    (hturn : cdbTurn (roundHost usb clockGettime cancelled) call.1 (v, ⟨entry, ⟨b, []⟩, []⟩)
      = .done (v', t)) : (conclude v' t).2.entry.deviceGone = true := by
  have hround := (deviceGone_preserved (roundHost usb clockGettime cancelled) (fun _ => True) true)
    |>.cdbTurn trivial trivial call.1 v (s := ⟨entry, ⟨b, []⟩, []⟩) hgone
  rw [hturn] at hround
  have hgone : t.entry.deviceGone = true := by
    rcases hround with hgone | ⟨t', -, heq⟩
    · exact hgone
    · have heq : t = t'.markGone := heq
      rw [heq]
      rfl
  unfold conclude neverSentVerdict
  dsimp only
  split
  · rfl
  · exact hgone

theorem test_kept {o : BotOutcome}
    (htest : testUnitReadyLocked (roundHost usb clockGettime cancelled) ⟨entry, ⟨b, []⟩, []⟩ = (o, t)) :
    t.entry.kept = entry.kept := by
  obtain ⟨o', bot, w, heq⟩ := testUnitReadyLocked_eq (roundHost usb clockGettime cancelled)
    (⟨entry, ⟨b, []⟩, []⟩ : Sys (Bus U))
  rw [htest] at heq
  injection heq with _ heq
  rw [heq]
  rfl

theorem spinUp_kept {started since : Timespec}
    (hbegin : waitBegin (roundHost usb clockGettime cancelled) ⟨entry, ⟨b, []⟩, []⟩
      = (started, since, t)) : t.entry.kept = entry.kept := by
  have hkept := (kept_preserved (roundHost usb clockGettime cancelled) (fun _ => True) entry).waitBegin
    (s := ⟨entry, ⟨b, []⟩, []⟩) trivial trivial rfl
  rwa [hbegin] at hkept

theorem wait_kept {started since : Timespec} {v : WaitVars} {turn : Turn (WaitVars × Sys (Bus U)) (Sys (Bus U))}
    (hturn : waitTurn (roundHost usb clockGettime cancelled) started since
      (v, ⟨entry, ⟨b, []⟩, []⟩) = turn) :
    turn.All (fun p => p.2.entry.kept = entry.kept) (fun t => t.entry.kept = entry.kept) := by
  subst hturn
  exact (kept_preserved (roundHost usb clockGettime cancelled) (fun _ => True) entry).waitTurn
    (fun _ _ => trivial) started since v rfl

end Round

/-! ## The entry after an act -/

/-- The entry without the fields that are written under `io_lock`, `device_gone` apart. -/
def LaserEntry.fixed (entry : LaserEntry) : LaserEntry := { entry.kept with maxTransferBytes := 0 }

theorem LaserEntry.fixed_of_kept {entry entry' : LaserEntry} (hkept : entry'.kept = entry.kept) :
    entry'.fixed = entry.fixed := by
  unfold fixed
  rw [hkept]

theorem LaserEntry.fixed_of_frame {entry entry' : LaserEntry} (hframe : entry'.frame = entry.frame) :
    entry'.fixed = entry.fixed := by
  unfold fixed kept
  rw [hframe]

/-- Does it leave alone what `css_mtx` and the teardown write? -/
def Did.plain : Did → Bool
  | .session _ | .cancelled | .freed => false
  | _ => true

/-- Everything an act can do to the entry. -/
inductive EntryAct (entry : LaserEntry) : Did → LaserEntry → Prop where
  | works {did : Did} {entry' : LaserEntry} (hplain : did.plain = true)
      (hfixed : entry'.fixed = entry.fixed) : EntryAct entry did entry'
  /-- A `laser_scsi_cdb()` that returns may latch `device_gone`. -/
  | latches {call : CheckedCall} {log : List UsbEvent} {r : CdbResult} {entry' : LaserEntry}
      (hfixed : entry'.fixed = { entry.fixed with deviceGone := true }) :
      EntryAct entry (.round call log (some r)) entry'
  | session {e : SessionEvent Unit} {entry' : LaserEntry} (heffect : SessionEffect entry e entry') :
      EntryAct entry (.session e) entry'
  | cancels : EntryAct entry .cancelled (laserSetCancelled entry)
  | clears : EntryAct entry .freed {}

theorem lowerTransferCap_fixed (bytes : Nat) (s : Sys W) :
    (lowerTransferCap bytes s).entry.fixed = s.entry.fixed := by
  unfold lowerTransferCap
  split <;> rfl

/-- The last round of a call: `device_gone` is what it was, or raised. -/
theorem EntryAct.returns {entry entry' : LaserEntry} {gone : Bool} {call : CheckedCall}
    {log : List UsbEvent} {r : CdbResult}
    (hframe : entry'.frame = { entry.frame with deviceGone := gone })
    (hup : entry.deviceGone = true → entry'.deviceGone = true) :
    EntryAct entry (.round call log (some r)) entry' := by
  have hfixed : entry'.fixed = { entry.fixed with deviceGone := gone } := by
    unfold LaserEntry.fixed LaserEntry.kept
    rw [hframe]
  have hgone : entry'.deviceGone = gone := congrArg LaserEntry.deviceGone hframe
  cases gone with
  | true => exact .latches hfixed
  | false =>
      have hdown : entry.deviceGone = false := by
        cases hbefore : entry.deviceGone with
        | false => rfl
        | true => exact (hup hbefore).symm.trans hgone
      refine .works rfl (hfixed.trans ?_)
      show { entry.fixed with deviceGone := false } = { entry.fixed with deviceGone := entry.deviceGone }
      rw [hdown]

theorem Act.entryAct {τ : Type} {i : τ} {sh sh' : Shared τ} {pc pc' : Thread} {did : Did}
    (hact : Act i sh pc did sh' pc') : EntryAct sh.entry did sh'.entry := by
  cases hact with
  | again _ _ _ hturn => exact .works rfl (LaserEntry.fixed_of_frame (round_again_frame hturn))
  | done _ _ _ hturn =>
      obtain ⟨_, hframe⟩ := round_done_frame hturn
      exact .returns hframe fun hgone => round_done_gone hgone hturn
  | test _ _ _ _ htest => exact .works rfl (LaserEntry.fixed_of_kept (test_kept htest))
  | spinUp _ _ _ _ hbegin => exact .works rfl (LaserEntry.fixed_of_kept (spinUp_kept hbegin))
  | waitAgain _ _ _ hturn =>
      have hkept := wait_kept hturn
      exact .works rfl (LaserEntry.fixed_of_kept hkept)
  | waitDone _ _ _ hturn =>
      have hkept := wait_kept hturn
      exact .works rfl (LaserEntry.fixed_of_kept hkept)
  | lower bytes _ => exact .works rfl (lowerTransferCap_fixed bytes _)
  | beginNull => exact .session (.fails () none _ (by simp))
  | begin owner _ => exact .session (beginLoop_effect () owner sh.entry)
  | wake timedOut => exact .session (.woke () timedOut)
  | @resume owner timedOut =>
      apply EntryAct.session
      cases timedOut with
      | false => exact beginLoop_effect () owner sh.entry
      | true => exact .fails () _ _ (by simp)
  | finish owner _ => exact .session (laserCssSessionEnd_effect () owner sh.entry)
  | cancel _ => exact .cancels
  | free _ => exact .clears
  | _ => exact .works rfl rfl

end Liblaser

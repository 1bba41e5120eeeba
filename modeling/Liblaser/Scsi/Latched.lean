import Liblaser.Bot.Disconnect
import Liblaser.Scsi.NeverSent
import Liblaser.Scsi.Preserved

/-!
# `Scsi.Latched` — which disconnections `laser_scsi_cdb()` latches

A transaction that finds the device gone says so in its outcome, and `laser_scsi_cdb()` latches
`device_gone` on that outcome. It does so for the transactions of the caller's CDB only: a REQUEST SENSE,
and everything `laser_token_settle()` sends, go through functions that make a plain failure of it.

`Latches` is what a trace must show for the call to latch: a transaction of the CDB that found the device
gone, or the never-sent verdict. **`Returns.latched_iff`** is that the call then sets `device_gone` and
returns `LASER_ERR_NO_DEVICE`, and only then.

`Operation` is any sequence of calls, which is what the block reads, the region check and the disc
identification are to the entry.
-/

namespace Liblaser

open Loop

/-! ## The bus log beside the trace -/

section Bus

variable {U : Type}

/-- The host the library runs on, with the libusb calls made so far kept in its world. -/
def Host.onBus (usb : UsbHost U) (clockGettime : U → Timespec × U) (isCancelled : U → Bool × U) :
    Host (Bus U) where
  send entry req b :=
    let (reply, b') := laserBotSendLocked usb entry req b.usb
    (reply, ⟨b'.usb, b'.log ++ b.log⟩)
  clockGettime b :=
    let (t, u) := clockGettime b.usb
    (t, ⟨u, b.log⟩)
  usleep us b := b.usleep usb us
  isCancelled b :=
    let (c, u) := isCancelled b.usb
    (c, ⟨u, b.log⟩)

/-- The trace says of disconnections what the bus log says. -/
def Told (s : Sys (Bus U)) : Prop := Disconnected s.world.log ↔ ¬ NoneGone s.trace

theorem noneGone_cons {e : ScsiEvent} {trace : List ScsiEvent} :
    NoneGone (e :: trace) ↔ e.outcome ≠ some .noDevice ∧ NoneGone trace := by
  simp [NoneGone]

/-- An event that is no transaction. -/
theorem noneGone_cons_of_none {e : ScsiEvent} {trace : List ScsiEvent} (he : e.outcome = none) :
    NoneGone (e :: trace) ↔ NoneGone trace := by
  simp [noneGone_cons, he]

theorem told_preserved (usb : UsbHost U) (clockGettime : U → Timespec × U)
    (isCancelled : U → Bool × U) (S : Sender → Prop) :
    Preserved (Host.onBus usb clockGettime isCancelled) S Told := by
  constructor
  case send =>
    intro s sender req _ hs
    have hiff := laserBotSendLocked_noDevice_iff usb s.entry req s.world.usb
    show Disconnected ((laserBotSendLocked usb s.entry req s.world.usb).2.log ++ s.world.log)
      ↔ ¬ NoneGone (.sent sender req (laserBotSendLocked usb s.entry req s.world.usb).1.outcome
        :: s.trace)
    have hs : Disconnected s.world.log ↔ ¬ NoneGone s.trace := hs
    rw [disconnected_append, ← hiff, hs, noneGone_cons, Decidable.not_and_iff_not_or_not]
    simp [ScsiEvent.outcome]
  case clockGettime =>
    intro s hs
    exact hs
  case usleep =>
    intro s us hs
    exact hs.trans (not_congr (noneGone_cons_of_none rfl).symm)
  case isCancelled =>
    intro s hs
    exact hs.trans (not_congr (noneGone_cons_of_none rfl).symm)
  case record =>
    intro s e he hs
    exact hs.trans (not_congr (noneGone_cons_of_none he).symm)
  case entry =>
    intro s e _ hs
    exact hs

end Bus

variable {W : Type} {h : Host W} {call : CdbCall} {v v' : CdbVars} {s s' t u : Sys W} {n : Nat}

theorem Preserved.and {S : Sender → Prop} {I J : Sys W → Prop} (hI : Preserved h S I)
    (hJ : Preserved h S J) : Preserved h S fun s => I s ∧ J s where
  send sender req hS hs := ⟨hI.send sender req hS hs.1, hJ.send sender req hS hs.2⟩
  clockGettime hs := ⟨hI.clockGettime hs.1, hJ.clockGettime hs.2⟩
  usleep us hs := ⟨hI.usleep us hs.1, hJ.usleep us hs.2⟩
  isCancelled hs := ⟨hI.isCancelled hs.1, hJ.isCancelled hs.2⟩
  record he hs := ⟨hI.record he hs.1, hJ.record he hs.2⟩
  entry e he hs := ⟨hI.entry e he hs.1, hJ.entry e he hs.2⟩

/-- Nothing short of the latch touches `device_gone`. -/
theorem deviceGone_preserved (h : Host W) (S : Sender → Prop) (gone : Bool) :
    Preserved h S fun s => s.entry.deviceGone = gone where
  send _ _ _ hs := hs
  clockGettime hs := hs
  usleep _ hs := hs
  isCancelled hs := hs
  record _ hs := hs
  entry _ he hs := (congrArg LaserEntry.deviceGone he).trans hs

/-- Only the command sends the caller's CDB. -/
theorem cdbOutcomes_preserved (h : Host W) (outcomes : List BotOutcome) :
    Preserved h (· ≠ .scsiCdb) fun s => cdbOutcomes s.trace = outcomes where
  send sender req hS hs := by
    cases sender with
    | scsiCdb => exact absurd rfl hS
    | requestSense | testUnitReady | startStopUnit | mediaStatus | mediumRemoval | inquiry => exact hs
  clockGettime hs := hs
  usleep _ hs := hs
  isCancelled hs := hs
  record {s e} he hs := by
    show cdbOutcomes (e :: s.trace) = outcomes
    cases e with
    | sent _ _ _ => cases he
    | sense _ | polled _ | slept _ | retried _ | waitBegun => exact hs
  entry _ _ hs := hs

/-! ## What the command latches -/

/-- What a trace shows when `laser_scsi_cdb()` latches: a transaction of its CDB found the device gone, or
    `LASER_MAX_RETRIES` of them were not sent. -/
def Latches (trace : List ScsiEvent) : Prop :=
  .noDevice ∈ cdbOutcomes trace ∨ laserMaxRetries ≤ notSentCount trace

instance (trace : List ScsiEvent) : Decidable (Latches trace) := by
  unfold Latches
  infer_instance

/-- A turn that goes round again did not find the device gone. -/
theorem AgainSpec.noDevice_mem (hspec : AgainSpec h call v s v' u) :
    .noDevice ∈ Liblaser.cdbOutcomes u.trace ↔ .noDevice ∈ Liblaser.cdbOutcomes s.trace := by
  obtain ⟨o, sense, v₁, t₁, hfailed, -, -, hsent, -, -⟩ := hspec.counted
  rw [hsent, hfailed.cdbOutcomes, List.mem_cons]
  simp [hfailed.not_gone.symm]

/-- So no transaction before the last turn did. -/
theorem InLoop.none_gone (hs : s.trace = []) (hin : InLoop h call s n v t) :
    .noDevice ∉ cdbOutcomes t.trace := by
  apply hin.invariant (I := fun _ _ t => .noDevice ∉ cdbOutcomes t.trace)
  · intro k v t v' u _ hnone hspec
    rwa [hspec.noDevice_mem]
  · rw [precheck_cdbOutcomes, hs]
    exact List.not_mem_nil

/-- A last turn that had an attempt to make shows no reason to latch, unless its transaction found the
    device gone: six that were not sent have taken all the attempts. -/
theorem InLoop.not_latches (hs : s.trace = []) (hin : InLoop h call s n v t)
    (hle : v.attempt ≤ laserMaxRetries) (hcount : notSentCount u.trace = notSentCount t.trace) {o : BotOutcome}
    (ho : o ≠ .noDevice)
    (hsent : cdbOutcomes u.trace = cdbOutcomes t.trace ∨ cdbOutcomes u.trace = o :: cdbOutcomes t.trace) :
    ¬ Latches u.trace := by
  have hI := hin.counters hs
  have hlt := hin.neverSent_lt
  have hattempt := hI.attempt_le
  have hmade := hI.made_le
  have hnone := hin.none_gone hs
  rintro (hmem | hsix)
  · rcases hsent with heq | heq
    · exact hnone (heq ▸ hmem)
    · rw [heq, List.mem_cons] at hmem
      exact hmem.elim (fun heq => ho heq.symm) hnone
  · rw [hcount, ← hI.neverSent] at hsix
    omega

/-- A call that runs out of attempts latches if none of its transactions was sent. -/
theorem InLoop.exhausted_latched (hs : s.trace = []) (hin : InLoop h call s n v t)
    (hmax : laserMaxRetries < v.attempt) (hpresent : t.entry.deviceGone = false) :
    (Latches t.trace ∧ (conclude v t).1.status = .errNoDevice
        ∧ (conclude v t).2.entry.deviceGone = true)
      ∨ (¬ Latches t.trace ∧ (conclude v t).1.status ≠ .errNoDevice
        ∧ (conclude v t).2.entry.deviceGone = false) := by
  have hI := hin.counters hs
  have hmade := hI.made_le
  have hattempt := hI.attempt_le
  have hlt := hin.neverSent_lt
  have hbudget : laserMaxRetries = 6 := rfl
  by_cases hsilent : v.cbwNeverSent = v.attemptsMade
  · left
    rw [conclude_of_silent (by rw [hin.result]; decide) (by rw [hin.result]; decide) (by omega)
      hsilent]
    refine ⟨.inr ?_, rfl, rfl⟩
    rw [← hI.neverSent]
    omega
  · right
    rw [conclude_of_heard (.inr (.inr hsilent)), hin.result]
    refine ⟨?_, normalise_ne_noDevice .errIo (by decide), hpresent⟩
    rintro (hmem | hsix)
    · exact hin.none_gone hs hmem
    · rw [← hI.neverSent] at hsix
      omega

/-- **What the last turn of a call leads to**: both halves of the latch, or neither. -/
theorem conclude_latched (hs : s.trace = []) (hin : InLoop h call s n v t)
    (hdone : cdbTurn h call (v, t) = .done (v', u)) :
    (Latches u.trace ∧ (conclude v' u).1.status = .errNoDevice
        ∧ (conclude v' u).2.entry.deviceGone = true)
      ∨ (¬ Latches u.trace ∧ (conclude v' u).1.status ≠ .errNoDevice
        ∧ (conclude v' u).2.entry.deviceGone = false) := by
  have hpresent : t.entry.deviceGone = false :=
    (congrArg LaserEntry.deviceGone hin.frame).trans hin.present
  have hspec := cdbTurn_done hdone
  have hcount := hspec.notSentCount
  cases hspec with
  | exhausted hmax => exact hin.exhausted_latched hs hmax hpresent
  | cancelled hle _ =>
      right
      rw [conclude_of_heard (.inr (.inl rfl))]
      exact ⟨hin.not_latches hs hle hcount (o := .pass) (by decide) (.inl rfl),
        normalise_ne_noDevice .errCancelled (by decide), hpresent⟩
  | @passed v₁ t₁ started hasked =>
      right
      rw [conclude_of_heard (.inl rfl)]
      refine ⟨hin.not_latches hs hasked.attempt_le hcount (o := .pass) (by decide) (.inr ?_),
        normalise_ne_noDevice .ok (by decide), ?_⟩
      · rw [sampleThroughputLocked_trace]
        exact hasked.cdbOutcomes
      · have hframe := (sampleThroughputLocked_frame h call.request.dataLen started t₁).trans hasked.frame
        exact (congrArg LaserEntry.deviceGone hframe).trans hpresent
  | @gone v₁ t₁ hasked =>
      left
      have hmem : .noDevice ∈ cdbOutcomes t₁.trace := by
        rw [hasked.cdbOutcomes]
        exact List.mem_cons_self
      refine ⟨.inl hmem, ?_⟩
      unfold conclude neverSentVerdict
      dsimp only
      split <;> exact ⟨rfl, rfl⟩
  | @final o sense v₁ t₁ st hfailed hclass =>
      right
      have hlt := hin.neverSent_lt
      have hle := hfailed.vars.2.2.2.1
      have hsent := hfailed.sent_of_final hclass
      obtain ⟨hmade₁, hcount₁⟩ := hfailed.counts
      rw [if_neg hsent] at hcount₁
      have hheard : v₁.cbwNeverSent ≠ v₁.attemptsMade := by omega
      rw [conclude_of_heard (v := { v₁ with result := st }) (.inr (.inr hheard))]
      exact ⟨hin.not_latches hs hle hcount hfailed.not_gone (.inr hfailed.cdbOutcomes),
        normalise_ne_noDevice st hclass.ne_noDevice,
        (congrArg LaserEntry.deviceGone hfailed.frame).trans hpresent⟩

/-- **When the command latches.** A call that makes a transaction at all sets `device_gone` and returns
    `LASER_ERR_NO_DEVICE` when its trace shows one of the two reasons, and does neither otherwise. -/
theorem Returns.latched {r : CdbResult} (hs : s.trace = []) (hret : Returns h call s r s') :
    (Latches s'.trace ∧ s'.entry.deviceGone = true ∧ r.status = .errNoDevice)
      ∨ (¬ Latches s'.trace ∧ s'.entry.deviceGone = s.entry.deviceGone
        ∧ (NoneGone s'.trace ∨ r.status ≠ .errNoDevice)) := by
  rcases hret.cases with ⟨st, hcheck, rfl, rfl⟩ | ⟨n, v, t, v', u, hin, hdone, rfl, rfl⟩
  · right
    rw [precheck_entry]
    rcases precheck_trace h call s with heq | ⟨c, heq⟩ <;> rw [heq, hs]
    · exact ⟨by decide, rfl, .inl (by decide)⟩
    · refine ⟨?_, rfl, .inl (by simp [NoneGone, ScsiEvent.outcome])⟩
      rintro (hmem | hsix)
      · exact absurd hmem List.not_mem_nil
      · exact absurd hsix (by show ¬ laserMaxRetries ≤ 0; decide)
  · rw [conclude_trace]
    rcases conclude_latched hs hin hdone with ⟨hlatches, hst, hgone⟩ | ⟨hnot, hst, hgone⟩
    · exact .inl ⟨hlatches, hgone, hst⟩
    · exact .inr ⟨hnot, hgone.trans hin.present.symm, .inr hst⟩

/-! ## Operations -/

section Operation

variable {U : Type}

/-- A call of the library that works on a published entry. -/
inductive LibCall where
  | scsiCdb (call : CdbCall)
  | settle
deriving DecidableEq, Repr

/-- What one call leaves: its status, where it returns one, and its own trace and bus log. -/
structure CallRecord where
  call : LibCall
  status : Option LaserStatus
  trace : List ScsiEvent
  log : List UsbEvent

/-- One call, begun on an empty trace and bus log. -/
inductive Performed (h : Host (Bus U)) (entry : LaserEntry) (u : U) :
    CallRecord → LaserEntry → U → Prop where
  | scsiCdb {call : CdbCall} {r : CdbResult} {s : Sys (Bus U)}
      (hret : Returns h call ⟨entry, ⟨u, []⟩, []⟩ r s) :
      Performed h entry u ⟨.scsiCdb call, some r.status, s.trace, s.world.log⟩ s.entry s.world.usb
  | settle {fuel : Nat} {s : Sys (Bus U)}
      (hret : laserTokenSettle h fuel ⟨entry, ⟨u, []⟩, []⟩ = some s) :
      Performed h entry u ⟨.settle, none, s.trace, s.world.log⟩ s.entry s.world.usb

/-- An operation on an entry: calls one after the other, from an entry to an entry. What is done between
    two calls does not touch `device_gone`, and may wait for as long as it likes. -/
inductive Operation (h : Host (Bus U)) (entry : LaserEntry) : List CallRecord → LaserEntry → Prop where
  | nil : Operation h entry [] entry
  | call {records : List CallRecord} {record : CallRecord} {e e' e'' : LaserEntry} {u u' : U}
      (hrun : Operation h entry records e) (hbetween : e'.deviceGone = e.deviceGone)
      (hcall : Performed h e' u record e'' u') : Operation h entry (record :: records) e''

variable {usb : UsbHost U} {clockGettime : U → Timespec × U} {isCancelled : U → Bool × U}
  {entry entry' : LaserEntry} {u u' : U} {record : CallRecord} {records : List CallRecord}

/-- What any call keeps: trace and bus log agree on disconnections. -/
theorem Performed.told (hcall : Performed (.onBus usb clockGettime isCancelled) entry u record entry' u') :
    Disconnected record.log ↔ ¬ NoneGone record.trace := by
  have hnone : Told (⟨entry, ⟨u, []⟩, []⟩ : Sys (Bus U)) := by
    show Disconnected [] ↔ ¬ NoneGone []
    simp [not_disconnected_nil, NoneGone]
  cases hcall with
  | scsiCdb hret =>
      rcases (told_preserved usb clockGettime isCancelled fun _ => True).returns trivial trivial hnone
        hret with hs | ⟨t, ht, rfl⟩
      · exact hs
      · exact ht
  | settle hret =>
      exact (told_preserved usb clockGettime isCancelled fun _ => True).laserTokenSettle
        (fun _ _ => trivial) hnone hret

/-- The wait sends no caller's CDB. -/
theorem Sender.ne_scsiCdb_of_waits {x : Sender} (hx : x.waits = true) : x ≠ .scsiCdb := by
  rintro rfl
  cases hx

/-- **When a call latches.** -/
theorem Performed.latched {h : Host (Bus U)} (hcall : Performed h entry u record entry' u') :
    (Latches record.trace ∧ entry'.deviceGone = true)
      ∨ (¬ Latches record.trace ∧ entry'.deviceGone = entry.deviceGone) := by
  cases hcall with
  | scsiCdb hret =>
      rcases hret.latched rfl with ⟨hlatches, hgone, -⟩ | ⟨hnot, hgone, -⟩
      · exact .inl ⟨hlatches, hgone⟩
      · exact .inr ⟨hnot, hgone⟩
  | @settle fuel s hret =>
      right
      have hkeeps := (cdbOutcomes_preserved h []).and (deviceGone_preserved h _ entry.deviceGone)
      obtain ⟨hnone, hgone⟩ := hkeeps.laserTokenSettle (fun _ => Sender.ne_scsiCdb_of_waits)
        ⟨rfl, rfl⟩ hret
      refine ⟨?_, hgone⟩
      unfold Latches notSentCount
      rw [hnone]
      decide

/-- A call on an entry whose device is gone does not touch the bus. -/
theorem Performed.silent {h : Host (Bus U)} (hcall : Performed h entry u record entry' u')
    (hgone : entry.deviceGone = true) : NoneGone record.trace := by
  cases hcall with
  | scsiCdb hret =>
      rcases hret.cases with ⟨st, -, -, rfl⟩ | ⟨n, v, t, v', u, hin, -, -, -⟩
      · rcases precheck_trace h _ ⟨entry, ⟨u, []⟩, []⟩ with heq | ⟨c, heq⟩ <;> rw [heq]
        · simp [NoneGone]
        · simp [NoneGone, ScsiEvent.outcome]
      · have hpresent : entry.deviceGone = false := hin.present
        rw [hgone] at hpresent
        cases hpresent
  | settle hret =>
      unfold laserTokenSettle at hret
      rw [if_pos (.inr hgone)] at hret
      rw [← Option.some.inj hret]
      simp [NoneGone]

/-- An operation leaves `device_gone` set when it was, or when one of its calls latched. -/
theorem Operation.deviceGone_iff {h : Host (Bus U)} (hop : Operation h entry records entry') :
    entry'.deviceGone = true ↔
      entry.deviceGone = true ∨ ∃ record ∈ records, Latches record.trace := by
  induction hop with
  | nil => simp
  | call _ hbetween hcall ih =>
      simp only [List.mem_cons, exists_eq_or_imp]
      rw [or_left_comm, ← ih, ← hbetween]
      rcases hcall.latched with ⟨hlatches, hgone⟩ | ⟨hnot, hgone⟩
      · simp [hlatches, hgone]
      · simp [hnot, hgone]

/-- Begun on a device that is gone, it finds no disconnection. -/
theorem Operation.silent {h : Host (Bus U)} (hop : Operation h entry records entry')
    (hgone : entry.deviceGone = true) : ∀ record ∈ records, NoneGone record.trace := by
  induction hop with
  | nil => simp
  | call hrun hbetween hcall ih =>
      have hstill := hrun.deviceGone_iff.mpr (.inl hgone)
      rw [List.forall_mem_cons]
      exact ⟨hcall.silent (hbetween.trans hstill), ih⟩

/-- Trace and bus log agree throughout. -/
theorem Operation.told (hop : Operation (.onBus usb clockGettime isCancelled) entry records entry') :
    ∀ record ∈ records, (Disconnected record.log ↔ ¬ NoneGone record.trace) := by
  induction hop with
  | nil => simp
  | call _ _ hcall ih =>
      rw [List.forall_mem_cons]
      exact ⟨hcall.told, ih⟩

/-- **When an operation latches what it saw.** -/
theorem Operation.latched_iff
    (hop : Operation (.onBus usb clockGettime isCancelled) entry records entry') :
    ((∃ record ∈ records, Disconnected record.log) → entry'.deviceGone = true)
      ↔ (∀ record ∈ records, ¬ Disconnected record.log) ∨ ∃ record ∈ records, Latches record.trace := by
  rw [hop.deviceGone_iff]
  constructor
  · intro hlatched
    by_cases hseen : ∃ record ∈ records, Disconnected record.log
    · right
      obtain ⟨record, hmem, hdis⟩ := hseen
      rcases hlatched ⟨record, hmem, hdis⟩ with hgone | hlatches
      · -- a device that was gone shows no disconnection
        exact absurd (hop.silent hgone record hmem) ((hop.told record hmem).mp hdis)
      · exact hlatches
    · left
      intro record hmem hdis
      exact hseen ⟨record, hmem, hdis⟩
  · rintro (hnone | hlatches)
    · rintro ⟨record, hmem, hdis⟩
      exact absurd hdis (hnone record hmem)
    · intro _
      exact .inr hlatches

/-- **When one command latches what it saw, and says so.** -/
theorem Returns.latched_iff {call : CdbCall} {r : CdbResult} {s : Sys (Bus U)}
    (hret : Returns (.onBus usb clockGettime isCancelled) call ⟨entry, ⟨u, []⟩, []⟩ r s) :
    (Disconnected s.world.log → s.entry.deviceGone = true ∧ r.status = .errNoDevice)
      ↔ ¬ Disconnected s.world.log ∨ Latches s.trace := by
  have htold := (Performed.scsiCdb hret).told
  dsimp only at htold
  constructor
  · intro hlatched
    by_cases hdis : Disconnected s.world.log
    · right
      rcases hret.latched rfl with ⟨hlatches, -⟩ | ⟨-, -, hnone | hst⟩
      · exact hlatches
      · exact absurd hnone (htold.mp hdis)
      · exact absurd (hlatched hdis).2 hst
    · exact .inl hdis
  · rintro (hnone | hlatches) hdis
    · exact absurd hdis hnone
    · rcases hret.latched rfl with ⟨-, hgone, hst⟩ | ⟨hnot, -⟩
      · exact ⟨hgone, hst⟩
      · exact absurd hlatches hnot

end Operation

end Liblaser

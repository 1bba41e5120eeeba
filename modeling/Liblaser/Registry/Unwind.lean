import Liblaser.Registry.Register

/-!
# `Registry.Unwind` — what one registration owes

The account of one registration, from its first `pthread_mutex_init()` to the end of the device.
`Kept` is the ledger of a registration whose device is in the table: it owns its seven objects but the
condition variable's attributes, and has handed no kernel driver back. `Aborted` is the ledger of one that
failed: it owns nothing, and has handed the driver back, on an open handle, if it had detached it.
`TornDown` is the ledger of one whose last claim is gone: it owns nothing, and keeps the driver off.

**`setupEntry_spec`**: a registration ends in the first or, down whatever rung of the ladder, in the
second; `Kept.teardown` takes the first to the third.
-/

namespace Liblaser

open Ledger

variable {b b' : Build} {l : RegLedger} {r : Resource} {rs later : List Resource}

/-! ## The account -/

/-- What a registered device owns, the last obtained first. -/
def deviceResources : List Resource := [.iface, .handle, .ctx, .cssCv, .cssMtx, .ioLock]

/-- Whenever the driver was handed back, the handle was open. -/
def AttachOpen : RegLedger → Prop
  | [] => True
  | .other .attached :: older =>
    account .handle older = [.got .handle] ∧ AttachOpen older
  | .other _ :: older => AttachOpen older
  | .got _ :: older => AttachOpen older
  | .gave _ :: older => AttachOpen older

/-- A registration whose device is in the table. -/
structure Kept (l : RegLedger) : Prop where
  owns : Owns l deviceResources
  driver : others l = [.published] ∨ others l = [.published, .detached]
  attachOpen : AttachOpen l

/-- A registration that failed: it handed the driver back if it had detached it. -/
structure Aborted (l : RegLedger) : Prop where
  owns : Owns l []
  driver : others l = [] ∨ others l = [.attached, .detached]
  attachOpen : AttachOpen l

/-- A registration whose last claim is gone: the driver stays off. -/
structure TornDown (l : RegLedger) : Prop where
  owns : Owns l []
  driver : others l = [.published] ∨ others l = [.published, .detached]
  attachOpen : AttachOpen l

/-- A registration that is over. -/
def Settled (l : RegLedger) : Prop := Aborted l ∨ TornDown l

/-- `b'` is `b` all unwound: the slot freed, everything given back, the driver not touched. -/
structure Unwound (b b' : Build) : Prop where
  entry : b'.entry = {}
  owns : Owns b'.ledger []
  driver : others b'.ledger = others b.ledger
  attachOpen : AttachOpen b.ledger → AttachOpen b'.ledger

/-! ## The ladder -/

theorem errSlot_unwinds (h : Owns b.ledger []) : Unwound b (errSlot b) :=
  ⟨rfl, h, rfl, id⟩

/-- One rung: the object it gives back was the last obtained. -/
theorem Unwound.rung (h : Unwound (b.gave r) b') : Unwound b b' :=
  ⟨h.entry, h.owns, h.driver, h.attachOpen⟩

theorem errIoMutex_unwinds (h : Owns b.ledger [.ioLock]) : Unwound b (errIoMutex b) :=
  (errSlot_unwinds (b := b.gave .ioLock) h.gave).rung

theorem errCssMutex_unwinds (h : Owns b.ledger [.cssMtx, .ioLock]) : Unwound b (errCssMutex b) :=
  (errIoMutex_unwinds (b := b.gave .cssMtx) h.gave).rung

theorem errCssCond_unwinds (h : Owns b.ledger [.cssCv, .cssMtx, .ioLock]) :
    Unwound b (errCssCond b) :=
  (errCssMutex_unwinds (b := b.gave .cssCv) h.gave).rung

theorem errCtx_unwinds (h : Owns b.ledger [.ctx, .cssCv, .cssMtx, .ioLock]) :
    Unwound b (errCtx b) :=
  (errCssCond_unwinds (b := b.gave .ctx) h.gave).rung

/-! ## Under construction -/

/-- Nobody can have claimed the entry yet, nor opened a session. -/
def Unpublished (entry : LaserEntry) : Prop :=
  entry.inUse = false ∧ entry.refs = 0 ∧ entry.cssOpen = false ∧ entry.cssOwner = none

/-- An entry under construction owns `rs` and has not obtained `later` yet; its flag says whether the
    driver was detached. -/
structure Building (b : Build) (rs later : List Resource) : Prop where
  owns : Owns b.ledger rs
  fresh : ∀ r ∈ later, account r b.ledger = []
  driver : others b.ledger = if b.entry.kernelDriverDetached then [.detached] else []
  attachOpen : AttachOpen b.ledger
  unpublished : Unpublished b.entry

theorem Building.got (h : Building b rs (r :: later)) (hnext : r ∉ later) :
    Building (b.got r) (r :: rs) later := by
  refine ⟨h.owns.got (h.fresh r List.mem_cons_self), ?_, h.driver, h.attachOpen, h.unpublished⟩
  intro r' hr'
  have hne : r ≠ r' := fun heq => hnext (heq ▸ hr')
  show account r' (.got r :: b.ledger) = []
  rw [account_got_ne hne]
  exact h.fresh r' (List.mem_cons_of_mem r hr')

theorem Building.gave (h : Building b (r :: rs) later) : Building (b.gave r) rs later := by
  refine ⟨h.owns.gave, ?_, h.driver, h.attachOpen, h.unpublished⟩
  intro r' hr'
  -- what is owned was obtained, so it is none of those to come
  have hne : r ≠ r' := by
    intro heq
    subst heq
    have hfresh := h.fresh r hr'
    rw [h.owns.owned r List.mem_cons_self] at hfresh
    cases hfresh
  show account r' (.gave r :: b.ledger) = []
  rw [account_gave_ne hne]
  exact h.fresh r' hr'

/-- Writing other fields of the entry changes nothing here. -/
theorem Building.write {e : LaserEntry} (h : Building b rs later)
    (hdetached : e.kernelDriverDetached = b.entry.kernelDriverDetached)
    (hunpublished : Unpublished e) : Building { b with entry := e } rs later := by
  refine ⟨h.owns, h.fresh, ?_, h.attachOpen, hunpublished⟩
  show others b.ledger = if e.kernelDriverDetached then [.detached] else []
  rw [hdetached]
  exact h.driver

/-- Before the driver is detached, an unwound build is a registration that failed. -/
theorem Building.aborted (h : Building b rs later) (hkept : b.entry.kernelDriverDetached = false)
    (hunwound : Unwound b b') : b'.entry = {} ∧ Aborted b'.ledger := by
  have hdriver := h.driver
  rw [hkept] at hdriver
  exact ⟨hunwound.entry, hunwound.owns, .inl (hunwound.driver.trans hdriver),
    hunwound.attachOpen h.attachOpen⟩

/-- `err_handle:` hands the driver back, if it was detached, and then closes the handle. -/
theorem Building.errHandle (h : Building b [.handle, .ctx, .cssCv, .cssMtx, .ioLock] later) :
    (errHandle b).entry = {} ∧ Aborted (errHandle b).ledger := by
  obtain ⟨howns, -, hdriver, hopen, -⟩ := h
  unfold Liblaser.errHandle reattachKernelDriver
  by_cases hdetached : b.entry.kernelDriverDetached = true
  · rw [if_pos hdetached] at hdriver ⊢
    have hattached : Owns (.other .attached :: b.ledger) _ := howns.other
    have hunwound := errCtx_unwinds (b := (Build.did .attached { b with
      entry := { b.entry with kernelDriverDetached := false } }).gave .handle) hattached.gave
    refine ⟨hunwound.entry, hunwound.owns, .inr ?_, hunwound.attachOpen ?_⟩
    · rw [hunwound.driver]
      show .attached :: others b.ledger = _
      rw [hdriver]
    · exact ⟨howns.owned .handle (by simp), hopen⟩
  · rw [if_neg hdetached] at hdriver ⊢
    have hunwound := errCtx_unwinds (b := b.gave .handle) howns.gave
    exact ⟨hunwound.entry, hunwound.owns, .inl (hunwound.driver.trans hdriver),
      hunwound.attachOpen hopen⟩

/-! ## The steps of a registration -/

/-- Where a step of the setup leads: on, owning `rs`, with the entry for `fd` and the driver not touched
    yet; or out and aborted. -/
def StepSpec (fd : Int) (rs later : List Resource) : Except Build Build → Prop
  | .ok b =>
    Building b rs later ∧ b.entry.token = fd ∧ b.entry.kernelDriverDetached = false
  | .error b => b.entry = {} ∧ Aborted b.ledger

theorem identify_spec (o : Setup) (fd : Int) :
    Building (identify o fd) [] [.ioLock, .cssMtx, .cssCvAttr, .cssCv, .ctx, .handle, .iface]
      ∧ (identify o fd).entry.token = fd ∧ (identify o fd).entry.kernelDriverDetached = false := by
  unfold identify
  dsimp only
  split <;> exact ⟨⟨.nil, fun _ _ => rfl, rfl, trivial, ⟨rfl, rfl, rfl, rfl⟩⟩, rfl, rfl⟩

/-- The attributes of the condition variable are given back on every way out, before or after it is
    made. -/
theorem initCssCond_spec (o : Setup) {fd : Int}
    (h : Building b [.cssMtx, .ioLock] [.cssCvAttr, .cssCv, .ctx, .handle, .iface])
    (htoken : b.entry.token = fd) (hkept : b.entry.kernelDriverDetached = false) :
    StepSpec fd [.cssCv, .cssMtx, .ioLock] [.ctx, .handle, .iface] (initCssCond o b) := by
  unfold initCssCond
  by_cases hclock : o.cssClockMonotonic
  · rw [if_pos hclock]
    by_cases hattr : o.condattrInit
    · have hgot := h.got (by decide)
      rw [if_neg (by simp [hattr])]
      dsimp only
      by_cases hset : o.condattrSetclock
      · rw [if_neg (by simp [hset])]
        by_cases hcond : o.condInit
        · rw [if_pos hcond]
          have hboth := hgot.got (by decide)
          have hgave : Building _ _ _ :=
            Building.gave ⟨hboth.owns.perm (.swap _ _ _), hboth.fresh, hboth.driver, hboth.attachOpen,
              hboth.unpublished⟩
          exact ⟨hgave, htoken, hkept⟩
        · rw [if_neg hcond]
          exact hgot.gave.aborted hkept (errCssMutex_unwinds hgot.gave.owns)
      · rw [if_pos (by simp [hset])]
        exact hgot.gave.aborted hkept (errCssMutex_unwinds hgot.gave.owns)
    · rw [if_pos (by simp [hattr])]
      exact h.aborted hkept (errCssMutex_unwinds h.owns)
  · rw [if_neg hclock]
    by_cases hcond : o.condInit
    · rw [if_pos hcond]
      -- the attributes are never made in this build
      have hskip : Building b [.cssMtx, .ioLock] [.cssCv, .ctx, .handle, .iface] :=
        ⟨h.owns, fun r hr => h.fresh r (List.mem_cons_of_mem _ hr), h.driver, h.attachOpen,
          h.unpublished⟩
      exact ⟨hskip.got (by decide), htoken, hkept⟩
    · rw [if_neg hcond]
      exact h.aborted hkept (errCssMutex_unwinds h.owns)

theorem initLocks_spec (o : Setup) (fd : Int) :
    StepSpec fd [.cssCv, .cssMtx, .ioLock] [.ctx, .handle, .iface] (initLocks o (identify o fd)) := by
  obtain ⟨h, htoken, hkept⟩ := identify_spec o fd
  unfold initLocks
  by_cases hio : o.ioLockInit
  · have hioLock := h.got (by decide)
    rw [if_neg (by simp [hio])]
    dsimp only
    by_cases hcss : o.cssMtxInit
    · rw [if_neg (by simp [hcss])]
      exact initCssCond_spec o (hioLock.got (by decide)) htoken hkept
    · rw [if_pos (by simp [hcss])]
      exact hioLock.aborted hkept (errIoMutex_unwinds hioLock.owns)
  · rw [if_pos (by simp [hio])]
    exact h.aborted hkept (errSlot_unwinds h.owns)

theorem readDescriptor_spec (o : Setup) (h : Building b rs later) :
    Building (readDescriptor o b) rs later ∧ (readDescriptor o b).entry.token = b.entry.token
      ∧ (readDescriptor o b).entry.kernelDriverDetached = b.entry.kernelDriverDetached := by
  unfold readDescriptor
  split
  · exact ⟨h.write rfl h.unpublished, rfl, rfl⟩
  · exact ⟨h, rfl, rfl⟩

theorem openDevice_spec (o : Setup) {fd : Int}
    (h : Building b [.cssCv, .cssMtx, .ioLock] [.ctx, .handle, .iface])
    (htoken : b.entry.token = fd) (hkept : b.entry.kernelDriverDetached = false) :
    StepSpec fd [.handle, .ctx, .cssCv, .cssMtx, .ioLock] [.iface] (openDevice o b) := by
  unfold openDevice
  by_cases hctx : o.initContext
  · have hgotCtx := h.got (by decide)
    rw [if_neg (by simp [hctx])]
    dsimp only
    by_cases hwrap : o.wrapSysDevice
    · obtain ⟨hgotHandle, hsame, hstill⟩ := readDescriptor_spec o (hgotCtx.got (by decide))
      rw [if_neg (by simp [hwrap])]
      cases o.endpoints with
      | none => exact hgotHandle.errHandle
      | some e => exact ⟨hgotHandle.write rfl hgotHandle.unpublished, hsame.trans htoken, hstill.trans hkept⟩
    · rw [if_pos (by simp [hwrap])]
      exact hgotCtx.aborted hkept (errCtx_unwinds hgotCtx.owns)
  · rw [if_pos (by simp [hctx])]
    exact h.aborted hkept (errCssCond_unwinds h.owns)

/-- Past this step the driver may be detached. -/
theorem claimInterface_spec (o : Setup) {fd : Int}
    (h : Building b [.handle, .ctx, .cssCv, .cssMtx, .ioLock] [.iface])
    (htoken : b.entry.token = fd) (hkept : b.entry.kernelDriverDetached = false) :
    match claimInterface o b with
    | .ok b' => Building b' deviceResources [] ∧ b'.entry.token = fd
    | .error b' => b'.entry = {} ∧ Aborted b'.ledger := by
  have hdriver := h.driver
  rw [hkept] at hdriver
  -- a driver that was detached is on record in the entry and in the ledger
  have hdetached : Building (Build.did .detached
      { b with entry := { b.entry with kernelDriverDetached := true } })
      [.handle, .ctx, .cssCv, .cssMtx, .ioLock] [.iface] := by
    refine ⟨h.owns.other, ?_, ?_, h.attachOpen, h.unpublished⟩
    · intro r hr
      exact account_other.trans (h.fresh r hr)
    · show .detached :: others b.ledger = [.detached]
      rw [hdriver]
      rfl
  unfold claimInterface
  by_cases hactive : o.kernelDriverActive = 1 ∧ o.detachKernelDriver = true
  · rw [if_pos hactive]
    by_cases hclaim : o.claimInterface
    · rw [if_neg (by simp [hclaim])]
      exact ⟨hdetached.got (by simp), htoken⟩
    · rw [if_pos (by simp [hclaim])]
      exact hdetached.errHandle
  · rw [if_neg hactive]
    by_cases hclaim : o.claimInterface
    · rw [if_neg (by simp [hclaim])]
      exact ⟨h.got (by simp), htoken⟩
    · rw [if_pos (by simp [hclaim])]
      exact h.errHandle

theorem acceptDevice_spec (o : Setup) {fd : Int} (h : Building b deviceResources [])
    (htoken : b.entry.token = fd) :
    match acceptDevice o b with
    | .ok b' => Kept b'.ledger ∧ b'.entry.token = fd ∧ b'.entry.inUse = true
      ∧ b'.entry.refs = 0 ∧ b'.entry.cssOpen = false ∧ b'.entry.cssOwner = none
    | .error b' => b'.entry = {} ∧ Aborted b'.ledger := by
  unfold acceptDevice
  dsimp only
  by_cases hdeclined : o.probe = .no ∨ o.probe = .gone ∨ o.probe = .noAnswer
  · rw [if_pos hdeclined]
    have hwritten := h.write (e := { b.entry with lun := o.lun, bot := o.bot }) rfl h.unpublished
    exact hwritten.gave.errHandle
  · rw [if_neg hdeclined]
    refine ⟨⟨h.owns.other, ?_, h.attachOpen⟩, htoken, rfl, h.unpublished.2⟩
    show .published :: others b.ledger = _ ∨ .published :: others b.ledger = _
    rw [h.driver]
    cases b.entry.kernelDriverDetached
    · exact .inl rfl
    · exact .inr rfl

/-- **One registration.** It ends with the device published, everything it made still its own; or, down
    the ladder, with the slot free and everything given back. -/
theorem setupEntry_spec (o : Setup) (fd : Int) :
    match setupEntry o fd with
    | .ok b => Kept b.ledger ∧ b.entry.token = fd ∧ b.entry.inUse = true
      ∧ b.entry.refs = 0 ∧ b.entry.cssOpen = false ∧ b.entry.cssOwner = none
    | .error b => b.entry = {} ∧ Aborted b.ledger := by
  have hlocks := initLocks_spec o fd
  unfold setupEntry
  cases hinit : initLocks o (identify o fd) with
  | error b =>
      rw [hinit] at hlocks
      exact hlocks
  | ok b =>
      rw [hinit] at hlocks
      obtain ⟨hbuilding, htoken, hkept⟩ := hlocks
      have hdevice := openDevice_spec o hbuilding htoken hkept
      simp only [bind, Except.bind]
      cases hopen : openDevice o b with
      | error b =>
          rw [hopen] at hdevice
          exact hdevice
      | ok b =>
          rw [hopen] at hdevice
          obtain ⟨hbuilding, htoken, hkept⟩ := hdevice
          have hclaimed := claimInterface_spec o hbuilding htoken hkept
          dsimp only
          cases hclaim : claimInterface o b with
          | error b =>
              rw [hclaim] at hclaimed
              exact hclaimed
          | ok b =>
              rw [hclaim] at hclaimed
              exact acceptDevice_spec o hclaimed.1 hclaimed.2

/-! ## The end of a registration -/

/-- `teardown_entry_locked()` gives everything back, in the order of the ladder, and hands no driver
    back. -/
theorem Kept.teardown (h : Kept b.ledger) :
    (teardownEntryLocked b).entry = {} ∧ TornDown (teardownEntryLocked b).ledger :=
  ⟨rfl, h.owns.gave.gave.gave.gave.gave.gave, h.driver, h.attachOpen⟩

/-- The kernel driver of one registration: handed back once, on an open handle, exactly if it was detached
    and the registration failed. -/
structure DriverRule (l : RegLedger) : Prop where
  handedBack : .attached ∈ others l ↔ .detached ∈ others l ∧ .published ∉ others l
  once : (others l).count .attached ≤ 1
  attachOpen : AttachOpen l

theorem Kept.driverRule (h : Kept l) : DriverRule l := by
  obtain ⟨-, hdriver | hdriver, hopen⟩ := h <;>
    exact ⟨by simp [hdriver], by simp [hdriver], hopen⟩

theorem Settled.driverRule (h : Settled l) : DriverRule l := by
  obtain ⟨-, hdriver | hdriver, hopen⟩ | ⟨-, hdriver | hdriver, hopen⟩ := h <;>
    exact ⟨by simp [hdriver], by simp [hdriver], hopen⟩

end Liblaser

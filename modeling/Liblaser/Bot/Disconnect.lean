import Liblaser.Bot.Spec

/-!
# `Bot.Disconnect` — what `BOT_FAIL_NO_DEVICE` stands for

Each phase of a transaction looks at the return code of its transfer, and the first one that says the
device has left the bus ends the call. So the outcome and the log say the same:
**`laserBotSendLocked_noDevice_iff`**.
-/

namespace Liblaser

variable {U : Type}

/-- A bulk transfer that returned `LIBUSB_ERROR_NO_DEVICE`. -/
def UsbEvent.isDisconnect : UsbEvent → Bool
  | .bulk _ r => r.ret == .errorNoDevice
  | _ => false

/-- One of the transfers of the log found no device. -/
def Disconnected (log : List UsbEvent) : Prop := ∃ e ∈ log, e.isDisconnect = true

instance (log : List UsbEvent) : Decidable (Disconnected log) :=
  inferInstanceAs (Decidable (∃ e ∈ log, _))

theorem disconnected_cons {e : UsbEvent} {log : List UsbEvent} :
    Disconnected (e :: log) ↔ e.isDisconnect = true ∨ Disconnected log := by
  simp [Disconnected]

theorem disconnected_append {log log' : List UsbEvent} :
    Disconnected (log ++ log') ↔ Disconnected log ∨ Disconnected log' := by
  simp only [Disconnected, List.mem_append, or_and_right, exists_or]

theorem not_disconnected_nil : ¬ Disconnected [] := by simp [Disconnected]

/-- One bulk transfer more. -/
theorem disconnected_bulk {req : BulkRequest} {r : BulkReply} {log : List UsbEvent} :
    Disconnected (.bulk req r :: log) ↔ r.ret = .errorNoDevice ∨ Disconnected log := by
  rw [disconnected_cons]
  simp [UsbEvent.isDisconnect]

/-- The transfers of a Mass Storage Reset are not bulk ones. -/
theorem ResetAfter.disconnected_iff {entry : LaserEntry} {log log' : List UsbEvent}
    (hreset : ResetAfter entry log log') : Disconnected log' ↔ Disconnected log := by
  obtain ⟨r, r₁, r₂, rfl⟩ := hreset
  simp [disconnected_cons, UsbEvent.isDisconnect]

theorem disconnected_clearHalt (h : UsbHost U) (endpoint : UInt8) (b : Bus U) :
    Disconnected (b.clearHalt h endpoint).log ↔ Disconnected b.log := by
  show Disconnected (.clearHalt endpoint _ :: b.log) ↔ _
  simp [disconnected_cons, UsbEvent.isDisconnect]

theorem disconnected_reset (h : UsbHost U) (entry : LaserEntry) (b : Bus U) :
    Disconnected (laserMassStorageReset h entry b).log ↔ Disconnected b.log :=
  (laserMassStorageReset_log h entry b).disconnected_iff

/-! ## The phases -/

theorem cbwPhase_disconnected (h : UsbHost U) (entry : LaserEntry) (cbw : Cbw) (b : Bus U) :
    Disconnected (cbwPhase h entry cbw b).2.log
      ↔ (cbwPhase h entry cbw b).1 = .error .noDevice ∨ Disconnected b.log := by
  obtain ⟨r, u, hbt, -⟩ := b.bulkTransfer_eq h (cbwTransfer entry cbw)
  unfold cbwPhase
  rw [hbt]
  dsimp only
  split
  · next hgone => simp [disconnected_bulk, hgone]
  · next hret =>
      split
      · simp [disconnected_bulk, hret]
      · split
        · simp [disconnected_bulk, hret]
        · simp [disconnected_reset, disconnected_bulk, hret]

theorem dataPhase_disconnected (h : UsbHost U) (entry : LaserEntry) (req : BotRequest) (t : Nat)
    (b : Bus U) :
    Disconnected (dataPhase h entry req t b).2.2.log
      ↔ (dataPhase h entry req t b).1 = some .noDevice ∨ Disconnected b.log := by
  unfold dataPhase
  split
  case isFalse => simp
  case isTrue =>
    obtain ⟨r, u, hbt, -⟩ := b.bulkTransfer_eq h (dataTransfer entry req)
    rw [hbt]
    dsimp only
    split
    · next hret => simp [disconnected_clearHalt, disconnected_bulk, hret]
    split
    · next hret =>
        split
        · simp [disconnected_bulk, hret]
        · simp [disconnected_reset, disconnected_bulk, hret]
    split
    · next hgone => simp [disconnected_bulk, hgone]
    · next hret =>
        split
        · simp [disconnected_reset, disconnected_bulk, hret]
        · simp [disconnected_bulk, hret]

/-- The CSW reads: the one before the last, if any, stalled. -/
theorem readCsw_disconnected (h : UsbHost U) (entry : LaserEntry) (t : Nat) (b : Bus U) :
    Disconnected (readCsw h entry t b).2.2.2.log
      ↔ (readCsw h entry t b).1.ret = .errorNoDevice ∨ Disconnected b.log := by
  obtain ⟨log₁, hreads, hlog, -⟩ := readCsw_spec h entry t b
  rw [hlog, disconnected_bulk]
  cases hreads with
  | first => rfl
  | again hret =>
      rw [disconnected_cons, disconnected_bulk]
      simp [UsbEvent.isDisconnect, hret]

theorem cswPhase_disconnected (h : UsbHost U) (entry : LaserEntry) (tag : UInt32) (t : Nat)
    (b : Bus U) :
    Disconnected (cswPhase h entry tag t b).2.2.log
      ↔ (cswPhase h entry tag t b).1 = .error .noDevice ∨ Disconnected b.log := by
  have hread := readCsw_disconnected h entry t b
  unfold cswPhase
  generalize readCsw h entry t b = rr at hread ⊢
  obtain ⟨r, n, bot, b'⟩ := rr
  dsimp only at hread ⊢
  split
  · next hgone => simp [hread, hgone]
  · next hret =>
      have hread : Disconnected b'.log ↔ Disconnected b.log := by simpa [hret] using hread
      split
      · simp [disconnected_reset, hread]
      split
      · simp [disconnected_reset, hread]
      split
      · simp [disconnected_reset, hread]
      · simp [hread]

/-- A call that concludes from a CSW found the device there. -/
theorem concludeCsw_outcome_ne (req : BotRequest) (moved : DataMoved) (bot : BotState) (csw : Csw) :
    (concludeCsw req moved bot csw).outcome ≠ .noDevice := by
  unfold concludeCsw
  dsimp only
  split
  · simp
  · split <;> simp

/-- **The outcome says what the bus said**: a transaction ends in `BOT_FAIL_NO_DEVICE` exactly when one of
    its bulk transfers returned `LIBUSB_ERROR_NO_DEVICE`. -/
theorem laserBotSendLocked_noDevice_iff (h : UsbHost U) (entry : LaserEntry) (req : BotRequest)
    (u : U) :
    (laserBotSendLocked h entry req u).1.outcome = .noDevice
      ↔ Disconnected (laserBotSendLocked h entry req u).2.log := by
  unfold laserBotSendLocked
  split
  · simp [not_disconnected_nil]
  · dsimp only
    have hcbw := cbwPhase_disconnected h entry.nextTag (mkCbw entry.nextTag req entry.nextTag.bot.tag)
      ⟨u, []⟩
    generalize cbwPhase h entry.nextTag (mkCbw entry.nextTag req entry.nextTag.bot.tag) ⟨u, []⟩ = c
      at hcbw
    obtain ⟨o | t, b₁⟩ := c
    · simp [hcbw, not_disconnected_nil]
    · have hcbw : ¬ Disconnected b₁.log := by simp [hcbw, not_disconnected_nil]
      have hdata := dataPhase_disconnected h entry.nextTag req t b₁
      dsimp only
      generalize dataPhase h entry.nextTag req t b₁ = d at hdata
      obtain ⟨_ | o, moved, b₂⟩ := d
      · have hdata : ¬ Disconnected b₂.log := by simp [hdata, hcbw]
        have hcsw := cswPhase_disconnected h entry.nextTag entry.nextTag.bot.tag moved.transferred b₂
        dsimp only
        generalize cswPhase h entry.nextTag entry.nextTag.bot.tag moved.transferred b₂ = e at hcsw
        obtain ⟨o | csw, bot, b₃⟩ := e
        · simp [hcsw, hdata]
        · simp [hcsw, hdata, concludeCsw_outcome_ne]
      · simp [hdata, hcbw]

end Liblaser

import Liblaser.Bot.Spec

/-!
# `Bot.Sound` — what a completed transaction proves

A call that returns `0` has read the CSW of its own CBW. Tags make that true over a run: each CBW
takes the next tag modulo 2³², so within fewer than 2³² calls no two CBWs share one (`botRun_tags`),
and a CSW left over from an earlier call cannot pass for this one's. The length handed back is bounded
by what libusb reported, which is bounded by what was asked for.

**`botRun_sound`** states this of every call of a run, together with the wire form of its CBW.
-/

namespace Liblaser

open Bytes

variable {U : Type} {h : UsbHost U} {entry : LaserEntry} {req : BotRequest} {reply : BotReply}
  {log : List UsbEvent}

/-! ## Reconciling the wire count with the residue -/

theorem reconcile_le {dataLen n residue : Nat} : reconcile dataLen n residue ≤ n := by
  simp only [reconcile]
  split
  · exact Nat.le_refl n
  · split
    · split <;> omega
    · exact Nat.le_refl n

/-- A transfer that came short counts for the smaller of the two lengths. -/
theorem reconcile_of_lt {dataLen n residue : Nat} (hn : n < dataLen) :
    reconcile dataLen n residue = min (dataLen - residue) n := by
  simp only [reconcile, hn, if_true]
  split
  · next hzero => rw [hzero, Nat.sub_zero, Nat.min_eq_right (Nat.le_of_lt hn)]
  · split <;> omega

/-- A full transfer counts in full, whatever the residue says. -/
theorem reconcile_full {dataLen residue : Nat} : reconcile dataLen dataLen residue = dataLen := by
  simp only [reconcile, Nat.lt_irrefl, if_false, ite_self]

/-! ## One call -/

/-- The tag of the CBW this call sends. -/
def sentTag (entry : LaserEntry) : UInt32 := entry.bot.tag + 1

/-- The first thing on the wire is the CBW. -/
theorem BotSpec.cbw_first (hspec : BotSpec h entry req reply log)
    (hfit : req.cdb.length ≤ cbwcbSize) :
    ∃ r, [.bulk (cbwTransfer entry (mkCbw entry req (sentTag entry))) r] <:+ log := by
  cases hspec with
  | refused hlong => exact absurd hfit (Nat.not_le_of_lt hlong)
  | cbwEnds _ hcbw => exact hcbw.cbw_suffix
  | dataEnds _ hcbw hdata =>
      obtain ⟨r, hr⟩ := hcbw.cbw_suffix
      exact ⟨r, hr.trans hdata.suffix⟩
  | cswEnds _ hcbw hdata hcsw _ =>
      obtain ⟨r, hr⟩ := hcbw.cbw_suffix
      exact ⟨r, hr.trans (hdata.suffix.trans hcsw.suffix)⟩
  | concludes _ hcbw hdata hcsw _ =>
      obtain ⟨r, hr⟩ := hcbw.cbw_suffix
      exact ⟨r, hr.trans (hdata.suffix.trans hcsw.suffix)⟩

theorem concludeCsw_tag (moved : DataMoved) (bot : BotState) (csw : Csw) :
    (concludeCsw req moved bot csw).bot.tag = bot.tag := by
  simp only [concludeCsw]
  split
  · rfl
  · split
    · dsimp only
      split <;> rfl
    · dsimp only
      split <;> rfl

/-- The tag moves by one for each CBW sent, and only then. -/
theorem BotSpec.tag (hspec : BotSpec h entry req reply log) :
    reply.bot.tag = if req.cdb.length ≤ cbwcbSize then sentTag entry else entry.bot.tag := by
  cases hspec with
  | refused hlong => rw [if_neg (Nat.not_le_of_lt hlong)]
  | cbwEnds hfit _ => rw [if_pos hfit]; rfl
  | dataEnds hfit _ _ => rw [if_pos hfit]; rfl
  | cswEnds hfit _ _ _ hbot => rw [if_pos hfit]; exact hbot
  | concludes hfit _ _ _ hbot => rw [if_pos hfit, concludeCsw_tag]; exact hbot

/-- What a call that returned `0` has read and moved. -/
structure Completed (h : UsbHost U) (entry : LaserEntry) (req : BotRequest) (reply : BotReply)
    (log : List UsbEvent) (csw : Csw) : Prop where
  /-- The CSW is what the last read of the call delivered. -/
  read : ∃ r rest, log = .bulk (cswTransfer entry) r :: rest ∧ ReadWhole r
    ∧ csw = Csw.ofBytes r.bytes
  signature : csw.dCSWSignature = usbBotCswSignature
  tag : csw.dCSWTag = sentTag entry
  status : csw.bCSWStatus = usbBotStatusPass
  residue : csw.dCSWDataResidue.toNat ≤ req.dataLen
  /-- The data phase, and the length handed back for it. -/
  data : req.hasData = true → ∃ r rc n,
    [.bulk (dataTransfer entry req) r, .bulk (cbwTransfer entry (mkCbw entry req (sentTag entry))) rc]
      <:+ log ∧ FromHost h (dataTransfer entry req) r ∧ r.transferred = some n
    ∧ (req.wantActualLen = true →
        reply.actualLen = some (reconcile req.dataLen n csw.dCSWDataResidue.toNat))

/-- The data phase of a call that goes on to its CSW. -/
theorem DataPhaseSpec.moved_of_hasData {t : Nat} {moved : DataMoved} {log log' : List UsbEvent}
    (hspec : DataPhaseSpec h entry req t log none moved log') (hdata : req.hasData = true) :
    ∃ r, .bulk (dataTransfer entry req) r :: log <:+ log' ∧ FromHost h (dataTransfer entry req) r
      ∧ r.transferred = some moved.dataTransferred := by
  cases hspec with
  | skipped hno => rw [hno] at hdata; exact absurd hdata (by simp)
  | moved hhost _ hn _ => exact ⟨_, List.suffix_refl _, hhost, hn⟩
  | stalled hhost _ hn _ => exact ⟨_, List.suffix_cons _ _, hhost, hn⟩

/-- **A call returns `0` only on its own CSW.** -/
theorem BotSpec.completed (hspec : BotSpec h entry req reply log) (hpass : reply.outcome = .pass) :
    ∃ csw, Completed h entry req reply log csw := by
  cases hspec with
  | refused _ => exact absurd hpass (by simp)
  | cbwEnds _ hcbw => cases hcbw <;> exact absurd hpass (by simp)
  | dataEnds _ _ hdata => cases hdata <;> exact absurd hpass (by simp)
  | cswEnds _ _ _ hcsw _ => cases hcsw <;> exact absurd hpass (by simp)
  | @concludes t csw moved bot log₁ log₂ log _ hcbw hdata hcsw _ =>
      have hres : ¬ req.dataLen < csw.dCSWDataResidue.toNat := by
        intro hlt
        simp [concludeCsw, hlt] at hpass
      have hstatus : csw.bCSWStatus = usbBotStatusPass := by
        refine Decidable.byContradiction fun hne => ?_
        simp [concludeCsw, hres, hne] at hpass
      cases hcsw with
      | accepted hreads hread hvalid =>
          refine ⟨_, ⟨_, _, rfl, hread, rfl⟩, hvalid.signature, hvalid.tag_eq, hstatus,
            Nat.le_of_not_lt hres, fun hhas => ?_⟩
          obtain ⟨r, hr, hhost, hn⟩ := hdata.moved_of_hasData hhas
          cases hcbw with
          | @sent rc _ _ =>
              refine ⟨r, rc, _, hr.trans (hreads.suffix.trans (List.suffix_cons _ _)), hhost, hn,
                fun hwant => ?_⟩
              simp [concludeCsw, hres, hstatus, hhas, hwant]

/-! ## A run of calls -/

/-- One call of a run, with the entry it found and the log it left. -/
structure BotCall where
  entry : LaserEntry
  req : BotRequest
  reply : BotReply
  log : List UsbEvent

/-- Consecutive calls on one entry: what `bot.c` keeps in it goes from call to call, the other fields
    may have been written in between. -/
def botRun (h : UsbHost U) : List (LaserEntry × BotRequest) → BotState → U → List BotCall
  | [], _, _ => []
  | (e, req) :: rest, bot, u =>
    let entry := { e with bot := bot }
    let (reply, b) := laserBotSendLocked h entry req u
    ⟨entry, req, reply, b.log⟩ :: botRun h rest reply.bot b.usb

theorem botRun_cons (h : UsbHost U) (e : LaserEntry) (req : BotRequest)
    (rest : List (LaserEntry × BotRequest)) (bot : BotState) (u : U) :
    botRun h ((e, req) :: rest) bot u =
      let sent := laserBotSendLocked h { e with bot := bot } req u
      ⟨{ e with bot := bot }, req, sent.1, sent.2.log⟩ :: botRun h rest sent.1.bot sent.2.usb := rfl

/-- Does the call send a CBW at all? -/
def BotCall.Fits (c : BotCall) : Prop := c.req.cdb.length ≤ cbwcbSize

/-- The CSW a call read is this one, in a 13-byte read that is the last transfer of the call. -/
def BotCall.Read (c : BotCall) (csw : Csw) : Prop :=
  ∃ t r rest, c.log = .bulk t r :: rest ∧ t.endpoint = c.entry.epIn ∧ t.length = usbBotCswSize
    ∧ r.transferred = some usbBotCswSize ∧ csw = Csw.ofBytes r.bytes

/-- libusb reported `n` bytes moved in the data phase of the call, which follows its CBW. -/
def BotCall.Moved (c : BotCall) (n : Nat) : Prop :=
  ∃ t r cbw rc, [.bulk t r, .bulk cbw rc] <:+ c.log ∧ r.transferred = some n
    ∧ t.endpoint = (if c.req.dataIn then c.entry.epIn else c.entry.epOut)
    ∧ t.length = c.req.dataLen

/-- The first transfer of the call carries, on Bulk-Out, 31 bytes that decode to this CBW. -/
def BotCall.Sent (c : BotCall) (cbw : Cbw) : Prop :=
  ∃ t r, [.bulk t r] <:+ c.log ∧ t.endpoint = c.entry.epOut ∧ t.length = usbBotCbwSize
    ∧ Cbw.parse t.out = some cbw

/-- The CBW a request asks for: the fields of the Bulk-Only specification, the CDB padded with
    zeros. -/
structure Cbw.For (cbw : Cbw) (c : BotCall) : Prop where
  signature : cbw.dCBWSignature = usbBotCbwSignature
  tag : cbw.dCBWTag = sentTag c.entry
  dataLen : cbw.dCBWDataTransferLength.toNat = c.req.dataLen
  direction : cbw.bmCBWFlags = if c.req.dataIn then 0x80 else 0x00
  lun : cbw.bCBWLUN = c.entry.lun
  cdbLen : cbw.bCBWCBLength.toNat = c.req.cdb.length
  cdb : cbw.cbwcb = c.req.cdb ++ List.replicate (cbwcbSize - c.req.cdb.length) 0

theorem mkCbw_for (c : BotCall) (hfit : c.Fits) :
    (mkCbw c.entry c.req (sentTag c.entry)).For c where
  signature := rfl
  tag := rfl
  dataLen := UInt32.toNat_ofNat_of_lt' (Nat.lt_trans c.req.dataLen_lt (by decide))
  direction := rfl
  lun := rfl
  cdbLen := UInt8.toNat_ofNat_of_lt' (Nat.lt_of_le_of_lt hfit (by decide))
  cdb := by
    show overwrite (List.replicate cbwcbSize 0) c.req.cdb = _
    rw [overwrite, List.length_replicate, List.take_of_length_le hfit, List.drop_replicate]

/-- What a call that returned `0` with a data phase stored in `*actual_len`: no more than libusb
    reported moved, which is no more than was asked for. -/
def BotCall.Counted (c : BotCall) (residue : Nat) : Prop :=
  ∃ n a, c.Moved n ∧ c.reply.actualLen = some a ∧ a ≤ n ∧ n ≤ c.req.dataLen
    ∧ a = if n = c.req.dataLen then c.req.dataLen else min (c.req.dataLen - residue) n

/-- Every call of a run is a call of `laser_bot_send_locked()`. -/
theorem botRun_spec {c : BotCall} {calls : List (LaserEntry × BotRequest)} {bot : BotState} {u : U}
    (hc : c ∈ botRun h calls bot u) : BotSpec h c.entry c.req c.reply c.log := by
  induction calls generalizing bot u with
  | nil => exact absurd hc (by simp [botRun])
  | cons call rest ih =>
      obtain ⟨e, req⟩ := call
      rw [botRun_cons, List.mem_cons] at hc
      rcases hc with rfl | hc
      · exact laserBotSendLocked_spec h _ req u
      · exact ih hc

/-- The tags of a run count up from the entry's: a CBW sent in it carries the tag before the run plus
    a number between 1 and the length of the run. -/
theorem botRun_tag {c : BotCall} {calls : List (LaserEntry × BotRequest)} {bot : BotState} {u : U}
    (hc : c ∈ botRun h calls bot u) :
    ∃ k, 1 ≤ k ∧ k ≤ calls.length ∧ sentTag c.entry = bot.tag + UInt32.ofNat k := by
  induction calls generalizing bot u with
  | nil => exact absurd hc (by simp [botRun])
  | cons call rest ih =>
      obtain ⟨e, req⟩ := call
      rw [botRun_cons, List.mem_cons] at hc
      rcases hc with rfl | hc
      · exact ⟨1, Nat.le_refl 1, by simp, rfl⟩
      · obtain ⟨k, hk, hle, htag⟩ := ih hc
        have hstep := (laserBotSendLocked_spec h { e with bot := bot } req u).tag
        split at hstep
        · refine ⟨k + 1, by omega, by simpa using hle, ?_⟩
          rw [htag, hstep]
          simp [sentTag, UInt32.ofNat_add, UInt32.add_assoc, UInt32.add_comm 1]
        · refine ⟨k, hk, by simp; omega, ?_⟩
          rw [htag, hstep]

/-- Two numbers below 2³² do not lead from one tag to the same tag. -/
theorem tag_add_inj {t : UInt32} {j k : Nat} (hj : j < 2 ^ 32) (hk : k < 2 ^ 32)
    (heq : t + UInt32.ofNat j = t + UInt32.ofNat k) : j = k := by
  have h := congrArg UInt32.toNat ((UInt32.add_right_inj t).mp heq)
  rw [UInt32.toNat_ofNat', UInt32.toNat_ofNat'] at h
  rwa [Nat.mod_eq_of_lt hj, Nat.mod_eq_of_lt hk] at h

/-- **Tags identify calls.** In a run of fewer than 2³² calls no later CBW carries an earlier one's
    tag. -/
theorem botRun_tags {calls : List (LaserEntry × BotRequest)} {bot : BotState} {u : U}
    (hrun : calls.length < 2 ^ 32) :
    (botRun h calls bot u).Pairwise fun d c => d.Fits → sentTag d.entry ≠ sentTag c.entry := by
  induction calls generalizing bot u with
  | nil => exact .nil
  | cons call rest ih =>
      obtain ⟨e, req⟩ := call
      simp only [List.length_cons] at hrun
      rw [botRun_cons]
      refine .cons ?_ (ih (by omega))
      intro c hc hfits heq
      obtain ⟨k, hk, hle, htag⟩ := botRun_tag hc
      have hstep := (laserBotSendLocked_spec h { e with bot := bot } req u).tag
      rw [if_pos (show req.cdb.length ≤ cbwcbSize from hfits)] at hstep
      rw [htag, hstep] at heq
      -- the two calls are fewer than 2³² apart, so equal tags would be the same call
      have hzero := tag_add_inj (t := sentTag { e with bot := bot }) (j := 0) (k := k) (by omega)
        (by omega) (by simpa using heq)
      omega

/-- The CBW of one call. -/
theorem BotSpec.sent {c : BotCall} (hspec : BotSpec h c.entry c.req c.reply c.log)
    (hfit : c.Fits) : ∃ cbw, c.Sent cbw ∧ cbw.For c := by
  obtain ⟨r, hr⟩ := hspec.cbw_first hfit
  exact ⟨_, ⟨_, r, hr, rfl, rfl, Cbw.parse_encode _⟩, mkCbw_for c hfit⟩

/-- The count of one call that returned `0`. -/
theorem Completed.counted {c : BotCall} {csw : Csw} (hlibusb : h.WithinLength)
    (hdone : Completed h c.entry c.req c.reply c.log csw) (hdata : c.req.hasData = true)
    (hwant : c.req.wantActualLen = true) : c.Counted csw.dCSWDataResidue.toNat := by
  obtain ⟨r, rc, n, hlog, ⟨u, hu⟩, hn, hlen⟩ := hdone.data hdata
  have hbound : n ≤ c.req.dataLen := hlibusb (dataTransfer c.entry c.req) u n (by rw [hu, hn])
  refine ⟨n, _, ⟨_, r, _, rc, hlog, hn, rfl, rfl⟩, hlen hwant, reconcile_le, hbound, ?_⟩
  split
  · next hfull => rw [hfull, reconcile_full]
  · next hshort => exact reconcile_of_lt (by omega)

/-- **A completed transaction is sound, over whole runs.** Every CBW sent decodes to the request it
    was built from under the call's own tag. A call that returned `0` did so on a CSW with that tag,
    which is the tag of no earlier CBW of the run, with status 00h and a meaningful residue; and the
    length it hands back is bounded by the bytes moved, these by the length asked for. -/
theorem botRun_sound (h : UsbHost U) (hlibusb : h.WithinLength)
    (calls : List (LaserEntry × BotRequest)) (hrun : calls.length < 2 ^ 32) (bot : BotState) (u : U) :
    let run := botRun h calls bot u
    ∀ (i : Nat) (c : BotCall), run[i]? = some c →
      (c.Fits → ∃ cbw, c.Sent cbw ∧ cbw.For c)
      ∧ (c.reply.outcome = .pass → ∃ csw, c.Read csw
          ∧ csw.dCSWSignature = usbBotCswSignature
          ∧ csw.dCSWTag = sentTag c.entry
          ∧ (∀ (j : Nat) (d : BotCall) (cbw : Cbw), j < i → run[j]? = some d → d.Fits → cbw.For d →
              csw.dCSWTag ≠ cbw.dCBWTag)
          ∧ csw.bCSWStatus = usbBotStatusPass
          ∧ csw.dCSWDataResidue.toNat ≤ c.req.dataLen
          ∧ (c.req.hasData = true → c.req.wantActualLen = true →
              c.Counted csw.dCSWDataResidue.toNat)) := by
  intro run i c hc
  have hspec := botRun_spec (List.mem_of_getElem? hc)
  refine ⟨hspec.sent, fun hpass => ?_⟩
  obtain ⟨csw, hdone⟩ := hspec.completed hpass
  obtain ⟨r, rest, hlog, hread, hcsw⟩ := hdone.read
  refine ⟨csw, ⟨_, r, rest, hlog, rfl, rfl, hread.2, hcsw⟩, hdone.signature, hdone.tag, ?_,
    hdone.status, hdone.residue, hdone.counted hlibusb⟩
  intro j d cbw hji hd hfits hfor heq
  -- the tag read is this call's own, and an earlier CBW carries another
  have htags := @botRun_tags _ h calls bot u hrun
  rw [List.pairwise_iff_getElem] at htags
  obtain ⟨hi, rfl⟩ := List.getElem?_eq_some_iff.mp hc
  obtain ⟨hj, rfl⟩ := List.getElem?_eq_some_iff.mp hd
  exact htags j i hj hi hji hfits (by rw [← hfor.tag, ← heq, hdone.tag])

/-- A TEST UNIT READY and a READ(10) of one block, across the wrap of the tag. -/
theorem botRun_sound_wrap :
    let entry : LaserEntry := { epIn := 0x81, epOut := 0x02 }
    let ready : BotRequest := {
      cdb := [0, 0, 0, 0, 0, 0], data := none, dataLen := 0, dataIn := false
      wantActualLen := false, dataLen_lt := by decide }
    let read : BotRequest := {
      cdb := [0x28, 0, 0, 0, 0, 16, 0, 0, 1, 0], data := some [], dataLen := 2048, dataIn := true
      wantActualLen := true, dataLen_lt := by decide }
    let csw (tag : UInt32) : List UInt8 := (Csw.mk usbBotCswSignature tag 0 0).encode
    let run := botRun .obliging [(entry, ready), (entry, read)] { tag := 0xFFFFFFFE }
      [csw 0xFFFFFFFF, [], csw 0]
    ∃ c csw, run[1]? = some c ∧ c.Read csw ∧ csw.dCSWTag = 0 ∧ c.Counted csw.dCSWDataResidue.toNat := by
  intro entry ready read csw run
  have hsound := (botRun_sound .obliging UsbHost.obliging_withinLength
    [(entry, ready), (entry, read)] (by decide) { tag := 0xFFFFFFFE } [csw 0xFFFFFFFF, [], csw 0]
    1 _ rfl).2 (by decide)
  obtain ⟨w, hread, -, htag, -, -, -, hcounted⟩ := hsound
  exact ⟨_, w, rfl, hread, htag.trans (by decide), hcounted rfl rfl⟩

end Liblaser

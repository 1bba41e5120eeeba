import Liblaser.Scsi.Ideal
import Liblaser.Scsi.Truthful

/-!
# `Scsi.Region` — does the drive's region forbid the disc?

`laser_region_mismatch()` asks the drive for its RPC state and, where that can matter, for the disc's
region mask. It is advice, and every uncertainty must come out as "no mismatch".

`Permits` is what a mask means, and `RegionConflict` what there is to report: a drive that enforces regions,
has one set, and shares none with the disc. **`laserRegionMismatch_exact`** is that a conflict is reported
exactly when both answers came back whole and say so, **`regionMismatch_truthful`** that on a bus with a
conforming device both answers are the drive's own.
-/

namespace Liblaser

open Bytes Loop Service Transition

variable {W : Type}

/-! ## The check -/

/-- REPORT KEY, key format 08h, 8 bytes. -/
def reportRpcStateCall : CdbCall where
  cdb := [0xA4, 0, 0, 0, 0, 0, 0, 0, 0, 8, 0x08, 0]
  data := some (List.replicate 8 0)
  dataLen := 8
  dataIn := true
  wantActualLen := true
  dataLen_lt := by decide

/-- READ DVD STRUCTURE, format 01h, 8 bytes. -/
def readDiscRegionMaskCall : CdbCall where
  cdb := [0xAD, 0, 0, 0, 0, 0, 0x00, 0x01, 0, 8, 0, 0]
  data := some (List.replicate 8 0)
  dataLen := 8
  dataIn := true
  wantActualLen := true
  dataLen_lt := by decide

/-- The fields of the RPC state. -/
structure RpcState where
  type : UInt8
  mask : UInt8
  scheme : UInt8
deriving DecidableEq, Repr

/-- The 8 bytes of an answer, when it passed and they all came; they are stored in a zeroed buffer. -/
def CdbResult.eight (r : CdbResult) : Option (List UInt8) :=
  if r.status ≠ .ok ∨ r.actualLen.getD 0 < 8 then none else some (overwrite (List.replicate 8 0) r.data)

/-- The RPC state in an answer. -/
def RpcState.ofBytes (data : List UInt8) : RpcState :=
  ⟨data.getD 4 0 >>> 6, data.getD 5 0, data.getD 6 0⟩

/-- `report_rpc_state()`; `none` when it returns 0. -/
def reportRpcState (port : ScsiPort W) (s : Sys W) : Option RpcState × Sys W :=
  let (r, s) := port.scsiCdb reportRpcStateCall s
  (r.eight.map RpcState.ofBytes, s)

/-- `read_disc_region_mask()`; `none` when it returns 0. -/
def readDiscRegionMask (port : ScsiPort W) (s : Sys W) : Option UInt8 × Sys W :=
  let (r, s) := port.scsiCdb readDiscRegionMaskCall s
  (r.eight.map fun data => data.getD 5 0, s)

/-- `LASER_RPC_TYPE_NONE`. -/
def laserRpcTypeNone : UInt8 := 0x00

/-- `LASER_RPC_SCHEME_NONE`. -/
def laserRpcSchemeNone : UInt8 := 0x00

/-- `LASER_REGION_ALL`. -/
def laserRegionAll : UInt8 := 0xFF

/-- How the check ends: what it returns, and what is behind the two pointers, `none` for a `NULL` one. -/
structure RegionResult where
  ret : Int
  driveMask : Option UInt8
  discMask : Option UInt8
deriving DecidableEq, Repr

/-- `laser_region_mismatch()`. Between the two commands other threads may run. -/
def laserRegionMismatch (port : ScsiPort W) (driveMask discMask : Option UInt8) (s : Sys W) :
    RegionResult × Sys W :=
  match reportRpcState port s with
  | (none, s) => (⟨0, driveMask, discMask⟩, s)
  | (some rpc, s) =>
    if rpc.scheme = laserRpcSchemeNone ∨ rpc.type = laserRpcTypeNone then (⟨0, driveMask, discMask⟩, s)
    else
      match readDiscRegionMask port (port.otherThreads s) with
      | (none, s) => (⟨0, driveMask, discMask⟩, s)
      | (some diMask, s) =>
        -- a region-free disc plays anywhere
        if diMask = 0x00 then (⟨0, driveMask, discMask⟩, s)
        else if ~~~rpc.mask &&& ~~~diMask &&& laserRegionAll ≠ 0 then (⟨0, driveMask, discMask⟩, s)
        else (⟨1, driveMask.map fun _ => rpc.mask, discMask.map fun _ => diMask⟩, s)

/-! ## What the masks mean -/

/-- A mask has a bit for each of the eight regions, and a set one prohibits it. -/
def Permits (mask : UInt8) (region : Nat) : Prop := region < 8 ∧ mask.toBitVec.getLsbD region = false

/-- The drive enforces regions and has one set, the disc is not region-free, and they share none. -/
structure RegionConflict (rpc : RpcState) (disc : UInt8) : Prop where
  enforced : rpc.scheme ≠ laserRpcSchemeNone
  set : rpc.type ≠ laserRpcTypeNone
  restricted : disc ≠ 0
  disjoint : ∀ region, Permits rpc.mask region → ¬ Permits disc region

/-- The complements of two masks intersect in the regions that both permit. -/
theorem permitted_iff (drive disc : UInt8) :
    ~~~drive &&& ~~~disc &&& laserRegionAll ≠ 0 ↔ ∃ region, Permits drive region ∧ Permits disc region := by
  have hall : ∀ region < 8, laserRegionAll.toBitVec.getLsbD region = true := by decide
  have hbit : ∀ region < 8, (~~~drive &&& ~~~disc &&& laserRegionAll).toBitVec.getLsbD region
      = (!drive.toBitVec.getLsbD region && !disc.toBitVec.getLsbD region) := by
    intro region hlt
    simp [hall region hlt, hlt]
  constructor
  · intro hne
    -- a number that is not zero has a bit set
    rcases Classical.em (∃ region < 8,
      (~~~drive &&& ~~~disc &&& laserRegionAll).toBitVec.getLsbD region = true) with
      ⟨region, hlt, hset⟩ | hnone
    · rw [hbit region hlt] at hset
      simp only [Bool.and_eq_true, Bool.not_eq_true'] at hset
      exact ⟨region, ⟨hlt, hset.1⟩, ⟨hlt, hset.2⟩⟩
    · refine absurd (UInt8.toBitVec_inj.mp (BitVec.eq_of_getLsbD_eq fun region hlt => ?_)) hne
      have hclear := fun hset => hnone ⟨region, hlt, hset⟩
      simpa using hclear
  · rintro ⟨region, ⟨hlt, hdrive⟩, -, hdisc⟩ hzero
    have hset := hbit region hlt
    rw [hzero, hdrive, hdisc] at hset
    simp at hset

/-! ## What is reported -/

/-- Both questions were answered, and so. -/
structure RegionAnswers (port : ScsiPort W) (s : Sys W) (rpc : RpcState) (disc : UInt8) : Prop where
  drive : (reportRpcState port s).1 = some rpc
  disc : (readDiscRegionMask port (port.otherThreads (reportRpcState port s).2)).1 = some disc

/-- A conflict is reported when both answers say that there is one, with the masks as they came; in every
    other case 0 is returned, and nothing is written. -/
structure RegionExact (port : ScsiPort W) (driveMask discMask : Option UInt8) (s : Sys W)
    (result : RegionResult) : Prop where
  conflict : result.ret = 1 ↔ ∃ rpc disc, RegionAnswers port s rpc disc ∧ RegionConflict rpc disc
  masks : ∀ rpc disc, result.ret = 1 → RegionAnswers port s rpc disc →
    result = ⟨1, driveMask.map fun _ => rpc.mask, discMask.map fun _ => disc⟩
  otherwise : result.ret ≠ 1 → result = ⟨0, driveMask, discMask⟩

/-- Nothing to report. -/
theorem RegionExact.of_none {port : ScsiPort W} {driveMask discMask : Option UInt8} {s : Sys W}
    (hnone : ∀ rpc disc, RegionAnswers port s rpc disc → ¬ RegionConflict rpc disc) :
    RegionExact port driveMask discMask s ⟨0, driveMask, discMask⟩ := by
  have hzero : (0 : Int) ≠ 1 := by decide
  refine ⟨⟨fun hret => absurd hret hzero, ?_⟩, fun _ _ hret => absurd hret hzero, fun _ => rfl⟩
  rintro ⟨rpc, disc, hanswers, hconflict⟩
  exact absurd hconflict (hnone rpc disc hanswers)

/-- **The check is exact**, on any answers. -/
theorem laserRegionMismatch_exact (port : ScsiPort W) (driveMask discMask : Option UInt8) (s : Sys W) :
    RegionExact port driveMask discMask s (laserRegionMismatch port driveMask discMask s).1 := by
  unfold laserRegionMismatch
  cases hrpc : reportRpcState port s with
  | mk answer s₁ =>
  have hdrive : ∀ rpc disc, RegionAnswers port s rpc disc → answer = some rpc := by
    intro rpc disc hanswers
    have h := hanswers.drive
    rwa [hrpc] at h
  cases answer with
  | none => exact .of_none fun rpc disc hanswers => nomatch hdrive rpc disc hanswers
  | some rpc =>
      have hsame : ∀ rpc' disc, RegionAnswers port s rpc' disc → rpc = rpc' := fun rpc' disc hanswers =>
        Option.some.inj (hdrive rpc' disc hanswers)
      dsimp only
      split
      · next hidle =>
          refine .of_none fun rpc' disc hanswers hconflict => ?_
          obtain rfl := hsame rpc' disc hanswers
          rcases hidle with hscheme | htype
          · exact hconflict.enforced hscheme
          · exact hconflict.set htype
      · next hactive =>
          cases hdvd : readDiscRegionMask port (port.otherThreads s₁) with
          | mk answer s₂ =>
          have hdisc : ∀ rpc' disc, RegionAnswers port s rpc' disc → answer = some disc := by
            intro rpc' disc hanswers
            have h := hanswers.disc
            rwa [hrpc, hdvd] at h
          cases answer with
          | none => exact .of_none fun rpc' disc hanswers => nomatch hdisc rpc' disc hanswers
          | some diMask =>
              have hanswers : RegionAnswers port s rpc diMask := ⟨by rw [hrpc], by rw [hrpc, hdvd]⟩
              have honly : ∀ rpc' disc, RegionAnswers port s rpc' disc → rpc = rpc' ∧ diMask = disc :=
                fun rpc' disc h => ⟨hsame rpc' disc h, Option.some.inj (hdisc rpc' disc h)⟩
              dsimp only
              split
              · next hfree =>
                  refine .of_none fun rpc' disc h hconflict => ?_
                  obtain ⟨rfl, rfl⟩ := honly rpc' disc h
                  exact hconflict.restricted hfree
              · next hrestricted =>
                  split
                  · next hshared =>
                      obtain ⟨region, hdrive, hdisc⟩ := (permitted_iff _ _).mp hshared
                      refine .of_none fun rpc' disc h hconflict => ?_
                      obtain ⟨rfl, rfl⟩ := honly rpc' disc h
                      exact hconflict.disjoint region hdrive hdisc
                  · next hshared =>
                      rw [permitted_iff] at hshared
                      obtain ⟨hscheme, htype⟩ := not_or.mp hactive
                      have hconflict : RegionConflict rpc diMask := ⟨hscheme, htype, hrestricted,
                        fun region hdrive hdisc => hshared ⟨region, hdrive, hdisc⟩⟩
                      refine ⟨⟨fun _ => ⟨rpc, diMask, hanswers, hconflict⟩, fun _ => rfl⟩, ?_,
                        fun hne => absurd rfl hne⟩
                      intro rpc' disc _ h
                      obtain ⟨rfl, rfl⟩ := honly rpc' disc h
                      rfl

/-- A conflict is reported after the second answer. -/
theorem laserRegionMismatch_end {port : ScsiPort W} {driveMask discMask : Option UInt8} {s : Sys W}
    (hret : (laserRegionMismatch port driveMask discMask s).1.ret = 1) :
    (laserRegionMismatch port driveMask discMask s).2
      = (readDiscRegionMask port (port.otherThreads (reportRpcState port s).2)).2 := by
  unfold laserRegionMismatch at hret ⊢
  generalize reportRpcState port s = first at hret ⊢
  obtain ⟨_ | rpc, s₁⟩ := first
  · cases hret
  · dsimp only at hret ⊢
    split at hret
    · cases hret
    next hactive =>
    rw [if_neg hactive]
    generalize readDiscRegionMask port (port.otherThreads s₁) = second at hret ⊢
    obtain ⟨_ | diMask, s₂⟩ := second
    · cases hret
    · dsimp only at hret ⊢
      repeat' split
      all_goals rfl

/-! ## On a bus -/

section Bus

variable {σ U : Type} {usb : UsbHost U} {clock : U → Timespec × U} {poll : U → Bool × U} {T : Target σ}
  {view : U → BotDevice σ} {epOut epIn lun : UInt8} {call : CdbCall} {s s' : Sys U} {r : CdbResult}
  {port : ScsiPort U}

theorem getD_take_eight (bytes : List UInt8) {i : Nat} (hi : i < 8) :
    (bytes.take 8).getD i 0 = bytes.getD i 0 := by
  simp [List.getD_eq_getElem?_getD, hi]

theorem RpcState.ofBytes_take (bytes : List UInt8) :
    RpcState.ofBytes (bytes.take 8) = RpcState.ofBytes bytes := by
  unfold ofBytes
  rw [getD_take_eight bytes (show 4 < 8 by decide), getD_take_eight bytes (show 5 < 8 by decide),
    getD_take_eight bytes (show 6 < 8 by decide)]

/-- A call that gave eight bytes did not fail. -/
theorem CdbResult.ne_errIo_of_eight {data : List UInt8} (height : r.eight = some data) :
    r.status ≠ .errIo := by
  intro hst
  rw [eight, hst, if_pos (.inl (by decide))] at height
  cases height

/-- A question of eight bytes. -/
structure CdbCall.OfEight (call : CdbCall) : Prop where
  dataIn : call.dataIn = true
  dataLen : call.dataLen = 8
  wanted : call.wantActualLen = true

/-- Eight bytes that came are the eight that were sent, with status PASS. -/
theorem Returns.eight_truthful (hwired : Wired usb T epOut epIn lun view)
    (hunseen : Unseen clock poll view) (hcall : call.OfEight) (hat : s.At epOut epIn lun view)
    (hret : Returns (Host.ofUsb usb clock poll) call s r s') {data : List UInt8}
    (height : r.eight = some data) :
    ∃ c a earlier, Run (T.Serves lun) (view s.world).target ((call.request, (c, a)) :: earlier)
        (view s'.world).target
      ∧ a.status = usbBotStatusPass ∧ 8 ≤ a.sent.length ∧ data = a.sent.take 8 := by
  unfold CdbResult.eight at height
  split at height
  · cases height
  next hwhole =>
  obtain ⟨hok, hlen⟩ := not_or.mp hwhole
  have hok : r.status = .ok := Decidable.not_not.mp hok
  obtain ⟨c, a, earlier, hrun, hstatus, hreports⟩ := hret.truthful_ok hwired hunseen
    (fun hout => by rw [hcall.dataIn] at hout; cases hout) hat hok
  refine ⟨c, a, earlier, hrun, hstatus, ?_⟩
  cases hrun with
  | step _ hstep =>
      obtain ⟨⟨received, -, hcommand⟩, hstep⟩ := hstep
      obtain rfl : c = call.request.command lun received := hcommand
      have hmeaning := T.meaningful hstep
      have hle : a.count (call.request.command lun received) ≤ 8 := by
        have hle := hmeaning.count_le
        simpa [BotRequest.command, CdbCall.request, hcall.dataLen] using hle
      have hsent := hmeaning.count_le_sent hcall.dataIn
      rw [hreports.count hcall.wanted, Option.getD_some] at hlen
      have hcount : a.count (call.request.command lun received) = 8 := by omega
      have hbytes := hreports.bytes hcall.dataIn
      rw [hcount] at hbytes hsent
      have hstored : 8 ≤ r.data.length := by
        have htake := congrArg List.length hbytes
        simp only [List.length_take] at htake
        omega
      refine ⟨hsent, ?_⟩
      have hdata := (Option.some.inj height).symm
      rw [hdata, ← hbytes, overwrite, List.drop_eq_nil_of_le (by simpa using hstored), List.append_nil,
        List.length_replicate]

/-- **No conflict is made up.** On a bus with a conforming device where a Reset Recovery takes effect,
    whatever fails on the way: the check is exact on the answers it gets; and a conflict is reported on the
    drive's own words, an RPC state and a region mask it passed and sent, of which the first enforces a
    region, the second restricts the disc, and no region is permitted by both. -/
theorem regionMismatch_truthful (hwired : Wired usb T epOut epIn lun view)
    (hunseen : Unseen clock poll view)
    (hruns : ∀ call s, call = reportRpcStateCall ∨ call = readDiscRegionMaskCall →
      s.At epOut epIn lun view →
      ReturnsOrHangs (Host.ofUsb usb clock poll) call s (port.scsiCdb call s).1 (port.scsiCdb call s).2)
    (hothers : ∀ s, s.At epOut epIn lun view → (port.otherThreads s).At epOut epIn lun view)
    (driveMask discMask : Option UInt8) (s : Sys U) (hat : s.At epOut epIn lun view) :
    RegionExact port driveMask discMask s (laserRegionMismatch port driveMask discMask s).1
      ∧ ((laserRegionMismatch port driveMask discMask s).1.ret = 1 →
        ∃ (t : Sys U) (c : Command) (a : Response) (c' : Command) (a' : Response)
            (earlier earlier' : List (BotRequest × (Command × Response))),
          Run (T.Serves lun) (view s.world).target ((reportRpcStateCall.request, (c, a)) :: earlier)
              (view t.world).target
            ∧ Run (T.Serves lun) (view (port.otherThreads t).world).target
              ((readDiscRegionMaskCall.request, (c', a')) :: earlier')
              (view (laserRegionMismatch port driveMask discMask s).2.world).target
            ∧ a.status = usbBotStatusPass ∧ a'.status = usbBotStatusPass
            ∧ 8 ≤ a.sent.length ∧ 8 ≤ a'.sent.length
            ∧ RegionConflict (RpcState.ofBytes a.sent) (a'.sent.getD 5 0)) := by
  have hexact := laserRegionMismatch_exact port driveMask discMask s
  refine ⟨hexact, ?_⟩
  intro hret
  obtain ⟨rpc, disc, ⟨hdrive, hdisc⟩, hconflict⟩ := hexact.conflict.mp hret
  rw [laserRegionMismatch_end hret]
  have hask : reportRpcStateCall.OfEight ∧ readDiscRegionMaskCall.OfEight :=
    ⟨⟨rfl, rfl, rfl⟩, ⟨rfl, rfl, rfl⟩⟩
  obtain ⟨data, height, rfl⟩ := Option.map_eq_some_iff.mp hdrive
  obtain ⟨data', height', rfl⟩ := Option.map_eq_some_iff.mp hdisc
  have hfirst := (hruns _ s (.inl rfl) hat).returned (CdbResult.ne_errIo_of_eight height)
  have hat₁ := hfirst.at_end hwired hunseen (fun hout => by cases hout) hat
  have hat₂ := hothers _ hat₁
  have hsecond := (hruns _ _ (.inr rfl) hat₂).returned (CdbResult.ne_errIo_of_eight height')
  obtain ⟨c, a, earlier, hrun, hstatus, hlen, rfl⟩ :=
    hfirst.eight_truthful hwired hunseen hask.1 hat height
  obtain ⟨c', a', earlier', hrun', hstatus', hlen', rfl⟩ :=
    hsecond.eight_truthful hwired hunseen hask.2 hat₂ height'
  rw [RpcState.ofBytes_take, getD_take_eight a'.sent (by decide)] at hconflict
  exact ⟨_, c, a, c', a', earlier, earlier', hrun, hrun', hstatus, hstatus', hlen, hlen', hconflict⟩

end Bus

/-! ## A drive of region 1 with a disc of region 2 -/

/-- Answers both questions, and refuses anything else. -/
def regionOneDrive (c : Command) (u : Unit) : Response × Unit :=
  if c.dataIn ∧ c.length = 8 then
    (.full (if c.cb.getD 0 0 = 0xA4 then [0, 6, 0, 0, 0x40, 0xFE, 0x01, 0]
      else [0, 6, 0, 0, 1, 0xFD, 0, 0]), u)
  else (.refused c, u)

theorem regionOneDrive_meaningful (c : Command) (u : Unit) (hlen : c.received.length ≤ c.length) :
    (regionOneDrive c u).1.Meaningful c := by
  unfold regionOneDrive
  split
  · next hasked =>
      refine Response.full_meaningful hasked.1 ?_
      rw [hasked.2]
      split <;> rfl
  · exact Response.refused_meaningful hlen

/-- It is a conflict, on what the drive said. -/
theorem regionMismatch_truthful_regionOne :
    let port : ScsiPort (BotDevice Unit) := .ideal regionOneDrive 0x02 0x81
    let s : Sys (BotDevice Unit) :=
      ⟨{ inUse := true, epIn := 0x81, epOut := 0x02, maxTransferBytes := laserMaxBytesPerTransfer },
        ⟨(), .ready, false, false, false⟩, []⟩
    (laserRegionMismatch port (some 0) none s).1 = ⟨1, some 0xFE, none⟩
      ∧ RegionExact port (some 0) none s (laserRegionMismatch port (some 0) none s).1
      ∧ ∃ a a' : Response, a.status = usbBotStatusPass ∧ a'.status = usbBotStatusPass
        ∧ RegionConflict (RpcState.ofBytes a.sent) (a'.sent.getD 5 0) := by
  intro port s
  have hon : s.entry.On 0x02 0x81 0 := ⟨rfl, rfl, rfl⟩
  have hwired : Wired (BotDevice.ideal regionOneDrive 0x02 0x81) (.ofFun _ regionOneDrive_meaningful)
      0x02 0x81 0 id := Wired.ideal regionOneDrive_meaningful hon (by decide) (by decide)
  have hruns : ∀ call s, call = reportRpcStateCall ∨ call = readDiscRegionMaskCall →
      s.At 0x02 0x81 0 id → ReturnsOrHangs (Host.ideal regionOneDrive 0x02 0x81) call s
        (port.scsiCdb call s).1 (port.scsiCdb call s).2 := by
    rintro call s (rfl | rfl) hat
    all_goals
      refine .returns (ScsiPort.ideal_runs hat fun t hvalid hat => ?_)
      have hwell := CdbCall.wellFormed hvalid fun hout => by cases hout
      exact Host.ideal_turn_done hwired hwell hvalid rfl rfl hat fun _ => rfl
  obtain ⟨hexact, hconflict⟩ := regionMismatch_truthful hwired ⟨fun _ => rfl, fun _ => rfl⟩ hruns
    (fun _ hat => hat) (some 0) none s ⟨hon, .inr ⟨rfl, rfl, rfl, rfl⟩⟩
  have hresult : (laserRegionMismatch port (some 0) none s).1 = ⟨1, some 0xFE, none⟩ := by decide
  obtain ⟨-, -, a, -, a', -, -, -, -, hstatus, hstatus', -, -, hmeans⟩ := hconflict (by rw [hresult])
  exact ⟨hresult, hexact, a, a', hstatus, hstatus', hmeans⟩

end Liblaser

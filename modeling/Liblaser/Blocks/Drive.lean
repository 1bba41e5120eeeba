import Liblaser.Scsi.Classified
import Liblaser.Blocks.Exact

/-!
# `Blocks.Drive` — the drive through `laser_scsi_cdb()`

`Blocks.Exact` is about a port: commands that are answered. Here the port is the library's own
`laser_scsi_cdb()` on a drive that is seen through transactions: what holds of every transaction holds
of what the retrying command returns, since `LASER_OK` is given only on the transaction that passed,
with that transaction's count and bytes. **`ScsiPort.Runs.serves`** is the connection.

That a data phase stores no more than was asked for is not assumed of the library's own transport:
`laserBotSendLocked_stored`.
-/

namespace Liblaser

open Bytes Loop

variable {W : Type} {h : Host W} {call : CdbCall} {drive : Drive} {v v' : CdbVars} {s s' t u : Sys W}
  {o : BotOutcome} {sense : Sense}

/-! ## A drive behind transactions -/

/-- What a transaction with the drive may come back with. -/
structure Drive.Transacts (drive : Drive) (req : BotRequest) (reply : BotReply) : Prop where
  stored : reply.data.length ≤ req.dataLen
  passed : reply.outcome = .pass → ∀ kind lba n, decodeRead req.cdb = some (kind, lba, n) →
    req.dataLen = n * kind.blockSize →
    lba + n ≤ drive.capacity ∧ ∃ k ≤ n * kind.blockSize, reply.actualLen = some k ∧
      ∀ i < k, reply.data[i]? = some (drive.byte kind (lba + i / kind.blockSize) (i % kind.blockSize))

/-- A host on such a drive. -/
def Host.Serves (h : Host W) (drive : Drive) : Prop :=
  ∀ entry req w, drive.Transacts req (h.send entry req w).1

/-- The data phase of `bot.c` stores no more than was asked for. -/
theorem dataPhase_stored {U : Type} (h : UsbHost U) (entry : LaserEntry) (req : BotRequest) (t : Nat)
    (b : Bus U) : (dataPhase h entry req t b).2.1.bytes.length ≤ req.dataLen := by
  unfold dataPhase
  split
  · obtain ⟨r, u, heq, -⟩ := b.bulkTransfer_eq h (dataTransfer entry req)
    rw [heq]
    dsimp only
    have hbytes : (if req.dataIn then r.bytes.take req.dataLen else []).length ≤ req.dataLen := by
      split
      · exact List.length_take_le _ _
      · exact Nat.zero_le _
    generalize (if req.dataIn then r.bytes.take req.dataLen else []) = bytes at hbytes
    repeat' split
    all_goals exact hbytes
  · exact Nat.zero_le _

/-- So does the whole transaction, whatever the device and libusb do. -/
theorem laserBotSendLocked_stored {U : Type} (h : UsbHost U) (entry : LaserEntry) (req : BotRequest)
    (u : U) : (laserBotSendLocked h entry req u).1.data.length ≤ req.dataLen := by
  have hconclude : ∀ moved bot csw, (concludeCsw req moved bot csw).data = moved.bytes := by
    intro moved bot csw
    unfold concludeCsw
    dsimp only
    split
    · rfl
    · split <;> rfl
  unfold laserBotSendLocked
  split
  · exact Nat.zero_le _
  · dsimp only
    generalize cbwPhase h entry.nextTag _ ⟨u, []⟩ = c
    obtain ⟨_ | t, b₁⟩ := c
    · exact Nat.zero_le _
    · have hstored := dataPhase_stored h entry.nextTag req t b₁
      dsimp only
      generalize dataPhase h entry.nextTag req t b₁ = d at hstored ⊢
      obtain ⟨_ | o, moved, b₂⟩ := d
      · dsimp only
        generalize cswPhase h entry.nextTag entry.nextTag.bot.tag moved.transferred b₂ = c
        obtain ⟨_ | csw, bot, b₃⟩ := c
        · exact hstored
        · dsimp only
          rw [hconclude]
          exact hstored
      · exact hstored

/-! ## The retrying command on such a drive -/

/-- The transaction of an attempt is one the drive may make. -/
theorem attemptOf_transacts (hserves : h.Serves drive) (call : CdbCall) (s : Sys W) :
    drive.Transacts call.request (attemptOf h call s).1 := hserves _ _ _

/-- What was stored through the caller's pointers fits, before and after one more transaction. -/
theorem CdbVars.store_fits {reply : BotReply} (hfits : v.data.length ≤ call.request.dataLen)
    (hreply : drive.Transacts call.request reply) :
    (v.store reply).data.length ≤ call.request.dataLen := by
  unfold store
  dsimp only
  split
  · exact hfits
  · exact hreply.stored

theorem Asked.fits (hreply : drive.Transacts call.request (attemptOf h call s).1)
    (hasked : Asked h call v s o v' t) (hfits : v.data.length ≤ call.request.dataLen) :
    v'.data.length ≤ call.request.dataLen := by
  rw [hasked.stored]
  exact CdbVars.store_fits hfits hreply

theorem Failed.fits (hreply : drive.Transacts call.request (attemptOf h call s).1)
    (hfailed : Failed h call v s o sense v' t) (hfits : v.data.length ≤ call.request.dataLen) :
    v'.data.length ≤ call.request.dataLen := by
  obtain ⟨v₁, s₁, hasked, rfl, -, -⟩ := hfailed.asked
  have hstored := hasked.fits hreply hfits
  unfold CdbVars.note
  split <;> exact hstored

/-- Every attempt of the command comes back with what the drive may answer. -/
def ServedBy (drive : Drive) (h : Host W) (call : CdbCall) (s : Sys W) : Prop :=
  ∀ n v t, InLoop h call s n v t → drive.Transacts call.request (attemptOf h call t).1

/-- The bytes stored so far fit the buffer, at the start of every turn. -/
theorem InLoop.fits {n : Nat} (hserved : ServedBy drive h call s) (hin : InLoop h call s n v t) :
    v.data.length ≤ call.request.dataLen := by
  apply hin.invariant (I := fun _ v _ => v.data.length ≤ call.request.dataLen)
  · intro k v t v' u hreached hfits hspec
    have hreply := hserved k v t hreached
    cases hspec with
    | mediumReady hfailed _ _ | free hfailed _ _ _ _ _ | late hfailed _ _ _ _ _ _
    | retried hfailed _ _ _ _ =>
        have hkept := hfailed.fits hreply hfits
        exact hkept
  · exact Nat.zero_le _

/-- What was stored when the loop ends with `LASER_OK`. -/
theorem DoneSpec.passed_of_ok (hspec : DoneSpec h call v s v' u) (hv : v.result = .errIo)
    (hok : v'.result = .ok) : (attemptOf h call s).1.outcome = .pass
      ∧ v'.actualLen = (attemptOf h call s).1.actualLen.or v.actualLen
      ∧ v'.data = if (attemptOf h call s).1.data.isEmpty then v.data
          else (attemptOf h call s).1.data := by
  obtain ⟨v₁, t, started, hasked, rfl, -⟩ := hspec.asked_of_ok hv hok
  have hstored := hasked.stored
  refine ⟨hasked.outcome, ?_, ?_⟩
  · exact congrArg CdbVars.actualLen hstored
  · exact congrArg CdbVars.data hstored

theorem DoneSpec.fits (hreply : drive.Transacts call.request (attemptOf h call s).1)
    (hspec : DoneSpec h call v s v' u) (hfits : v.data.length ≤ call.request.dataLen) :
    v'.data.length ≤ call.request.dataLen := by
  cases hspec with
  | exhausted _ => exact hfits
  | cancelled _ _ => exact hfits
  | passed hasked | gone hasked =>
      have hkept := hasked.fits hreply hfits
      exact hkept
  | final hfailed _ =>
      have hkept := hfailed.fits hreply hfits
      exact hkept

/-- The transfer cap is in the frame of a command. -/
theorem Returns.cap {r : CdbResult} (hret : Returns h call s r s') :
    s'.entry.maxTransferBytes = s.entry.maxTransferBytes := by
  obtain ⟨gone, hframe⟩ := hret.frame
  have hcap := congrArg LaserEntry.maxTransferBytes hframe
  exact hcap

/-- **The retrying command answers as the drive does.** -/
theorem Returns.answers {r : CdbResult} (hserved : ServedBy drive h call s)
    (hret : Returns h call s r s') : drive.Answers call r := by
  rcases hret.cases with ⟨st, hcheck, rfl, rfl⟩ | ⟨n, v, t, v', u, hin, hdone, rfl, rfl⟩
  · refine ⟨Nat.zero_le _, ?_⟩
    intro hok
    obtain rfl : st = .ok := hok
    rcases precheck_status hcheck with h | h | h | h <;> cases h
  · have hspec := cdbTurn_done hdone
    have hreply := hserved n v t hin
    refine ⟨hspec.fits hreply (hin.fits hserved), ?_⟩
    intro hok kind lba n hdecode hlen
    obtain ⟨hpass, hactual, hdata⟩ := hspec.passed_of_ok hin.result
      (result_of_conclude (by decide) (by decide) hok)
    have hreq : call.request.dataLen = n * kind.blockSize := by
      simp only [CdbCall.request, hlen, Int.toNat_natCast]
    obtain ⟨hrange, k, hk, hcount, hbytes⟩ := hreply.passed hpass kind lba n hdecode hreq
    refine ⟨hrange, k, hk, ?_, ?_⟩
    · show v'.actualLen = some k
      rw [hactual, hcount]
      rfl
    · intro i hi
      have hbyte := hbytes i hi
      show v'.data[i]? = _
      -- the transaction stored something, so it is its bytes that are there
      rw [hdata, if_neg, hbyte]
      intro hempty
      rw [List.isEmpty_iff.mp hempty] at hbyte
      cases hbyte

/-! ## The port -/

/-- What a port gives for a command over this host: what the call returns. A call that never returns would
    keep its caller for ever; a plain failure stands in for it. -/
inductive ReturnsOrHangs (h : Host W) (call : CdbCall) (s : Sys W) : CdbResult → Sys W → Prop where
  | returns {r : CdbResult} {s' : Sys W} (hret : Returns h call s r s') : ReturnsOrHangs h call s r s'
  | hangs (hnever : ∀ r s', ¬ Returns h call s r s') : ReturnsOrHangs h call s ⟨.errIo, none, []⟩ s

section

variable {r : CdbResult}

/-- A call that returns gives what it returns. -/
theorem ReturnsOrHangs.unique {r' : CdbResult} {s'' : Sys W} (hgiven : ReturnsOrHangs h call s r' s'')
    (hret : Returns h call s r s') : r' = r ∧ s'' = s' := by
  cases hgiven with
  | returns hret' => exact hret'.unique hret
  | hangs hnever => exact absurd hret (hnever r s')

/-- A status other than a plain failure is one the call returns. -/
theorem ReturnsOrHangs.returned (hgiven : ReturnsOrHangs h call s r s') (hst : r.status ≠ .errIo) :
    Returns h call s r s' := by
  cases hgiven with
  | returns hret => exact hret
  | hangs _ => exact absurd rfl hst

theorem ReturnsOrHangs.cap (hgiven : ReturnsOrHangs h call s r s') :
    s'.entry.maxTransferBytes = s.entry.maxTransferBytes := by
  cases hgiven with
  | returns hret => exact hret.cap
  | hangs _ => rfl

theorem ReturnsOrHangs.answers (hserved : ServedBy drive h call s)
    (hgiven : ReturnsOrHangs h call s r s') : drive.Answers call r := by
  cases hgiven with
  | returns hret => exact hret.answers hserved
  | hangs _ => exact ⟨Nat.zero_le _, fun hok => by cases hok⟩

end

/-- The port is `laser_scsi_cdb()` over this host. -/
def ScsiPort.Runs (port : ScsiPort W) (h : Host W) : Prop :=
  ∀ call s, ReturnsOrHangs h call s (port.scsiCdb call s).1 (port.scsiCdb call s).2

open Classical in
/-- There is one over every host, here with no other threads. -/
noncomputable def ScsiPort.ofHost (h : Host W) : ScsiPort W where
  scsiCdb call s :=
    if hret : ∃ p : CdbResult × Sys W, Returns h call s p.1 p.2 then hret.choose
    else (⟨.errIo, none, []⟩, s)
  otherThreads s := s

theorem ScsiPort.ofHost_runs (h : Host W) : (ScsiPort.ofHost h).Runs h := by
  intro call s
  unfold ofHost
  dsimp only
  split
  · next hret => exact .returns hret.choose_spec
  · next hnever => exact .hangs fun r s' hret => hnever ⟨(r, s'), hret⟩

/-- **The port of a drive.** -/
theorem ScsiPort.Runs.serves {port : ScsiPort W} (hruns : port.Runs h) (hserves : h.Serves drive)
    (hothers : ∀ s, (port.otherThreads s).entry.maxTransferBytes ≤ s.entry.maxTransferBytes) :
    port.Serves drive where
  answers call s := (hruns call s).answers fun _ _ t _ => attemptOf_transacts hserves call t
  scsiCdb_cap call s := Nat.le_of_eq (hruns call s).cap
  otherThreads_cap := hothers

end Liblaser

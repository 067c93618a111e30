/-
# Firmware updates of the driver

`FirmwareUpdate` checks every read of the firmware file; `DriverOps` has the update in its place
among the driver's operations, without these checks.  Here the two are connected: performed by
the driver, the checked program is the driver's (`run_elanUpdateFirmwareOnce`), as long as the
plan stays in the file.

That it does follows from an invariant of the driver.  Whatever the transport answers, the page
size, the number of pages and the address of the signature always belong to one controller type
(`FwLayout`), also after updates and recoveries that have failed half-way; and a file that is
long enough for the signature is then long enough for every page.  The handler checks its file
before it takes the mutex, so this holds as long as no other update stores a layout in between
(`accepted_update_defined`), and not otherwise (`other_update_in_between`).
-/
import ElanGuardian.DriverSteps
import ElanGuardian.FirmwareUpdate

open Prog ElanCore ReportShim Transport Interrupt
open Dialogue (inProg)

namespace FirmwareBounds

open Driver TransportOps

/-- What the driver knows about the layout of the controller's memory. -/
def fwInfo (data : Drv) : FwInfo :=
  ⟨data.fwValidpageCount, data.fwSignatureAddress, data.fwPageSize⟩

/-! ## The transport operations as the driver performs them -/

section Serve

variable {α : Type}

def statusOf (x : DrvM ℤ) : DrvM (Except ℤ Unit) := do
  let error ← x
  pure (if error ≠ 0 then .error error else .ok ())

def answerOf (x : DrvM Reply) (out : Reply → α) : DrvM (Except ℤ α) := do
  let reply ← x
  pure (if reply.status ≠ 0 then .error reply.status else .ok (out reply))

/-- The calls through `data->ops`, on the transport `ops` and in a function that calls
`set_mode` at `site`. -/
def serve (ops : Bus) (site : Site) : (op : TransportOps.Op) → DrvM op.Answer
  | .initializeDevice => statusOf (callStatus .initializeDevice)
  | .sleepControl sleep => statusOf (callStatus (.sleepControl sleep))
  | .powerControl enable => statusOf (callStatus (.powerControl enable))
  | .setMode mode => do
    emit (.setMode site mode)
    statusOf askStatus
  | .healthCheck => statusOf (callStatus .healthCheck)
  | .calibrate => statusOf (callStatus .calibrate)
  | .calibrateResult => answerOf (call .calibrateResult) fun reply => (reply.out 0).toUInt8
  | .getBaselineData maxBaseline =>
    answerOf (call (.getBaselineData maxBaseline)) fun reply => (reply.out 0).toUInt8
  | .getVersion _ iap => answerOf (call (.getVersion iap)) fun reply => (reply.out 0).toUInt8
  | .getSmVersion _ => do
    let reply ← call .getSmVersion
    pure ⟨reply.status, some (reply.out 0).toUInt16, some (reply.out 1).toUInt8,
      some (reply.out 2).toUInt8⟩
  | .getChecksum iap => answerOf (call (.getChecksum iap)) fun reply => (reply.out 0).toUInt16
  | .getProductId => answerOf (call .getProductId) fun reply => (reply.out 0).toUInt16
  | .getMax => do
    let reply ← call .getMax
    pure ⟨reply.status, some (reply.out 0), some (reply.out 1)⟩
  | .getResolution =>
    answerOf (call .getResolution) fun reply => ((reply.out 0).toUInt8, (reply.out 1).toUInt8)
  | .getNumTraces => answerOf (call .getNumTraces) fun reply => (reply.out 0, reply.out 1)
  | .iapGetMode => answerOf ask fun reply => if reply.out 0 = 1 then .iapMode else .mainMode
  | .iapReset => statusOf (callStatus .iapReset)
  | .prepareFwUpdate _ _ _ => statusOf (callStatus .prepareFwUpdate)
  | .writeFwBlock _ _ checksum idx => statusOf (callStatus (.writeFwBlock checksum idx))
  | .finishFwUpdate => statusOf (finishFwUpdate ops)
  | .getPressureAdjustment =>
    answerOf (call .getPressureAdjustment) fun reply => (reply.out 0).toInt32
  | .getPattern => answerOf (call .getPattern) fun reply => (reply.out 0).toUInt8

end Serve

/-- The number that C returns, where it returns one. -/
def retval {α : Type} : Except FirmwareUpdate.Stop α → ℤ
  | .ok _ => 0
  | .error (.status error) => error
  | .error _ => 0

/-- The checked program, performed by the driver. -/
def performed {α : Type} (ops : Bus) (site : Site)
    (p : Dialogue Ops (Except FirmwareUpdate.Stop α)) : DrvM ℤ :=
  inProg (serve ops site) p >>= fun r => pure (retval r)

section Performed

open FirmwareUpdate (stopping computed)

variable {α : Type} {ops : Bus} {site : Site}

/-- A status is an error just if it is not zero. -/
theorem statusOf_bind {β : Type} (x : DrvM ℤ) (f : Except ℤ Unit → DrvM β) :
    statusOf x >>= f = x >>= fun error => if error ≠ 0 then f (.error error) else f (.ok ()) := by
  rw [statusOf, bind_assoc]
  refine bind_congr fun error => ?_
  rw [pure_bind]
  split_ifs <;> rfl

theorem performed_computed {a : α}
    {f : α → Dialogue Ops (Except FirmwareUpdate.Stop Unit)} :
    performed ops site ((computed (.ok a)).orReturn f) = performed ops site (f a) := rfl

/-- A call that only has a status. -/
theorem performed_status {X : Dialogue Ops (Except ℤ Unit)} {x : DrvM ℤ}
    (hx : inProg (serve ops site) X = statusOf x)
    {f : Unit → Dialogue Ops (Except FirmwareUpdate.Stop Unit)} :
    performed ops site ((stopping X).orReturn f)
      = x >>= fun error => if error ≠ 0 then pure error else performed ops site (f ()) := by
  rw [performed, Dialogue.orReturn, stopping, Dialogue.inProg_bind, Dialogue.inProg_bind, hx,
    bind_assoc, bind_assoc, statusOf_bind]
  refine bind_congr fun error => ?_
  split_ifs <;> rfl

/-- A call with an out-parameter. -/
theorem performed_answer {X : Dialogue Ops (Except ℤ α)} {x : DrvM Reply} {out : Reply → α}
    (hx : inProg (serve ops site) X = answerOf x out)
    {f : α → Dialogue Ops (Except FirmwareUpdate.Stop Unit)} :
    performed ops site ((stopping X).orReturn f) = x >>= fun reply =>
      if reply.status ≠ 0 then pure reply.status else performed ops site (f (out reply)) := by
  rw [performed, Dialogue.orReturn, stopping, Dialogue.inProg_bind, Dialogue.inProg_bind, hx,
    bind_assoc, bind_assoc, answerOf, bind_assoc]
  refine bind_congr fun reply => ?_
  rw [pure_bind]
  split_ifs <;> rfl

/-- A bounded retry of a call. -/
theorem inProg_retry {X : Dialogue Ops (Except ℤ Unit)} {x : DrvM ℤ}
    (hx : inProg (serve ops site) X = statusOf x) (extra : ℕ) :
    inProg (serve ops site) (Dialogue.retry X extra)
      = statusOf (retry (fun error => error = 0) x extra) := by
  induction extra with
  | zero => exact hx
  | succ extra ih =>
    rw [Dialogue.retry, Dialogue.inProg_bind, hx, statusOf_bind, statusOf, retry, bind_assoc]
    refine bind_congr fun error => ?_
    by_cases herror : error = 0
    · subst herror
      rfl
    · rw [if_pos herror, if_neg (by simpa using herror)]
      exact ih

/-- **The page loop**, checked or not. -/
theorem performed_writePages {fw : List UInt8} {pageSize : UInt16} {i n : ℕ}
    {swChecksum : UInt16} {f : UInt16 → Dialogue Ops (Except FirmwareUpdate.Stop Unit)}
    (hfile : ∀ idx, i ≤ idx → idx < i + n →
      idx * pageSize.toNat + 2 * ((pageSize.toNat + 1) / 2) ≤ fw.length) :
    performed ops site ((FirmwareUpdate.writePages fw pageSize i swChecksum n).orReturn f)
      = writePages fw pageSize.toNat i swChecksum n >>= fun written =>
        if written.1 ≠ 0 then pure written.1 else performed ops site (f written.2) := by
  induction n generalizing i swChecksum with
  | zero => rfl
  | succ n ih =>
    have hpage : FirmwareUpdate.addWords fw (i * pageSize.toNat) 0 ((pageSize.toNat + 1) / 2)
        = .ok (pageChecksum fw (i * pageSize.toNat) pageSize.toNat) := by
      rw [FirmwareUpdate.addWords_eq, if_pos (Or.inr (hfile i le_rfl (by omega)))]
      rfl
    have hwrite (page : List UInt8) (checksum : UInt16) : inProg (serve ops site)
        (FirmwareUpdate.elanWriteFwBlock pageSize page checksum i)
        = statusOf (elanWriteFwBlock checksum i) :=
      inProg_retry (Dialogue.inProg_call _) etpRetries
    rw [FirmwareUpdate.writePages, hpage, Dialogue.orReturn_assoc, performed_computed,
      Dialogue.orReturn_assoc, performed_status (hwrite _ _), writePages, bind_assoc]
    refine bind_congr fun error => ?_
    by_cases herror : error ≠ 0
    · rw [if_pos herror, if_pos herror, pure_bind, if_pos herror]
    · rw [if_neg herror, if_neg herror]
      exact ih fun idx hlo hhi => hfile idx (by omega) (by omega)

/-- The end of an update, performed by the driver. -/
theorem performed_verifyChecksum (swChecksum : UInt16) :
    performed ops site (FirmwareUpdate.verifyChecksum swChecksum) = (do
      let error ← finishFwUpdate ops
      if error ≠ 0 then pure error
      else do
        let fwChecksum ← call (.getChecksum true)
        if fwChecksum.status ≠ 0 then pure fwChecksum.status
        else pure (if swChecksum ≠ (fwChecksum.out 0).toUInt16 then eio else 0)) := by
  refine (performed_status (Dialogue.inProg_call _)).trans (bind_congr fun error => ?_)
  refine if_congr Iff.rfl rfl ((performed_answer (Dialogue.inProg_call _)).trans ?_)
  refine bind_congr fun reply => if_congr Iff.rfl rfl ?_
  split_ifs <;> rfl

/-- The update behind `prepare_fw_update`, for a driver that knows this layout. -/
def afterPrepare (ops : Bus) (fw : List UInt8) (info : FwInfo) : DrvM ℤ := do
  let bootPageCount :=
    UInt16.ofNat ((le16 fw etpIapStartOffset).toNat * 2 / info.pageSize.toNat)
  let written ← writePages fw info.pageSize.toNat bootPageCount.toNat 0
    (info.validpageCount.toNat - bootPageCount.toNat)
  if written.1 ≠ 0 then pure written.1
  else do
    let error ← finishFwUpdate ops
    if error ≠ 0 then pure error
    else do
      let fwChecksum ← call (.getChecksum true)
      if fwChecksum.status ≠ 0 then pure fwChecksum.status
      else pure (if written.2 ≠ (fwChecksum.out 0).toUInt16 then eio else 0)

/-- What the update reads from `data` is not touched by its first call. -/
theorem run_elanUpdateFirmwareOnce_read (fw : List UInt8) (data : Drv) :
    run (elanUpdateFirmwareOnce fw) data = run (do
      let error ← callStatus .prepareFwUpdate
      if error ≠ 0 then pure error else afterPrepare data.ops fw (fwInfo data)) data := by
  refine run_bind_congr ?_
  have hinfo : fwInfo (run (callStatus .prepareFwUpdate) data).state = fwInfo data := rfl
  have hops : (run (callStatus .prepareFwUpdate) data).state.ops = data.ops := rfl
  by_cases herror : (run (callStatus .prepareFwUpdate) data).value ≠ 0
  · rw [if_pos herror, if_pos herror]
  · rw [if_neg herror, if_neg herror, run_get_bind, ← hinfo, ← hops]
    rfl

/-- **The driver performs the checked program**: for a plan that stays in the file, the update
of the operations' model is the checked one. -/
theorem run_elanUpdateFirmwareOnce (site : Site) (fw : List UInt8) (data : Drv)
    (hfile : FirmwareUpdate.Plan.InFile ⟨fw, data.icType, data.iapVersion, fwInfo data⟩) :
    run (elanUpdateFirmwareOnce fw) data = run (performed data.ops site
      (FirmwareUpdate.elanUpdateFirmwareOnce fw data.icType data.iapVersion (fwInfo data)))
      data := by
  have hsize : (fwInfo data).pageSize ≠ 0 := hfile.pageSize
  rw [run_elanUpdateFirmwareOnce_read]
  congr 1
  refine ((performed_status (Dialogue.inProg_call _)).trans (bind_congr fun error =>
    if_congr Iff.rfl rfl ?_)).symm
  rw [FirmwareUpdate.getUnalignedLe16_eq, if_pos hfile.startAddr, performed_computed,
    FirmwareUpdate.bootPageCount, if_neg hsize, performed_computed, performed_writePages]
  · simp only [performed_verifyChecksum]
    rfl
  · intro idx hlo hhi
    refine hfile.pages idx hlo ?_
    have hhi : idx < _ + ((fwInfo data).validpageCount.toNat - _) := hhi
    show idx < (fwInfo data).validpageCount.toNat
    omega

end Performed

/-! ## The layout of the controller's memory -/

/-- The layout belongs to some controller type, known or not. -/
def FwLayout (data : Drv) : Prop :=
  ∃ icType iapVersion, fwInfo data = (elanGetFwinfo icType iapVersion).2

/-- Only `elan_query_device_info` stores a layout. -/
theorem fwInfo_of_stores {data data' : Drv} (hstep : Stores data data') :
    fwInfo data' = fwInfo data := by
  cases hstep <;> rfl

/-- And it stores all of it. -/
theorem fwLayout_of_writes {data data' : Drv} (hstep : Writes data data') (h : FwLayout data) :
    FwLayout data' := by
  cases hstep with
  | store hstore =>
    rw [FwLayout, fwInfo_of_stores hstore]
    exact h
  | deviceInfo => exact ⟨_, _, rfl⟩

/-- There are eight numbers of pages. -/
theorem mem_of_validpageCount {icType count : UInt16} (h : validpageCount icType = some count) :
    count ∈ ([512, 768, 896, 640, 1024, 1280, 2048, 2032] : List UInt16) := by
  unfold validpageCount at h
  split_ifs at h <;> cases h <;> decide

/-- The pages of a layout end with the signature, and the page size fits the page loop. -/
structure Fits (info : FwInfo) : Prop where
  pageSize : info.pageSize ≠ 0
  even : info.pageSize.toNat % 2 = 0
  pages : info.validpageCount.toNat * info.pageSize.toNat
    = info.signatureAddress.toNat + signature.length
  startAddr : etpIapStartOffset + 1 < info.signatureAddress.toNat + signature.length

instance (info : FwInfo) : Decidable (Fits info) :=
  decidable_of_iff (info.pageSize ≠ 0 ∧ info.pageSize.toNat % 2 = 0
      ∧ info.validpageCount.toNat * info.pageSize.toNat
        = info.signatureAddress.toNat + signature.length
      ∧ etpIapStartOffset + 1 < info.signatureAddress.toNat + signature.length)
    ⟨fun h => ⟨h.1, h.2.1, h.2.2.1, h.2.2.2⟩, fun h => ⟨h.1, h.2, h.3, h.4⟩⟩

/-- Every layout that is known fits its signature. -/
theorem elanGetFwinfo_fits {icType : UInt16} {iapVersion : UInt8}
    (h : (elanGetFwinfo icType iapVersion).2.validpageCount ≠ 0) :
    Fits (elanGetFwinfo icType iapVersion).2 := by
  unfold elanGetFwinfo at h ⊢
  cases hcount : validpageCount icType with
  | none =>
    rw [hcount] at h
    exact absurd rfl h
  | some count =>
    have hmem := mem_of_validpageCount hcount
    simp only [List.mem_cons, List.not_mem_nil, or_false] at hmem
    -- eight page counts, and three page sizes for each of them
    rcases hmem with rfl | rfl | rfl | rfl | rfl | rfl | rfl | rfl <;> dsimp only <;>
      split_ifs <;> decide

/-- A file that is long enough for the signature is long enough for every page. -/
theorem inFile_of_fits {p : FirmwareUpdate.Plan} (hfits : Fits p.info)
    (hsize : p.info.signatureAddress.toNat + signature.length ≤ p.fw.length) : p.InFile := by
  refine ⟨hfits.startAddr.trans_le hsize, hfits.pageSize, fun idx _ hidx => ?_⟩
  have heven := hfits.even
  have hwords : 2 * ((p.info.pageSize.toNat + 1) / 2) = p.info.pageSize.toNat := by omega
  calc idx * p.info.pageSize.toNat + 2 * ((p.info.pageSize.toNat + 1) / 2)
      = (idx + 1) * p.info.pageSize.toNat := by rw [hwords, Nat.succ_mul]
    _ ≤ p.info.validpageCount.toNat * p.info.pageSize.toNat := Nat.mul_le_mul_right _ hidx
    _ ≤ p.fw.length := hfits.pages.trans_le hsize

/-! ## The handler's checks and its update -/

/-- Any interleaving of the stores of the driver's operations. -/
abbrev Interleaved : Drv → Drv → Prop := Relation.ReflTransGen Writes

/-- The same with no store of a layout: no firmware update comes to its end meanwhile. -/
abbrev NoUpdate : Drv → Drv → Prop := Relation.ReflTransGen Stores

/-- Whatever the other operations store meanwhile, the layout stays. -/
theorem fwInfo_of_noUpdate {data data' : Drv} (h : NoUpdate data data') :
    fwInfo data' = fwInfo data := by
  induction h with
  | refl => rfl
  | tail _ hstep ih => rw [fwInfo_of_stores hstep, ih]

/-- At any time the driver knows the layout of some controller type. -/
theorem fwLayout_of_interleaved {bus : Bus} {replies : ℕ → Reply} {data : Drv}
    (h : Interleaved (zeroed bus replies) data) : FwLayout data := by
  induction h with
  | refl => exact ⟨1, 0, rfl⟩
  | tail _ hstep ih => exact fwLayout_of_writes hstep ih

/-- **A firmware update never reads outside its file**, as long as no other one gets in between.
`elan_sysfs_update_fw` looks at the number of pages, then at the address of the signature, and
only then takes the mutex; whatever the operations of the driver have stored before, in any
interleaving and with any answers of the transport, and whatever all but a firmware update store
between these three points: a file that is accepted gives an update without a read behind its end
and without a division by zero, whatever the transport answers now; and the update that the
driver runs is this checked one. -/
theorem accepted_update_defined (bus : Bus) (replies : ℕ → Reply) (counted sized locked : Drv)
    (fw : List UInt8) (hbefore : Interleaved (zeroed bus replies) counted)
    (hcount : counted.fwValidpageCount ≠ 0) (hfile : NoUpdate counted sized)
    (hsize : sized.fwSignatureAddress.toNat + signature.length ≤ fw.length)
    (hlock : NoUpdate sized locked) :
    Dialogue.Yields FirmwareUpdate.Defined (FirmwareUpdate.elanUpdateFirmwareOnce fw
        locked.icType locked.iapVersion (fwInfo locked))
      ∧ ∀ site, run (elanUpdateFirmwareOnce fw) locked = run (performed locked.ops site
          (FirmwareUpdate.elanUpdateFirmwareOnce fw locked.icType locked.iapVersion
            (fwInfo locked))) locked := by
  have hsized : fwInfo sized = fwInfo counted := fwInfo_of_noUpdate hfile
  have hlocked : fwInfo locked = fwInfo sized := fwInfo_of_noUpdate hlock
  obtain ⟨icType, iapVersion, hinfo⟩ := fwLayout_of_interleaved hbefore
  have hfits : Fits (fwInfo locked) := by
    rw [hlocked, hsized, hinfo]
    exact elanGetFwinfo_fits (by rw [← hinfo]; exact hcount)
  have hin : FirmwareUpdate.Plan.InFile
      ⟨fw, locked.icType, locked.iapVersion, fwInfo locked⟩ := by
    refine inFile_of_fits hfits ?_
    show (fwInfo locked).signatureAddress.toNat + _ ≤ _
    rw [hlocked]
    exact hsize
  exact ⟨(FirmwareUpdate.elanUpdateFirmwareOnce_defined_iff _).mpr hin,
    fun site => run_elanUpdateFirmwareOnce site fw locked hin⟩

/-- Probe has found a controller of type 0, whose firmware has 512 pages of 64 bytes. -/
def typeZero : Drv := (probed .i2c allSucceed).data

/-- Probe is one of the interleavings. -/
theorem typeZero_interleaved : Interleaved (zeroed .i2c allSucceed) typeZero :=
  elanProbe_writes _

/-- A file of that size is accepted, and its update is defined. -/
theorem accepted_update_defined_zero :
    Dialogue.Yields FirmwareUpdate.Defined (FirmwareUpdate.elanUpdateFirmwareOnce
      (List.replicate 32768 0) 0 0 ⟨512, 32762, 64⟩) :=
  (accepted_update_defined .i2c allSucceed typeZero typeZero typeZero (List.replicate 32768 0)
    typeZero_interleaved (by decide) .refl (by rw [List.length_replicate]; decide) .refl).1

/-- The end of another update, after which the controller says that it is of type 13 and has 448
pages of 128 bytes. -/
def updated : Drv :=
  (run (afterUpdate 0) { typeZero with replies := fun _ => ⟨0, fun _ => 13⟩ }).state

/-- What a second update stores is one of the interleavings. -/
theorem typeZero_updated : Interleaved typeZero updated :=
  (Relation.ReflTransGen.single (.store (.replies _ _))).trans (afterUpdate_writes 0 _)

/-- Its last page is not in a file for the controller that it was before. -/
theorem updated_not_inFile : ¬ FirmwareUpdate.Plan.InFile
    ⟨List.replicate 32768 0, updated.icType, updated.iapVersion, fwInfo updated⟩ := by
  have hbyte (k : ℕ) : (List.replicate 32768 (0 : UInt8)).getD k 0 = 0 := by
    rw [List.getD_eq_getElem?_getD, List.getElem?_replicate]
    split_ifs <;> rfl
  have hword : le16 (List.replicate 32768 0) etpIapStartOffset = 0 := by
    rw [le16, hbyte, hbyte]
    rfl
  intro h
  have hlast := h.pages 447 (by rw [FirmwareUpdate.Plan.boot, hword]; decide) (by decide)
  rw [List.length_replicate] at hlast
  exact absurd hlast (by decide)

/-- **Another update in between breaks it.**  The checks are made before the mutex is taken: an
update that comes to its end after them, and stores a larger layout, makes the update of an
accepted file read behind its end. -/
theorem other_update_in_between :
    Interleaved (zeroed .i2c allSucceed) typeZero ∧ typeZero.fwValidpageCount ≠ 0
      ∧ typeZero.fwSignatureAddress.toNat + signature.length
        ≤ (List.replicate 32768 (0 : UInt8)).length
      ∧ Interleaved typeZero updated
      ∧ ¬ Dialogue.Yields FirmwareUpdate.Defined (FirmwareUpdate.elanUpdateFirmwareOnce
          (List.replicate 32768 0) updated.icType updated.iapVersion (fwInfo updated)) := by
  refine ⟨typeZero_interleaved, by decide, by rw [List.length_replicate]; decide,
    typeZero_updated, fun h => updated_not_inFile ?_⟩
  exact (FirmwareUpdate.elanUpdateFirmwareOnce_defined_iff _).mp h

end FirmwareBounds

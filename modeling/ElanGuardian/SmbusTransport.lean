/-
# The SMBus transport

`elan_smbus_ops` of `elan_i2c_smbus.c`: every transport operation as a dialogue with the SMBus.
The bus may answer anything; a block that is read has at most 32 bytes, and the buffer behind
it is zero.  A block that is written has at most 32 bytes as well: `i2c_smbus_write_block_data`
takes its length as a `u8` and cuts it off there.

Nothing is assumed of the controller.  What an update does is said of the transcript of the bus:
which bytes and blocks may be sent after which answers (`Safe`), and which pages have got through
with no error in the control register right after (`acknowledged`).  A page goes out in two
blocks, so a page of 64 bytes goes out as a whole, and a larger one does not
(`elanUpdateFirmwareOnce_smbus_whole_iff`).
-/
import ElanGuardian.FirmwareUpdate
import ElanGuardian.Transcript

open ElanCore Transport TransportOps Dialogue
open Driver (enxio)

namespace SmbusTransport

def etpSmbusIapCmd : UInt8 := 0x00
def etpSmbusEnableTp : UInt8 := 0x20
def etpSmbusSleepCmd : UInt8 := 0x21
def etpSmbusIapPasswordWrite : UInt8 := 0x29
def etpSmbusIapPasswordRead : UInt8 := 0x80
def etpSmbusWriteFwBlock : UInt8 := 0x2a
def etpSmbusIapResetCmd : UInt8 := 0x2b
def etpSmbusRangeCmd : UInt8 := 0xa0
def etpSmbusFwVersionCmd : UInt8 := 0xa1
def etpSmbusXyTracenumCmd : UInt8 := 0xa2
def etpSmbusSmVersionCmd : UInt8 := 0xa3
def etpSmbusUniqueidCmd : UInt8 := 0xa3
def etpSmbusResolutionCmd : UInt8 := 0xa4
def etpSmbusHellopacketCmd : UInt8 := 0xa7
def etpSmbusIapVersionCmd : UInt8 := 0xac
def etpSmbusIapCtrlCmd : UInt8 := 0xad
def etpSmbusIapChecksumCmd : UInt8 := 0xae
def etpSmbusFwChecksumCmd : UInt8 := 0xaf
def etpSmbusMaxBaselineCmd : UInt8 := 0xc3
def etpSmbusMinBaselineCmd : UInt8 := 0xc4
def etpSmbusCalibrateQuery : UInt8 := 0xc5
def etpSmbusHellopacketLen : ℕ := 5
def etpSmbusIapPassword : UInt16 := 0x1234
def etpSmbusIapModeOn : UInt16 := 0x0040

/-! ## The bus -/

/-- The kernel functions that the transport calls. -/
inductive Wire where
  | writeByte (value : UInt8)
  /-- a block of these bytes, as it goes over the bus -/
  | writeBlock (command : UInt8) (bytes : List UInt8)
  | readBlock (command : UInt8)
  | msleep (msecs : ℕ)
  | usleepRange (low high : ℕ)

def Wire.Answer : Wire → Type
  | .writeByte _ => ℤ
  | .writeBlock _ _ => ℤ
  | .readBlock _ => SmbusBlock
  | _ => Unit

abbrev SmbusBus : Interface := ⟨Wire, Wire.Answer⟩

/-- What goes over the bus of `length` bytes: the length is a `u8`, of at most 32. -/
def blockBytes (length : ℕ) (values : List UInt8) : List UInt8 :=
  values.take (min (length % 256) i2cSmbusBlockMax)

/-- A status other than zero is an error. -/
def statusOf (error : ℤ) : Except ℤ Unit := if error ≠ 0 then .error error else .ok ()

def i2cSmbusWriteByte (value : UInt8) : Dialogue SmbusBus (Except ℤ Unit) := do
  let error ← call (I := SmbusBus) (.writeByte value)
  pure (statusOf error)

def i2cSmbusWriteBlockData (command : UInt8) (length : ℕ) (values : List UInt8) :
    Dialogue SmbusBus (Except ℤ Unit) := do
  let error ← call (I := SmbusBus) (.writeBlock command (blockBytes length values))
  pure (statusOf error)

/-- `i2c_smbus_read_block_data` into a buffer of zeros: the length, and the buffer. -/
def i2cSmbusReadBlockData (command : UInt8) : Dialogue SmbusBus (ℤ × Mem) := do
  let xfer : SmbusBlock ← call (I := SmbusBus) (.readBlock command)
  pure (xfer.len, overlay (fun _ => 0) 0 xfer.written)

def msleep (msecs : ℕ) : Dialogue SmbusBus Unit := call (I := SmbusBus) (.msleep msecs)

def usleepRange (low high : ℕ) : Dialogue SmbusBus Unit :=
  call (I := SmbusBus) (.usleepRange low high)

/-- A block of any length, `error < 0` being the only failure. -/
def readBlock (command : UInt8) : Dialogue SmbusBus (Except ℤ Mem) := do
  let read ← i2cSmbusReadBlockData command
  pure (if read.1 < 0 then .error read.1 else .ok read.2)

/-- A block of exactly `len` bytes. -/
def readBlockExactly (command : UInt8) (len : ℕ) : Dialogue SmbusBus (Except ℤ Mem) := do
  let read ← i2cSmbusReadBlockData command
  pure (if read.1 ≠ len then .error (if read.1 < 0 then read.1 else eio) else .ok read.2)

/-! ## Device control -/

def elanSmbusInitialize : Dialogue SmbusBus (Except ℤ Unit) :=
  (readBlockExactly etpSmbusHellopacketCmd etpSmbusHellopacketLen).orReturn fun values =>
    if (List.range etpSmbusHellopacketLen).any fun i => values i ≠ 0x55 then
      pure (.error enxio)
    else i2cSmbusWriteByte etpSmbusEnableTp

def elanSmbusSetMode (mode : UInt8) : Dialogue SmbusBus (Except ℤ Unit) :=
  i2cSmbusWriteBlockData etpSmbusIapCmd 4 [0x00, 0x07, 0x00, mode]

def elanSmbusHealthCheck : Dialogue SmbusBus (Except ℤ Unit) := i2cSmbusWriteByte etpSmbusEnableTp

def elanSmbusSleepControl (sleep : Bool) : Dialogue SmbusBus (Except ℤ Unit) :=
  if sleep then i2cSmbusWriteByte etpSmbusSleepCmd else pure (.ok ())

def elanSmbusPowerControl (_enable : Bool) : Dialogue SmbusBus (Except ℤ Unit) := pure (.ok ())

def elanSmbusCalibrate : Dialogue SmbusBus (Except ℤ Unit) :=
  i2cSmbusWriteBlockData etpSmbusIapCmd 4 [0x00, 0x08, 0x00, 0x01]

def elanSmbusCalibrateResult : Dialogue SmbusBus (Except ℤ UInt8) :=
  (readBlock etpSmbusCalibrateQuery).orReturn fun buf => pure (.ok (buf 0))

/-! ## Queries -/

def elanSmbusGetBaselineData (maxBaseline : Bool) : Dialogue SmbusBus (Except ℤ UInt8) :=
  (readBlock (if maxBaseline then etpSmbusMaxBaselineCmd else etpSmbusMinBaselineCmd)).orReturn
    fun val => pure (.ok (be16ToCpup val).toUInt8)

def elanSmbusGetVersion (iap : Bool) : Dialogue SmbusBus (Except ℤ UInt8) :=
  (readBlock (if iap then etpSmbusIapVersionCmd else etpSmbusFwVersionCmd)).orReturn
    fun val => pure (.ok (val 2))

def elanSmbusGetSmVersion : Dialogue SmbusBus SmVersion := do
  match ← readBlock etpSmbusSmVersionCmd with
  | .error error => pure ⟨error, none, none, none⟩
  | .ok val => pure ⟨0, some (val 1).toUInt16, some (val 0), some (val 0 &&& 0x10)⟩

def elanSmbusGetProductId : Dialogue SmbusBus (Except ℤ UInt16) :=
  (readBlock etpSmbusUniqueidCmd).orReturn fun val => pure (.ok (be16ToCpup val))

def elanSmbusGetChecksum (iap : Bool) : Dialogue SmbusBus (Except ℤ UInt16) :=
  (readBlock (if iap then etpSmbusFwChecksumCmd else etpSmbusIapChecksumCmd)).orReturn
    fun val => pure (.ok (be16ToCpup val))

def elanSmbusGetMax : Dialogue SmbusBus MaxAxes := do
  match ← readBlockExactly etpSmbusRangeCmd 3 with
  | .error error => pure ⟨error, none, none⟩
  | .ok val => pure ⟨0, some ((0x0f &&& (val 0).toUInt32) <<< 8 ||| (val 1).toUInt32),
      some ((0xf0 &&& (val 0).toUInt32) <<< 4 ||| (val 2).toUInt32)⟩

def elanSmbusGetResolution : Dialogue SmbusBus (Except ℤ (UInt8 × UInt8)) :=
  (readBlockExactly etpSmbusResolutionCmd 3).orReturn fun val =>
    pure (.ok (val 1 &&& 0x0f, (val 1 &&& 0xf0) >>> 4))

def elanSmbusGetNumTraces : Dialogue SmbusBus (Except ℤ (UInt32 × UInt32)) :=
  (readBlockExactly etpSmbusXyTracenumCmd 3).orReturn fun val =>
    pure (.ok ((val 1).toUInt32, (val 2).toUInt32))

def elanSmbusGetPressureAdjustment : Dialogue SmbusBus (Except ℤ Int32) :=
  pure (.ok etpPressureOffset)

def elanSmbusGetPattern : Dialogue SmbusBus (Except ℤ UInt8) := pure (.ok 0)

/-! ## Firmware update -/

def elanSmbusIapGetMode : Dialogue SmbusBus (Except ℤ TpMode) :=
  (readBlock etpSmbusIapCtrlCmd).orReturn fun val =>
    pure (.ok (if be16ToCpup val &&& etpSmbusIapModeOn ≠ 0 then .iapMode else .mainMode))

def elanSmbusIapReset : Dialogue SmbusBus (Except ℤ Unit) := i2cSmbusWriteByte etpSmbusIapResetCmd

def flashKey : List UInt8 := [0x00, 0x0b, 0x00, 0x5a]

def elanSmbusSetFlashKey : Dialogue SmbusBus (Except ℤ Unit) :=
  i2cSmbusWriteBlockData etpSmbusIapCmd 4 flashKey

/-- The password is read back: at least two bytes of it. -/
def confirmPassword : Dialogue SmbusBus (Except ℤ Unit) := do
  let read ← i2cSmbusReadBlockData etpSmbusIapPasswordRead
  pure (if read.1 < 2 then .error (if read.1 < 0 then read.1 else eio)
    else if be16ToCpup read.2 ≠ etpSmbusIapPassword then .error eio
    else .ok ())

/-- The first write of the password fails with `-EIO`, whatever the bus says. -/
def writePassword : Dialogue SmbusBus (Except ℤ Unit) := do
  let error : ℤ ← call (I := SmbusBus) (.writeByte etpSmbusIapPasswordWrite)
  if error < 0 then pure (.error eio)
  else i2cSmbusWriteBlockData etpSmbusIapCmd 4 [0x0f, 0x78, 0x00, 0x06]

/-- The branch of `elan_smbus_prepare_fw_update` for the main mode. -/
def leaveMainMode : Dialogue SmbusBus (Except ℤ Unit) :=
  elanSmbusSetFlashKey.orReturn fun _ => writePassword.orReturn fun _ =>
    confirmPassword.orReturn fun _ => do
      msleep 30
      pure (.ok ())

def elanSmbusPrepareFwUpdate : Dialogue SmbusBus (Except ℤ Unit) :=
  elanSmbusIapGetMode.orReturn fun mode =>
    let leave : Dialogue SmbusBus (Except ℤ Unit) :=
      if mode = .mainMode then leaveMainMode else pure (.ok ())
    leave.orReturn fun _ => elanSmbusSetFlashKey.orReturn fun _ => elanSmbusIapReset

def elanSmbusWriteFwBlock (fwPageSize : UInt16) (page : List UInt8) :
    Dialogue SmbusBus (Except ℤ Unit) :=
  let half := fwPageSize.toNat / 2
  (i2cSmbusWriteBlockData etpSmbusWriteFwBlock half page).orReturn fun _ =>
    (i2cSmbusWriteBlockData etpSmbusWriteFwBlock half (page.drop half)).orReturn fun _ => do
      usleepRange 8000 10000
      (readBlock etpSmbusIapCtrlCmd).orReturn fun val =>
        if pageFailed (be16ToCpup val) then pure (.error eio) else pure (.ok ())

def elanSmbusFinishFwUpdate : Dialogue SmbusBus (Except ℤ Unit) := pure (.ok ())

/-- `elan_smbus_ops`. -/
def elanSmbusOps : Handler Ops SmbusBus
  | .initializeDevice => elanSmbusInitialize
  | .sleepControl sleep => elanSmbusSleepControl sleep
  | .powerControl enable => elanSmbusPowerControl enable
  | .setMode mode => elanSmbusSetMode mode
  | .healthCheck => elanSmbusHealthCheck
  | .calibrate => elanSmbusCalibrate
  | .calibrateResult => elanSmbusCalibrateResult
  | .getBaselineData maxBaseline => elanSmbusGetBaselineData maxBaseline
  | .getVersion _ iap => elanSmbusGetVersion iap
  | .getSmVersion _ => elanSmbusGetSmVersion
  | .getChecksum iap => elanSmbusGetChecksum iap
  | .getProductId => elanSmbusGetProductId
  | .getMax => elanSmbusGetMax
  | .getResolution => elanSmbusGetResolution
  | .getNumTraces => elanSmbusGetNumTraces
  | .iapGetMode => elanSmbusIapGetMode
  | .iapReset => elanSmbusIapReset
  | .prepareFwUpdate _ _ _ => elanSmbusPrepareFwUpdate
  | .writeFwBlock fwPageSize page _ _ => elanSmbusWriteFwBlock fwPageSize page
  | .finishFwUpdate => elanSmbusFinishFwUpdate
  | .getPressureAdjustment => elanSmbusGetPressureAdjustment
  | .getPattern => elanSmbusGetPattern

/-! ## What the bus shows -/

/-- A byte has been written. -/
def WroteByte (value : UInt8) (e : Exchange SmbusBus) : Prop := e = ⟨.writeByte value, (0 : ℤ)⟩

/-- A block has been written. -/
def WroteBlock (command : UInt8) (bytes : List UInt8) (e : Exchange SmbusBus) : Prop :=
  e = ⟨.writeBlock command bytes, (0 : ℤ)⟩

/-- The word at the beginning of a block, as the driver reads it. -/
def wordIn (xfer : SmbusBlock) : UInt16 := be16ToCpup (overlay (fun _ => 0) 0 xfer.written)

/-- A block of at least `len` bytes has been read, and the word in it meets `P`. -/
def Told (command : UInt8) (len : ℕ) (P : UInt16 → Prop) (e : Exchange SmbusBus) : Prop :=
  ∃ xfer : SmbusBlock, e = ⟨.readBlock command, xfer⟩ ∧ (len : ℤ) ≤ xfer.len ∧ P (wordIn xfer)

/-- The controller has been asked to reset itself, whether or not that has got through. -/
def Resets (e : Exchange SmbusBus) : Prop := e.1 = .writeByte etpSmbusIapResetCmd

/-- The controller has answered in which mode it is. -/
def InMode (mode : TpMode) : Exchange SmbusBus → Prop :=
  Told etpSmbusIapCtrlCmd 0 fun word =>
    (if word &&& etpSmbusIapModeOn ≠ 0 then TpMode.iapMode else .mainMode) = mode

/-- The blocks of a page that have just got through, one right after the other. -/
def pending : Transcript SmbusBus → List (List UInt8)
  | ⟨.writeBlock command bytes, (error : ℤ)⟩ :: said =>
    if command = etpSmbusWriteFwBlock ∧ error = 0 then pending said ++ [bytes] else []
  | ⟨.usleepRange _ _, _⟩ :: said => pending said
  | _ => []

/-- The pages, in blocks, that have got through and that the control register, read right after,
reports no error for; in the order in which they were sent. -/
def acknowledged : Transcript SmbusBus → List (List (List UInt8))
  | [] => []
  | ⟨.readBlock command, (xfer : SmbusBlock)⟩ :: said =>
    if command = etpSmbusIapCtrlCmd ∧ 0 ≤ xfer.len ∧ ¬ pageFailed (wordIn xfer)
        ∧ pending said ≠ [] then
      acknowledged said ++ [pending said]
    else acknowledged said
  | _ :: said => acknowledged said

/-! ## Firmware updates on this bus -/

section Update

open FirmwareUpdate

/-- The two blocks that carry a page. -/
def blocks (p : Plan) (page : Page) : List (List UInt8) :=
  [blockBytes (p.info.pageSize.toNat / 2) page.bytes,
    blockBytes (p.info.pageSize.toNat / 2) (page.bytes.drop (p.info.pageSize.toNat / 2))]

/-- The controller is in its IAP mode, or has repeated the password for it. -/
def Entered (e : Exchange SmbusBus) : Prop :=
  InMode .iapMode e ∨ Told etpSmbusIapPasswordRead 2 (· = etpSmbusIapPassword) e

/-- The flash key, as a block. -/
def KeyWritten : Exchange SmbusBus → Prop := WroteBlock etpSmbusIapCmd flashKey

/-- What has to be there before a page: the flash key in IAP mode, and then a reset. -/
def unlocked : List (Exchange SmbusBus → Prop) :=
  [WroteByte etpSmbusIapResetCmd, KeyWritten, Entered]

/-- What has to be there before the password: the flash key in main mode, and the command that
announces the password. -/
def announced : List (Exchange SmbusBus → Prop) :=
  [fun e => ∃ error : ℤ, 0 ≤ error ∧ e = ⟨.writeByte etpSmbusIapPasswordWrite, error⟩, KeyWritten,
    InMode .mainMode]

/-- The bytes that an update writes, and when. -/
inductive DueByte (said : Transcript SmbusBus) : UInt8 → Prop
  | password (h : Since Resets [KeyWritten, InMode .mainMode] said) :
    DueByte said etpSmbusIapPasswordWrite
  | iapReset (h : Since Resets [KeyWritten, Entered] said) : DueByte said etpSmbusIapResetCmd

/-- The blocks that an update writes, and when. -/
inductive DueBlock (p : Plan) (said : Transcript SmbusBus) : UInt8 → List UInt8 → Prop
  /-- the mode is known -/
  | flashKey (h : Since Resets [fun e => InMode .mainMode e ∨ Entered e] said) :
    DueBlock p said etpSmbusIapCmd flashKey
  | password (h : Since Resets announced said) :
    DueBlock p said etpSmbusIapCmd [0x0f, 0x78, 0x00, 0x06]
  /-- the next block of the next page that has not been acknowledged -/
  | page (h : Since Resets unlocked said) (page : Page)
    (hpage : acknowledged said ++ [blocks p page] <+: p.pages.map (blocks p)) (bytes : List UInt8)
    (hblock : pending said ++ [bytes] <+: blocks p page) :
    DueBlock p said etpSmbusWriteFwBlock bytes

/-- **What an update may send at this point.** -/
def Safe (p : Plan) (said : Transcript SmbusBus) : Wire → Prop
  | .writeByte value => DueByte said value
  | .writeBlock command bytes => DueBlock p said command bytes
  | _ => True

/-- The transcript shows the progress of the update. -/
structure Tracks (p : Plan) (s : Progress) (said : Transcript SmbusBus) : Prop where
  start : s = .start → said = []
  acknowledged : acknowledged said = s.written.map (blocks p)
  prepared : s.phase = .prepared ∨ s.phase = .finished → Since Resets unlocked said
  pending : s.phase = .prepared → pending said = []
  reported : ∀ checksum, s.reported = some checksum → s.phase = .finished
    ∧ Since Resets (Told etpSmbusFwChecksumCmd 0 (· = checksum) :: unlocked) said

/-! ### One call at a time -/

variable {α β : Type} {p : Plan} {said : Transcript SmbusBus}

/-- One call, whatever the bus answers. -/
theorem call_always {c : Wire} {Q : c.Answer → Transcript SmbusBus → Prop} (hc : Safe p said c)
    (h : ∀ answer : c.Answer, Q answer (⟨c, answer⟩ :: said)) :
    Always transcript (Safe p) Q (call (I := SmbusBus) c) said :=
  always_call hc h

/-- A byte is written, or the transfer fails. -/
theorem i2cSmbusWriteByte_always {value : UInt8} {Q : Except ℤ Unit → Transcript SmbusBus → Prop}
    (hdue : DueByte said value)
    (herr : ∀ e (error : ℤ), Q (.error e) (⟨.writeByte value, error⟩ :: said))
    (hok : Q (.ok ()) (⟨.writeByte value, (0 : ℤ)⟩ :: said)) :
    Always transcript (Safe p) Q (i2cSmbusWriteByte value) said := by
  refine always_bind.mpr (call_always hdue fun (error : ℤ) => ?_)
  show Q (if error ≠ 0 then _ else _) _
  split_ifs with herror
  · exact herr _ error
  · rw [not_not] at herror
    rw [herror]
    exact hok

/-- A block is written, or the transfer fails. -/
theorem i2cSmbusWriteBlockData_always {command : UInt8} {length : ℕ} {values : List UInt8}
    {Q : Except ℤ Unit → Transcript SmbusBus → Prop}
    (hdue : DueBlock p said command (blockBytes length values))
    (herr : ∀ e (error : ℤ), error ≠ 0 →
      Q (.error e) (⟨.writeBlock command (blockBytes length values), error⟩ :: said))
    (hok : Q (.ok ()) (⟨.writeBlock command (blockBytes length values), (0 : ℤ)⟩ :: said)) :
    Always transcript (Safe p) Q (i2cSmbusWriteBlockData command length values) said := by
  refine always_bind.mpr (call_always hdue fun (error : ℤ) => ?_)
  show Q (if error ≠ 0 then _ else _) _
  split_ifs with herror
  · exact herr _ error herror
  · rw [not_not] at herror
    rw [herror]
    exact hok

/-- A block of any length is read, or the transfer fails. -/
theorem readBlock_always {command : UInt8} {Q : Except ℤ Mem → Transcript SmbusBus → Prop}
    (herr : ∀ e (xfer : SmbusBlock), xfer.len < 0 →
      Q (.error e) (⟨.readBlock command, xfer⟩ :: said))
    (hok : ∀ xfer : SmbusBlock, 0 ≤ xfer.len →
      Q (.ok (overlay (fun _ => 0) 0 xfer.written)) (⟨.readBlock command, xfer⟩ :: said)) :
    Always transcript (Safe p) Q (readBlock command) said := by
  refine always_bind.mpr (always_bind.mpr (call_always trivial fun (xfer : SmbusBlock) => ?_))
  show Q (if xfer.len < 0 then _ else _) _
  split_ifs with hlen
  · exact herr _ xfer hlen
  · exact hok xfer (Int.not_lt.mp hlen)

/-! ### What breaks no sequence -/

/-- Nothing but the command for it resets the controller. -/
theorem not_resets {c : Wire} {answer : c.Answer} (h : c ≠ .writeByte etpSmbusIapResetCmd) :
    ¬ Resets ⟨c, answer⟩ := h

/-- A block resets nothing. -/
theorem not_resets_block {command : UInt8} {bytes : List UInt8} {error : ℤ} :
    ¬ Resets ⟨.writeBlock command bytes, error⟩ := not_resets nofun

/-- And neither does a read. -/
theorem not_resets_read {command : UInt8} {xfer : SmbusBlock} :
    ¬ Resets ⟨.readBlock command, xfer⟩ := not_resets nofun

/-! ### What each operation says -/

/-- No page has been sent. -/
def Unsent (said : Transcript SmbusBus) : Prop :=
  ∀ e ∈ said, ∀ bytes, e.1 ≠ .writeBlock etpSmbusWriteFwBlock bytes

/-- Nothing but a page is a page. -/
theorem Unsent.later {c : Wire} {answer : c.Answer} (h : Unsent said)
    (hc : ∀ bytes, c ≠ .writeBlock etpSmbusWriteFwBlock bytes) : Unsent (⟨c, answer⟩ :: said) := by
  intro x hx
  rcases List.mem_cons.mp hx with rfl | hx
  · exact hc
  · exact h x hx

/-- A command sends no page. -/
theorem Unsent.byte {value : UInt8} {error : ℤ} (h : Unsent said) :
    Unsent (⟨.writeByte value, error⟩ :: said) := h.later nofun

/-- A block that goes to another register than a page. -/
theorem Unsent.block {bytes : List UInt8} {error : ℤ} (h : Unsent said) :
    Unsent (⟨.writeBlock etpSmbusIapCmd bytes, error⟩ :: said) := by
  refine h.later fun bytes' he => ?_
  have hcommand : etpSmbusIapCmd = etpSmbusWriteFwBlock := (Wire.writeBlock.inj he).1
  exact absurd hcommand (by decide)

/-- A read sends no page. -/
theorem Unsent.read {command : UInt8} {xfer : SmbusBlock} (h : Unsent said) :
    Unsent (⟨.readBlock command, xfer⟩ :: said) := h.later nofun

/-- Where no page has been sent, no block is pending. -/
theorem pending_of_unsent (h : Unsent said) : pending said = [] := by
  induction said with
  | nil => rfl
  | cons e said ih =>
    obtain ⟨c, answer⟩ := e
    have hrest : Unsent said := fun x hx => h x (List.mem_cons_of_mem _ hx)
    cases c with
    | writeBlock command bytes =>
      refine if_neg fun hpage => ?_
      rw [hpage.1] at h
      exact h _ List.mem_cons_self bytes rfl
    | usleepRange low high => exact ih hrest
    | _ => rfl

/-- Where no page was sent, none is acknowledged. -/
theorem acknowledged_of_unsent (h : Unsent said) : acknowledged said = [] := by
  induction said with
  | nil => rfl
  | cons e said ih =>
    obtain ⟨c, answer⟩ := e
    have hrest : Unsent said := fun x hx => h x (List.mem_cons_of_mem _ hx)
    cases c with
    | readBlock command =>
      exact (if_neg fun hpage => hpage.2.2.2 (pending_of_unsent hrest)).trans (ih hrest)
    | _ => exact ih hrest

/-- The controller is in IAP mode, or has repeated the password for it. -/
def InIap : Except ℤ Unit → Transcript SmbusBus → Prop
  | .error _, said => Unsent said
  | .ok _, said => Unsent said ∧ Since Resets [Entered] said

/-- The controller takes pages, and has been sent none yet. -/
def Unlocked : Except ℤ Unit → Transcript SmbusBus → Prop
  | .error _, said => Unsent said
  | .ok _, said => Unsent said ∧ pending said = [] ∧ Since Resets unlocked said

/-- The flash key is written. -/
theorem setFlashKey_always {Q : Except ℤ Unit → Transcript SmbusBus → Prop}
    (hdue : Since Resets [fun e => InMode .mainMode e ∨ Entered e] said)
    (herr : ∀ e (error : ℤ), Q (.error e) (⟨.writeBlock etpSmbusIapCmd flashKey, error⟩ :: said))
    (hok : Q (.ok ()) (⟨.writeBlock etpSmbusIapCmd flashKey, (0 : ℤ)⟩ :: said)) :
    Always transcript (Safe p) Q elanSmbusSetFlashKey said :=
  i2cSmbusWriteBlockData_always (.flashKey hdue) (fun e error _ => herr e error) hok

/-- The password is confirmed by at least two bytes. -/
theorem confirmPassword_always (hunsent : Unsent said) :
    Always transcript (Safe p) InIap confirmPassword said := by
  refine always_bind.mpr (always_bind.mpr (call_always trivial fun (xfer : SmbusBlock) => ?_))
  show InIap (if xfer.len < 2 then .error (if xfer.len < 0 then xfer.len else eio)
      else if wordIn xfer ≠ etpSmbusIapPassword then .error eio else .ok ()) _
  by_cases hlen : xfer.len < 2
  · rw [if_pos hlen]
    exact hunsent.read
  rw [if_neg hlen]
  by_cases hword : wordIn xfer = etpSmbusIapPassword
  · rw [if_neg (not_not.mpr hword)]
    exact ⟨hunsent.read, Since.push trivial (.inr ⟨xfer, rfl, Int.not_lt.mp hlen, hword⟩)⟩
  · rw [if_pos hword]
    exact hunsent.read

/-- The password is written once the controller has taken the command for it. -/
theorem writePassword_always (hunsent : Unsent said)
    (hkey : Since Resets [KeyWritten, InMode .mainMode] said) :
    Always transcript (Safe p) (fun _ said' => Unsent said') writePassword said := by
  refine always_bind.mpr (call_always (.password hkey) fun (error : ℤ) => ?_)
  show Always transcript _ _ (if error < 0 then _ else _) _
  split_ifs with herror
  · exact hunsent.byte
  · have hannounced : Since Resets announced
        (⟨.writeByte etpSmbusIapPasswordWrite, error⟩ :: said) :=
      Since.push hkey ⟨error, Int.not_lt.mp herror, rfl⟩
    exact i2cSmbusWriteBlockData_always (.password hannounced)
      (fun e error _ => hunsent.byte.block) hunsent.byte.block

/-- In main mode the flash key and the password lead to the IAP mode. -/
theorem leaveMainMode_always (hunsent : Unsent said)
    (hmode : Since Resets [InMode .mainMode] said) :
    Always transcript (Safe p) InIap leaveMainMode said := by
  refine always_orReturn.mpr (setFlashKey_always (hmode.imp fun e => .inl)
    (fun e error => hunsent.block) ?_)
  have hkey : Since Resets (KeyWritten :: _) _ := Since.push hmode rfl
  refine always_orReturn.mpr ((writePassword_always hunsent.block hkey).mono (fun _ _ h => h)
    fun r said' hsaid => ?_)
  cases r with
  | error e => exact hsaid
  | ok _ =>
    refine always_orReturn.mpr ((confirmPassword_always hsaid).mono (fun _ _ h => h)
      fun r said'' hsaid => ?_)
    cases r with
    | error e => exact hsaid
    | ok _ => exact always_bind.mpr (call_always trivial fun _ =>
        ⟨hsaid.1.later nofun, hsaid.2.later (not_resets nofun)⟩)

/-- **Preparing unlocks the controller**, or fails. -/
theorem elanSmbusPrepareFwUpdate_always :
    Always transcript (Safe p) Unlocked elanSmbusPrepareFwUpdate [] := by
  have hunsent : Unsent [] := fun e he => absurd he List.not_mem_nil
  have hunlock {said : Transcript SmbusBus} (hiap : InIap (.ok ()) said) :
      Always transcript (Safe p) Unlocked
        (elanSmbusSetFlashKey.orReturn fun _ => elanSmbusIapReset) said := by
    refine always_orReturn.mpr (setFlashKey_always (hiap.2.imp fun e => .inr)
      (fun e error => hiap.1.block) ?_)
    have hkey : Since Resets (KeyWritten :: _) _ := Since.push hiap.2 rfl
    exact i2cSmbusWriteByte_always (.iapReset hkey) (fun e error => hiap.1.block.byte)
      ⟨hiap.1.block.byte, rfl, Since.push hkey rfl⟩
  refine always_orReturn.mpr (always_orReturn.mpr
    (readBlock_always (fun e xfer _ => hunsent.read) fun xfer hlen => ?_))
  have hmode {mode : TpMode} (h : (if wordIn xfer &&& etpSmbusIapModeOn ≠ 0
      then TpMode.iapMode else .mainMode) = mode) :
      InMode mode ⟨.readBlock etpSmbusIapCtrlCmd, xfer⟩ := ⟨xfer, rfl, hlen, h⟩
  show Always transcript _ _ (Dialogue.orReturn (if (if wordIn xfer &&& etpSmbusIapModeOn ≠ 0
    then TpMode.iapMode else .mainMode) = .mainMode then _ else _) _) _
  by_cases hword : wordIn xfer &&& etpSmbusIapModeOn ≠ 0
  · have hiap := hmode (if_pos hword)
    rw [if_pos hword, if_neg nofun]
    exact always_orReturn.mpr (hunlock ⟨hunsent.read, Since.push trivial (.inl hiap)⟩)
  · have hmain := hmode (if_neg hword)
    rw [if_neg hword, if_pos rfl]
    refine always_orReturn.mpr ((leaveMainMode_always hunsent.read (Since.push trivial hmain)).mono
      (fun _ _ h => h) fun r said' hsaid => ?_)
    cases r with
    | error e => exact hsaid
    | ok _ => exact hunlock hsaid

/-- **A page is acknowledged just if the operation says so.**  An attempt that fails leaves no
block behind that the next one could build on. -/
theorem elanSmbusWriteFwBlock_always (page : Page)
    {Q : Except ℤ Unit → Transcript SmbusBus → Prop} (hunlocked : Since Resets unlocked said)
    (hpending : pending said = [])
    (hnext : acknowledged said ++ [blocks p page] <+: p.pages.map (blocks p))
    (herr : ∀ e said', Since Resets unlocked said' → pending said' = [] →
      acknowledged said' = acknowledged said → Q (.error e) said')
    (hok : ∀ said', Since Resets unlocked said' → pending said' = [] →
      acknowledged said' = acknowledged said ++ [blocks p page] → Q (.ok ()) said') :
    Always transcript (Safe p) Q (elanSmbusWriteFwBlock p.info.pageSize page.bytes) said := by
  -- the two blocks
  set first := blockBytes (p.info.pageSize.toNat / 2) page.bytes
  set second := blockBytes (p.info.pageSize.toNat / 2)
    (page.bytes.drop (p.info.pageSize.toNat / 2))
  have hblocks : blocks p page = [first, second] := rfl
  have hafter₁ (error : ℤ) : Since Resets unlocked
      (⟨.writeBlock etpSmbusWriteFwBlock first, error⟩ :: said) :=
    hunlocked.later not_resets_block
  have hafter₂ (error : ℤ) : Since Resets unlocked
      (⟨.writeBlock etpSmbusWriteFwBlock second, error⟩
        :: ⟨.writeBlock etpSmbusWriteFwBlock first, (0 : ℤ)⟩ :: said) :=
    (hafter₁ 0).later not_resets_block
  have hpending₁ : pending (⟨.writeBlock etpSmbusWriteFwBlock first, (0 : ℤ)⟩ :: said)
      = [first] := by
    show pending said ++ [first] = [first]
    rw [hpending]
    rfl
  have hpending₂ : pending (⟨.writeBlock etpSmbusWriteFwBlock second, (0 : ℤ)⟩
      :: ⟨.writeBlock etpSmbusWriteFwBlock first, (0 : ℤ)⟩ :: said) = blocks p page := by
    show pending (⟨.writeBlock etpSmbusWriteFwBlock first, (0 : ℤ)⟩ :: said) ++ [second] = _
    rw [hpending₁, hblocks]
    rfl
  refine always_orReturn.mpr (i2cSmbusWriteBlockData_always (.page hunlocked page hnext _ ?_)
    (fun e error herror => herr e _ (hafter₁ error) (if_neg fun h => herror h.2) rfl) ?_)
  · rw [hpending, hblocks]
    exact ⟨[second], rfl⟩
  refine always_orReturn.mpr (i2cSmbusWriteBlockData_always (.page (hafter₁ 0) page hnext _ ?_)
    (fun e error herror => herr e _ (hafter₂ error) (if_neg fun h => herror h.2) rfl) ?_)
  · rw [hpending₁, hblocks]
    exact List.prefix_rfl
  refine always_bind.mpr (call_always trivial fun _ => ?_)
  have hslept (xfer : SmbusBlock) : Since Resets unlocked (⟨.readBlock etpSmbusIapCtrlCmd, xfer⟩
      :: ⟨.usleepRange 8000 10000, ()⟩ :: ⟨.writeBlock etpSmbusWriteFwBlock second, (0 : ℤ)⟩
      :: ⟨.writeBlock etpSmbusWriteFwBlock first, (0 : ℤ)⟩ :: said) :=
    ((hafter₂ 0).later (not_resets (c := .usleepRange 8000 10000) nofun)).later not_resets_read
  refine always_orReturn.mpr (readBlock_always
    (fun e xfer hlen => herr e _ (hslept xfer) rfl (if_neg fun h => hlen.not_ge h.2.1))
    fun xfer hlen => ?_)
  show Always transcript _ _ (if pageFailed (wordIn xfer) then _ else _) _
  split_ifs with hfailed
  · exact herr _ _ (hslept xfer) rfl (if_neg fun h => h.2.2.1 hfailed)
  · have hne : pending (⟨.writeBlock etpSmbusWriteFwBlock second, (0 : ℤ)⟩
        :: ⟨.writeBlock etpSmbusWriteFwBlock first, (0 : ℤ)⟩ :: said) ≠ [] := by
      rw [hpending₂]
      exact List.cons_ne_nil _ _
    refine hok _ (hslept xfer) rfl ((if_pos ⟨rfl, hlen, hfailed, hne⟩).trans ?_)
    exact congrArg (fun sent => acknowledged said ++ [sent]) hpending₂

/-! ### The operations implement the update's world -/

variable {s : Progress}

/-- An update that is over, one way or the other. -/
theorem tracks_failed {s' : Progress} (h : acknowledged said = s'.written.map (blocks p))
    (hreported : s'.reported = none) (hfailed : s'.phase = .failed) : Tracks p s' said := by
  refine ⟨fun he => ?_, h, fun hp => ?_, fun hp => ?_, fun checksum hr => ?_⟩
  · rw [he] at hfailed
    cases hfailed
  · rw [hfailed] at hp
    rcases hp with hp | hp <;> cases hp
  · rw [hfailed] at hp
    cases hp
  · rw [hreported] at hr
    cases hr

/-- Before the end of an update no checksum is reported. -/
theorem Tracks.unreported (h : Tracks p s said) (hphase : s.phase ≠ .finished) :
    s.reported = none := by
  cases hr : s.reported with
  | none => rfl
  | some checksum => exact absurd (h.reported checksum hr).1 hphase

/-- Only a look at the control register acknowledges anything. -/
theorem acknowledged_read {command : UInt8} {xfer : SmbusBlock}
    (hcommand : command ≠ etpSmbusIapCtrlCmd) :
    acknowledged (⟨.readBlock command, xfer⟩ :: said) = acknowledged said :=
  if_neg fun h => hcommand h.1

/-- **The SMBus transport serves an update.**  Each operation, whatever the bus answers, leaves a
transcript that shows what the operation has returned. -/
theorem elanSmbusOps_implements (p : Plan) :
    Implements world transcript (Tracks p) p.Expects (Safe p) elanSmbusOps := by
  intro s said op h hop
  cases op with
  | prepareFwUpdate icType iapVersion fwPageSize =>
    obtain ⟨rfl, rfl, rfl, rfl⟩ := hop
    rw [h.start rfl]
    refine elanSmbusPrepareFwUpdate_always.mono (fun _ _ hc => hc)
      fun r said' hsaid => ⟨_, rfl, ?_⟩
    cases r with
    | error e => exact tracks_failed (acknowledged_of_unsent hsaid) rfl rfl
    | ok _ => exact ⟨nofun, acknowledged_of_unsent hsaid.1, fun _ => hsaid.2.2,
        fun _ => hsaid.2.1, nofun⟩
  | writeFwBlock fwPageSize page checksum idx =>
    obtain ⟨rfl, -, hphase, hnext⟩ := hop
    have hidle : s.phase ≠ .idle := by rw [hphase]; nofun
    have hnone : s.reported = none := h.unreported (by rw [hphase]; nofun)
    have hblocks : acknowledged said ++ [blocks p ⟨idx, page, checksum⟩]
        <+: p.pages.map (blocks p) := by
      rw [h.acknowledged]
      simpa using hnext.map (blocks p)
    refine elanSmbusWriteFwBlock_always ⟨idx, page, checksum⟩ (h.prepared (.inl hphase))
      (h.pending hphase) hblocks
      (fun e said' hunlocked hpending hack => ⟨s, rfl,
        fun he => absurd he (Progress.ne_start_of_phase hidle), hack.trans h.acknowledged,
        fun _ => hunlocked, fun _ => hpending, Progress.forall_reported hnone _⟩)
      fun said' hunlocked hpending hack => ⟨_, rfl,
        fun he => absurd (congrArg Progress.phase he) hidle, ?_, fun _ => hunlocked,
        fun _ => hpending, Progress.forall_reported hnone _⟩
    show acknowledged said' = (s.written ++ _).map (blocks p)
    rw [hack, h.acknowledged, List.map_append]
    rfl
  | finishFwUpdate =>
    obtain ⟨hphase, -⟩ := hop
    have hnone : s.reported = none := h.unreported (by rw [hphase]; nofun)
    exact ⟨_, rfl, nofun, h.acknowledged, fun _ => h.prepared (.inl hphase), nofun,
      Progress.forall_reported hnone _⟩
  | getChecksum iap =>
    obtain ⟨rfl, hphase, -⟩ := hop
    have hidle : s.phase ≠ .idle := by rw [hphase]; nofun
    have hprepared : s.phase ≠ .prepared := by rw [hphase]; nofun
    have hunlocked := h.prepared (.inr hphase)
    refine always_orReturn.mpr (readBlock_always
      (fun e xfer _ => ⟨s, rfl, fun he => absurd he (Progress.ne_start_of_phase hidle),
        (acknowledged_read (by decide)).trans h.acknowledged,
        fun _ => hunlocked.later not_resets_read, fun hp => absurd hp hprepared,
        fun c hc => ⟨hphase, (h.reported c hc).2.later not_resets_read⟩⟩)
      fun xfer hlen => ⟨_, rfl, fun he => absurd (congrArg Progress.phase he) hidle,
        (acknowledged_read (by decide)).trans h.acknowledged,
        fun _ => hunlocked.later not_resets_read, fun hp => absurd hp hprepared,
        fun c hc => ⟨hphase, ?_⟩⟩)
    exact hunlocked.push ⟨xfer, rfl, hlen, Option.some.inj hc⟩
  | _ => exact absurd hop nofun

/-- Along an update the transcript shows its progress. -/
theorem elanUpdateFirmwareOnce_tracks (p : Plan) :
    Always transcript (Safe p) (fun r said => ∃ s, p.Ended r s ∧ Tracks p s said)
      (handle elanSmbusOps (elanUpdateFirmwareOnce p.fw p.icType p.iapVersion p.info)) [] :=
  Always.handle (elanSmbusOps_implements p) (elanUpdateFirmwareOnce_follows p)
    ⟨fun _ => rfl, rfl, nofun, nofun, nofun⟩

/-- A page of at most 64 bytes goes out as a whole. -/
theorem flatten_blocks (heven : p.info.pageSize.toNat % 2 = 0)
    (hsize : p.info.pageSize.toNat ≤ 64) {page : Page}
    (hlen : page.bytes.length = p.info.pageSize.toNat) : (blocks p page).flatten = page.bytes := by
  have hmin : min (p.info.pageSize.toNat / 2 % 256) i2cSmbusBlockMax
      = p.info.pageSize.toNat / 2 := by
    rw [i2cSmbusBlockMax]
    omega
  rw [blocks, blockBytes, blockBytes, hmin, List.flatten_cons, List.flatten_singleton,
    List.take_of_length_le (l := List.drop _ _) (by rw [List.length_drop]; omega),
    List.take_append_drop]

/-- Of no page more than 64 bytes go out. -/
theorem length_blocks_le (page : Page) : (blocks p page).flatten.length ≤ 64 := by
  rw [blocks, blockBytes, blockBytes, List.flatten_cons, List.flatten_singleton,
    List.length_append, List.length_take, List.length_take, i2cSmbusBlockMax]
  omega

/-- Nor of several pages more than 64 bytes each. -/
theorem length_flatMap_blocks_le (pages : List Page) :
    (pages.flatMap fun page => (blocks p page).flatten).length ≤ 64 * pages.length := by
  induction pages with
  | nil => exact le_rfl
  | cons page pages ih =>
    have hpage := length_blocks_le (p := p) page
    rw [List.flatMap_cons, List.length_append, List.length_cons]
    omega

/-- The blocks of the pages, one after another. -/
theorem flatten_map_blocks (p : Plan) (pages : List Page) :
    (pages.map (blocks p)).flatten.flatten = pages.flatMap fun page => (blocks p page).flatten := by
  induction pages with
  | nil => rfl
  | cons page pages ih =>
    rw [List.map_cons, List.flatten_cons, List.flatten_append, ih, List.flatMap_cons]

/-- **Over SMBus the image goes out as a whole just if its pages have at most 64 bytes.**  Of the
larger pages, of 128 or 512 bytes, the blocks on the bus hold a part only, also when the update
succeeds. -/
theorem elanUpdateFirmwareOnce_smbus_whole_iff (p : Plan) (hfile : p.InFile)
    (heven : p.info.pageSize.toNat % 2 = 0) (hpages : p.pages ≠ []) :
    Always transcript (Safe p)
      (fun r said => r = .ok () →
        ((acknowledged said).flatten.flatten = p.image ↔ p.info.pageSize.toNat ≤ 64))
      (handle elanSmbusOps (elanUpdateFirmwareOnce p.fw p.icType p.iapVersion p.info)) [] := by
  refine (elanUpdateFirmwareOnce_tracks p).mono (fun _ _ hc => hc) ?_
  rintro _ said ⟨s, hs, h⟩ rfl
  obtain ⟨-, hwritten, -⟩ := hs
  rw [h.acknowledged, hwritten, flatten_map_blocks]
  constructor
  · intro hwhole
    by_contra hsize
    have hlen := congrArg List.length hwhole
    have hle := length_flatMap_blocks_le (p := p) p.pages
    rw [hlen, hfile.image_length] at hle
    have hpos : 0 < p.pages.length := List.length_pos_iff.mpr hpages
    have hlt : p.pages.length * 65 ≤ p.pages.length * p.info.pageSize.toNat :=
      Nat.mul_le_mul_left _ (by omega)
    omega
  · intro hsize
    rw [← p.flatMap_pages]
    exact List.flatMap_congr fun page hpage =>
      flatten_blocks heven hsize (hfile.page_length hpage)

/-- An erased image for a controller with 448 pages of 128 bytes. -/
def erased : Plan := ⟨List.replicate 57344 0, 0x0d, 1, ⟨448, 57338, 128⟩⟩

/-- None of its successful updates has sent the whole image. -/
theorem elanUpdateFirmwareOnce_smbus_whole_iff_erased :
    Always transcript (Safe erased)
      (fun r said => r = .ok () →
        ((acknowledged said).flatten.flatten = erased.image ↔ 128 ≤ 64))
      (handle elanSmbusOps (elanUpdateFirmwareOnce erased.fw 0x0d 1 ⟨448, 57338, 128⟩)) [] := by
  have hfile : erased.InFile := by
    refine ⟨?_, by decide, fun idx _ hidx => ?_⟩
    · show _ < (List.replicate 57344 (0 : UInt8)).length
      rw [List.length_replicate]
      decide
    · have hlt : idx < 448 := hidx
      show idx * 128 + 2 * ((128 + 1) / 2) ≤ (List.replicate 57344 (0 : UInt8)).length
      rw [List.length_replicate]
      omega
  have hbyte (k : ℕ) : erased.fw.getD k 0 = 0 := by
    rw [erased, List.getD_eq_getElem?_getD, List.getElem?_replicate]
    split_ifs <;> rfl
  have hword : Driver.le16 erased.fw Driver.etpIapStartOffset = 0 := by
    rw [Driver.le16, hbyte, hbyte]
    rfl
  have hboot : erased.boot = 0 := by
    rw [Plan.boot, hword]
    rfl
  refine elanUpdateFirmwareOnce_smbus_whole_iff erased hfile rfl ?_
  rw [Plan.pages, hboot]
  exact List.cons_ne_nil _ _

end Update

end SmbusTransport

/-
# No outcome depends on stale bytes

The report buffer of `elan_isr` is not initialised, an SMBus transfer stores its
block at offset 2, and the decoder is told the configured length whatever was
delivered.  Nevertheless two interrupts that differ in the old content of the buffer
end alike: the decoder looks at the bytes from the id on only, a trackpoint report is
read up to its own nine bytes, and these are the bytes that an accepted transfer has
written.
-/
import ElanGuardian.DecoderRuns
import ElanGuardian.Interrupt

open Prog ElanCore ReportShim Transport Interrupt

namespace StaleBytes

/-! ## The bytes the decoder looks at -/

section Decoder

variable {r r' : Mem} {n o : ℕ} {hp : Bool} {p : DecodeParams} {tpInfo : UInt8}

/-- Two buffers agree from the id byte up to `n`. -/
def Agree (n : ℕ) (r r' : Mem) : Prop := ∀ k, 2 ≤ k → k < n → r k = r' k

/-- A byte is read only if it is inside the report. -/
theorem readByte_congr (h : o < n → r o = r' o) : readByte r n o = readByte r' n o := by
  rw [readByte, readByte]
  by_cases ho : o ≥ n
  · rw [if_pos ho, if_pos ho]
  · rw [if_neg ho, if_neg ho, h (by omega)]

/-- The same where a zero stands for what is outside. -/
theorem readByteOrZero_congr (h : o < n → r o = r' o) :
    readByteOrZero r n o = readByteOrZero r' n o := by
  rw [readByteOrZero, readByteOrZero, readByte_congr h]

/-- A contact is decoded from the bytes of the report. -/
theorem decodeContact_congr (h : Agree n r r') (slot : Fin maxContacts) (b0 b1 b2 b3 b4 : UInt8) :
    decodeContact r n hp p slot b0 b1 b2 b3 b4 = decodeContact r' n hp p slot b0 b1 b2 b3 b4 := by
  have hmk : readMk r n hp slot b3 = readMk r' n hp slot b3 := by
    rw [readMk, readMk, readByte_congr fun ho => h _ (by simp only [mkDataOffset]; omega) ho]
  rw [decodeContact, decodeContact, hmk]

/-- And so are all contacts. -/
theorem decodeSlots_congr (h : Agree n r r') (slots : List (Fin maxContacts)) (ho : 2 ≤ o) :
    decodeSlots r n hp p tpInfo slots o = decodeSlots r' n hp p tpInfo slots o := by
  induction slots generalizing o with
  | nil => rfl
  | cons slot slots ih =>
    have hbyte (i : ℕ) : readByteOrZero r n (o + i) = readByteOrZero r' n (o + i) :=
      readByteOrZero_congr fun hi => h _ (by omega) hi
    rw [decodeSlots, decodeSlots, ih ho, checkedAdd, fingerDataLen]
    by_cases hadd : o + 5 < 2 ^ 64
    · rw [if_pos hadd]
      simp only [hbyte, readByteOrZero_congr fun hi => h o ho hi, decodeContact_congr h,
        ih (show 2 ≤ o + 5 by omega)]
    · rw [if_neg hadd]

/-- And so is an absolute report. -/
theorem decodeAbsolute_congr (h : Agree n r r') :
    decodeAbsolute r n hp p = decodeAbsolute r' n hp p := by
  have hinfo : readByte r n touchInfoOffset = readByte r' n touchInfoOffset :=
    readByte_congr fun hlt => h _ (by decide) hlt
  have hhover : readByte r n hoverInfoOffset = readByte r' n hoverInfoOffset :=
    readByte_congr fun hlt => h _ (by decide) hlt
  rw [decodeAbsolute, decodeAbsolute, hinfo, hhover]
  simp only [decodeSlots_congr h _ (show 2 ≤ fingerDataOffset by decide)]

/-- A trackpoint report is decoded from its first nine bytes, however long it is. -/
theorem decodeTrackpoint_congr (h : Agree 9 r r') :
    decodeTrackpoint r n = decodeTrackpoint r' n := by
  have hbyte (i : ℕ) (hi : i < 6) :
      readByteOrZero r n (reportIdOffset + 1 + i) = readByteOrZero r' n (reportIdOffset + 1 + i) :=
    readByteOrZero_congr fun _ => h _ (by simp only [reportIdOffset]; omega)
      (by simp only [reportIdOffset]; omega)
  rw [decodeTrackpoint, decodeTrackpoint]
  simp only [hbyte 1 (by omega), hbyte 2 (by omega), hbyte 3 (by omega), hbyte 4 (by omega),
    hbyte 5 (by omega), show readByteOrZero r n (reportIdOffset + 1) = _ from hbyte 0 (by omega),
    Nat.add_zero]

/-- A report is decoded from its own bytes. -/
theorem decodeReport_congr (h : Agree n r r') : decodeReport r n p = decodeReport r' n p := by
  have hid : readByte r n reportIdOffset = readByte r' n reportIdOffset :=
    readByte_congr fun hlt => h _ le_rfl hlt
  by_cases hn : 9 ≤ n
  · rw [decodeReport, decodeReport, hid]
    simp only [decodeAbsolute_congr h,
      decodeTrackpoint_congr fun k hk hlt => h k hk (Nat.lt_of_lt_of_le hlt hn)]
  · rw [decodeReport, decodeReport, hid]
    have hshort : decodeTrackpoint r n = decodeTrackpoint r' n := by
      have hlt : reportIdOffset + 1 + 6 > n := by simp only [reportIdOffset]; omega
      rw [decodeTrackpoint, decodeTrackpoint, if_pos hlt, if_pos hlt]
    simp only [decodeAbsolute_congr h, hshort]

/-- Once the id is read, the decoder's result does not depend on the old frame. -/
theorem run_decodeReport_eq (h : 2 < n) (f : ElanRsFrame) :
    (decodeReport r n p).run f
      = ⟨((decodeById r n p).run ElanRsFrame.empty).value,
        ((decodeById r n p).run ElanRsFrame.empty).state,
        .read 2 :: ((decodeById r n p).run ElanRsFrame.empty).trace⟩ := by
  rw [decodeReport]
  show Outcome.mk _ _ _ = _
  rw [reportIdOffset, run_readByte h]
  rfl

end Decoder

/-! ## What an accepted transfer has written -/

/-- What has been written does not depend on the old bytes. -/
theorem overlay_congr {r r' : Mem} {offset k : ℕ} {written : ℕ → Option UInt8}
    (hk : offset ≤ k) (h : (written (k - offset)).isSome) :
    overlay r offset written k = overlay r' offset written k := by
  obtain ⟨b, hb⟩ := Option.isSome_iff_exists.mp h
  rw [overlay, overlay, if_pos hk, if_pos hk, hb, Option.getD_some, Option.getD_some]

/-- Two buffers after a transfer agree on all that the decoder will look at. -/
def Delivered (n : ℕ) (r r' : Mem) : Prop :=
  Agree n r r' ∨ r 2 = trackpointReportId2 ∧ Agree 9 r r'

/-- A block of an SMBus transfer is the report from its id byte on. -/
theorem overlay_block (r r' : Mem) (bytes : List UInt8) :
    Agree (2 + bytes.length) (overlay r etpSmbusReportOffset fun i => bytes[i]?)
      (overlay r' etpSmbusReportOffset fun i => bytes[i]?) := by
  intro k hk hlt
  refine overlay_congr hk ?_
  simp only [etpSmbusReportOffset, isSome_getElem?]
  omega

/-- On I2C the status does not depend on the old bytes, and an accepted report does not either. -/
theorem elanI2cGetReport_stale (r r' : Mem) (n : ℕ) (xfer : I2cRecv n) :
    (elanI2cGetReport r n xfer).1 = (elanI2cGetReport r' n xfer).1
      ∧ ((elanI2cGetReport r n xfer).1 = 0 →
        Delivered n (elanI2cGetReport r n xfer).2 (elanI2cGetReport r' n xfer).2) := by
  rw [elanI2cGetReport, elanI2cGetReport]
  by_cases hneg : xfer.len < 0
  · simp only [if_pos hneg]
    exact ⟨trivial, fun h => absurd h (by omega)⟩
  by_cases hlen : xfer.len ≠ n
  · simp only [if_neg hneg, if_pos hlen]
    exact ⟨trivial, fun h => absurd h (by decide)⟩
  · simp only [if_neg hneg, if_neg hlen]
    refine ⟨trivial, fun _ => Or.inl fun k _ hlt => overlay_congr (Nat.zero_le k) ?_⟩
    cases xfer with
    | full bytes => simp [I2cRecv.written, hlt]
    | short len other written => exact absurd other hlen

/-- The length that an SMBus block is compared with. -/
def expectedLen (n : ℕ) (r : Mem) (written : ℕ → Option UInt8) : ℕ :=
  if overlay r etpSmbusReportOffset written 2 = trackpointReportId2 then etpSmbusReportLen2 else n

/-- On SMBus a block is accepted if it has the length that its id asks for. -/
theorem elanSmbusGetReport_block (r : Mem) (n : ℕ) (bytes : List UInt8)
    (fits : bytes.length ≤ i2cSmbusBlockMax) :
    elanSmbusGetReport r n (.block bytes fits)
      = (if bytes.length ≠ expectedLen n r fun i => bytes[i]? then eio else 0,
        overlay r etpSmbusReportOffset fun i => bytes[i]?) := by
  have hlen : ¬ (SmbusBlock.block bytes fits).len < 0 := by
    simp only [SmbusBlock.len]
    omega
  have hcast : (SmbusBlock.block bytes fits).len
        ≠ ((expectedLen n r fun i => bytes[i]? : ℕ) : ℤ)
      ↔ bytes.length ≠ expectedLen n r fun i => bytes[i]? := by
    rw [SmbusBlock.len, ne_eq, Nat.cast_inj]
  rw [elanSmbusGetReport, if_neg hlen]
  by_cases hwrong : bytes.length ≠ expectedLen n r fun i => bytes[i]?
  · rw [if_pos hwrong]
    exact if_pos (hcast.mpr hwrong)
  · rw [if_neg hwrong]
    exact if_neg fun h => hwrong (hcast.mp h)

/-- The status of an SMBus transfer is the same for any old content: the id byte is
stale only when the block is empty, and an empty block has the wrong length either way. -/
theorem elanSmbusGetReport_stale (r r' : Mem) {n : ℕ} (hn : 0 < n) (xfer : SmbusBlock) :
    (elanSmbusGetReport r n xfer).1 = (elanSmbusGetReport r' n xfer).1
      ∧ ((elanSmbusGetReport r n xfer).1 = 0 →
        Delivered n (elanSmbusGetReport r n xfer).2 (elanSmbusGetReport r' n xfer).2) := by
  cases xfer with
  | failed error negative written =>
    have hstatus (r : Mem) :
        (elanSmbusGetReport r n (.failed error negative written)).1 = error := by
      rw [elanSmbusGetReport, if_pos (show (SmbusBlock.failed error negative written).len < 0
        from negative)]
      rfl
    rw [hstatus, hstatus]
    exact ⟨rfl, fun h => absurd h (by omega)⟩
  | block bytes fits =>
    have hagree := overlay_block r r' bytes
    rw [elanSmbusGetReport_block, elanSmbusGetReport_block]
    rcases Nat.eq_zero_or_pos bytes.length with hzero | hpos
    · have hwrong (r : Mem) : bytes.length ≠ expectedLen n r fun i => bytes[i]? := by
        rw [hzero, expectedLen, etpSmbusReportLen2]
        split_ifs <;> omega
      rw [if_pos (hwrong r), if_pos (hwrong r')]
      exact ⟨rfl, fun h => absurd h (show eio ≠ 0 by decide)⟩
    · have hexpected : expectedLen n r (fun i => bytes[i]?)
          = expectedLen n r' fun i => bytes[i]? := by
        rw [expectedLen, expectedLen, hagree 2 le_rfl (by omega)]
      rw [← hexpected]
      by_cases hwrong : bytes.length ≠ expectedLen n r fun i => bytes[i]?
      · rw [if_pos hwrong]
        exact ⟨rfl, fun h => absurd h (show eio ≠ 0 by decide)⟩
      · rw [if_neg hwrong]
        refine ⟨rfl, fun _ => ?_⟩
        rw [not_not, expectedLen] at hwrong
        by_cases hid : overlay r etpSmbusReportOffset (fun i => bytes[i]?) 2 = trackpointReportId2
        · rw [if_pos hid, etpSmbusReportLen2] at hwrong
          exact Or.inr ⟨hid, fun k hk hlt => hagree k hk (by omega)⟩
        · rw [if_neg hid] at hwrong
          exact Or.inl fun k hk hlt => hagree k hk (by omega)

/-- The same on both. -/
theorem getReport_stale (bus : Bus) (r r' : Mem) {n : ℕ} (hn : 0 < n) (xfer : Xfer n bus) :
    (getReport bus r n xfer).1 = (getReport bus r' n xfer).1
      ∧ ((getReport bus r n xfer).1 = 0 →
        Delivered n (getReport bus r n xfer).2 (getReport bus r' n xfer).2) := by
  cases bus
  · exact elanI2cGetReport_stale r r' n xfer
  · exact elanSmbusGetReport_stale r r' hn xfer

/-! ## The interrupt -/

/-- The decoder cannot tell two delivered buffers apart. -/
theorem run_decodeReport_delivered {r r' : Mem} {n : ℕ} (hn : 9 ≤ n) (h : Delivered n r r')
    (p : DecodeParams) (f f' : ElanRsFrame) :
    (decodeReport r n p).run f = (decodeReport r' n p).run f' := by
  rcases h with hagree | ⟨hid, hagree⟩
  · rw [decodeReport_congr hagree, run_decodeReport_eq (by omega), run_decodeReport_eq (by omega)]
  · have hid' : r' 2 = trackpointReportId2 := by rw [← hagree 2 le_rfl (by omega), hid]
    rw [run_decodeReport_eq (by omega), run_decodeReport_eq (by omega),
      decodeById_of_trackpoint (Or.inr hid), decodeById_of_trackpoint (Or.inr hid'),
      decodeTrackpoint_congr hagree]

/-- **No outcome of an interrupt depends on stale bytes.**  Whatever the transfer did,
two interrupts that differ in the old content of the report buffer (and of the frame)
have the same read status, leave the same state and make the same calls. -/
theorem elanIsr_ignores_stale_bytes (bus : Bus) (pattern : UInt8) (context : ElanRsReportContext)
    (report report' : Mem) (frame frame' : ElanRsFrame) (xfer : Xfer (reportLen bus pattern) bus)
    (data : IsrData) :
    (getReport bus report (reportLen bus pattern) xfer).1
        = (getReport bus report' (reportLen bus pattern) xfer).1
      ∧ (elanIsr bus context (reportLen bus pattern) report frame xfer).run data
        = (elanIsr bus context (reportLen bus pattern) report' frame' xfer).run data := by
  have hlen := le_reportLen bus pattern
  obtain ⟨hstatus, hdelivered⟩ := getReport_stale bus report report' (by omega) xfer
  refine ⟨hstatus, congrFun ?_ data⟩
  rw [elanIsr, elanIsr]
  simp only [hstatus]
  by_cases hok : (getReport bus report' (reportLen bus pattern) xfer).1 = 0
  · have hrun := run_decodeReport_delivered (by omega) (hdelivered (hstatus.trans hok))
      context.toDecodeParams frame frame'
    have hemit : (elanRsEmitReport context (getReport bus report _ xfer).2
          (reportLen bus pattern) frame : Prog IsrData Call ℤ)
        = elanRsEmitReport context (getReport bus report' _ xfer).2 (reportLen bus pattern)
          frame' := by
      rw [elanRsEmitReport, elanRsEmitReport, hrun]
    simp only [hok, hemit]
  · simp only [ne_eq, hok, not_false_eq_true, if_true]

end StaleBytes

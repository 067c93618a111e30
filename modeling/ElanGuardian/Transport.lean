/-
# Report transfers on the two transports

`elan_i2c_get_report` and `elan_smbus_get_report` with the report formats they are
configured for, from `kernel/rust-shim/upstream`.  The bus itself is outside the
repository: a transfer is an arbitrary value of `I2cRecv` or `SmbusBlock`, whose
constructors can only describe what the kernel documents.  A complete
`i2c_master_recv` fills all bytes, `i2c_smbus_read_block_data` writes exactly the
bytes it returns the number of, and a failed transfer may have written anything.
-/
import ElanGuardian.ElanCore

open ElanCore

namespace Transport

/-- The two `struct elan_transport_ops`. -/
inductive Bus where
  | i2c
  | smbus
  deriving DecidableEq, Repr

def etpSmbusReportLen : ℕ := 32
def etpSmbusReportLen2 : ℕ := 7
def etpSmbusReportOffset : ℕ := 2
def etpI2cReportLen : ℕ := 34
def etpI2cReportLenId2 : ℕ := 39
def i2cSmbusBlockMax : ℕ := 32

def etpFeatureReportMk : UInt32 := 1

/-- `-EIO`. -/
def eio : ℤ := -5

/-- `get_report_features`: the features and the report length of a pattern. -/
def getReportFeatures (bus : Bus) (pattern : UInt8) : UInt32 × ℕ :=
  match bus with
  | .i2c => (etpFeatureReportMk, if pattern ≤ 1 then etpI2cReportLen else etpI2cReportLenId2)
  | .smbus => (if pattern ≤ 1 then etpFeatureReportMk else 0, etpSmbusReportLen)

/-- The report length that a transport configures. -/
def reportLen (bus : Bus) (pattern : UInt8) : ℕ := (getReportFeatures bus pattern).2

/-- The newer patterns, from 2 on. -/
theorem not_le_one {pattern : UInt8} (h : 2 ≤ pattern) : ¬ pattern ≤ 1 := by
  rw [UInt8.le_iff_toNat_le] at h ⊢
  have : (2 : UInt8).toNat = 2 := rfl
  have : (1 : UInt8).toNat = 1 := rfl
  omega

/-- A report buffer has 32 bytes at least. -/
theorem le_reportLen (bus : Bus) (pattern : UInt8) : 32 ≤ reportLen bus pattern := by
  cases bus
  · show 32 ≤ if pattern ≤ 1 then 34 else 39
    split_ifs <;> omega
  · exact le_rfl

/-! ## Bus transfers -/

/-- The bytes of `buf` overwritten from `offset` on, where `written` has a byte. -/
def overlay (buf : Mem) (offset : ℕ) (written : ℕ → Option UInt8) : Mem :=
  fun k => if offset ≤ k then (written (k - offset)).getD (buf k) else buf k

/-- `i2c_master_recv` of `count` bytes. -/
inductive I2cRecv (count : ℕ) where
  /-- it returned `count`, and the buffer is full -/
  | full (bytes : Vector UInt8 count)
  /-- it returned something else, having written whatever it had -/
  | short (len : ℤ) (other : len ≠ count) (written : ℕ → Option UInt8)

def I2cRecv.len {count : ℕ} : I2cRecv count → ℤ
  | .full _ => count
  | .short len _ _ => len

def I2cRecv.written {count : ℕ} : I2cRecv count → ℕ → Option UInt8
  | .full bytes => fun i => bytes[i]?
  | .short _ _ written => written

/-- `i2c_smbus_read_block_data`. -/
inductive SmbusBlock where
  /-- a block of at most 32 bytes -/
  | block (bytes : List UInt8) (fits : bytes.length ≤ i2cSmbusBlockMax)
  /-- a negative status -/
  | failed (error : ℤ) (negative : error < 0) (written : ℕ → Option UInt8)

def SmbusBlock.len : SmbusBlock → ℤ
  | .block bytes _ => bytes.length
  | .failed error _ _ => error

def SmbusBlock.written : SmbusBlock → ℕ → Option UInt8
  | .block bytes _ => fun i => bytes[i]?
  | .failed _ _ written => written

/-! ## Reading one report -/

/-- `elan_i2c_get_report`: the status and the buffer afterwards. -/
def elanI2cGetReport (report : Mem) (reportLen : ℕ) (xfer : I2cRecv reportLen) : ℤ × Mem :=
  let report := overlay report 0 xfer.written
  if xfer.len < 0 then (xfer.len, report)
  else if xfer.len ≠ reportLen then (eio, report)
  else (0, report)

/-- `elan_smbus_get_report`: it looks at the id byte before it knows that the
transfer wrote one. -/
def elanSmbusGetReport (report : Mem) (reportLen : ℕ) (xfer : SmbusBlock) : ℤ × Mem :=
  let report := overlay report etpSmbusReportOffset xfer.written
  if xfer.len < 0 then (xfer.len, report)
  else
    let reportLen := if report reportIdOffset = trackpointReportId2 then etpSmbusReportLen2
      else reportLen
    if xfer.len ≠ reportLen then (eio, report)
    else (0, report)

/-- One transfer of a report of `count` bytes on a bus. -/
def Xfer (count : ℕ) : Bus → Type
  | .i2c => I2cRecv count
  | .smbus => SmbusBlock

/-- `data->ops->get_report`. -/
def getReport (bus : Bus) (report : Mem) (reportLen : ℕ) (xfer : Xfer reportLen bus) : ℤ × Mem :=
  match bus, xfer with
  | .i2c, xfer => elanI2cGetReport report reportLen xfer
  | .smbus, xfer => elanSmbusGetReport report reportLen xfer

end Transport

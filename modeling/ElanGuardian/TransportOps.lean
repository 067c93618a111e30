/-
# The transport operations

`struct elan_transport_ops` of `elan_i2c.h` as an interface: the core of the driver is a
program of these calls, and each of the two transports serves them by talking to its bus
(`I2cTransport`, `SmbusTransport`).  `get_report` and `get_report_features` are in
`Transport`.

A call that fails leaves its out-parameters alone, apart from `get_sm_version` and `get_max`,
which store each value as soon as they have read it.
-/
import ElanGuardian.Driver
import ElanGuardian.Handlers
import Mathlib.Data.UInt

open ElanCore Transport

/-! ## Words on the bus -/

/-- The word with these two bytes. -/
def wordOf (low high : UInt8) : UInt16 := high.toUInt16 <<< 8 ||| low.toUInt16

/-- `put_unaligned_le16`. -/
def putLe16 (word : UInt16) : List UInt8 := [word.toUInt8, (word >>> 8).toUInt8]

/-- `le16_to_cpup` on a buffer of at least two bytes. -/
def le16ToCpup (val : Mem) : UInt16 := wordOf (val 0) (val 1)

/-- `be16_to_cpup` on a buffer of at least two bytes. -/
def be16ToCpup (val : Mem) : UInt16 := wordOf (val 1) (val 0)

/-- The value of two bytes. -/
theorem wordOf_toNat (low high : UInt8) :
    (wordOf low high).toNat = high.toNat * 256 + low.toNat := by
  have hlow : low.toNat < 2 ^ 8 := low.toNat_lt
  have hhigh : high.toNat < 2 ^ 8 := high.toNat_lt
  rw [wordOf, UInt16.toNat_or, UInt16.toNat_shiftLeft, UInt8.toNat_toUInt16,
    UInt8.toNat_toUInt16, show (8 : UInt16).toNat % 16 = 8 from rfl, Nat.shiftLeft_eq,
    Nat.mod_eq_of_lt (by omega), Nat.mul_comm, ← Nat.two_pow_add_eq_or_of_lt hlow, Nat.mul_comm]

/-- A word comes back from its two bytes. -/
@[simp] theorem wordOf_toUInt8 (word : UInt16) :
    wordOf word.toUInt8 (word >>> 8).toUInt8 = word := by
  apply UInt16.toNat_inj.mp
  have hword : word.toNat < 2 ^ 16 := word.toNat_lt
  rw [wordOf_toNat, UInt16.toNat_toUInt8, UInt16.toNat_toUInt8, UInt16.toNat_shiftRight,
    show (8 : UInt16).toNat % 16 = 8 from rfl, Nat.shiftRight_eq_div_pow]
  omega

/-! ## The interface -/

namespace TransportOps

/-- `enum tp_mode`. -/
inductive TpMode where
  | iapMode
  | mainMode
  deriving DecidableEq, Repr

/-- The members of `struct elan_transport_ops`, with what the core passes to them. -/
inductive Op where
  | initializeDevice
  | sleepControl (sleep : Bool)
  | powerControl (enable : Bool)
  | setMode (mode : UInt8)
  | healthCheck
  | calibrate
  | calibrateResult
  | getBaselineData (maxBaseline : Bool)
  | getVersion (pattern : UInt8) (iap : Bool)
  | getSmVersion (pattern : UInt8)
  | getChecksum (iap : Bool)
  | getProductId
  | getMax
  | getResolution
  | getNumTraces
  | iapGetMode
  | iapReset
  | prepareFwUpdate (icType : UInt16) (iapVersion : UInt8) (fwPageSize : UInt16)
  | writeFwBlock (fwPageSize : UInt16) (page : List UInt8) (checksum : UInt16) (idx : ℕ)
  | finishFwUpdate
  | getPressureAdjustment
  | getPattern
  deriving DecidableEq, Repr

/-- What `get_sm_version` leaves: its status, and what it has stored. -/
structure SmVersion where
  status : ℤ
  icType : Option UInt16
  version : Option UInt8
  clickpad : Option UInt8
  deriving DecidableEq, Repr

/-- What `get_max` leaves: its status, and what it has stored. -/
structure MaxAxes where
  status : ℤ
  maxX : Option UInt32
  maxY : Option UInt32
  deriving DecidableEq, Repr

/-- A negative status, or the out-parameters. -/
def Op.Answer : Op → Type
  | .calibrateResult => Except ℤ UInt8
  | .getBaselineData _ => Except ℤ UInt8
  | .getVersion _ _ => Except ℤ UInt8
  | .getSmVersion _ => SmVersion
  | .getChecksum _ => Except ℤ UInt16
  | .getProductId => Except ℤ UInt16
  | .getMax => MaxAxes
  | .getResolution => Except ℤ (UInt8 × UInt8)
  | .getNumTraces => Except ℤ (UInt32 × UInt32)
  | .iapGetMode => Except ℤ TpMode
  | .getPressureAdjustment => Except ℤ Int32
  | .getPattern => Except ℤ UInt8
  | _ => Except ℤ Unit

/-- `struct elan_transport_ops`. -/
abbrev Ops : Interface := ⟨Op, Op.Answer⟩

/-- The members that a firmware update needs and nothing else calls. -/
def Op.IsIap : Op → Prop
  | .iapReset => True
  | .prepareFwUpdate _ _ _ => True
  | .writeFwBlock _ _ _ _ => True
  | .finishFwUpdate => True
  | _ => False

/-! ## Constants of `elan_i2c.h` -/

def etpDisablePower : UInt16 := 0x0001
def etpPressureOffset : Int32 := 25
def etpFwIapPageErr : UInt16 := 0x0020
def etpFwIapIntfErr : UInt16 := 0x0010

/-- `result & (ETP_FW_IAP_PAGE_ERR | ETP_FW_IAP_INTF_ERR)`: the controller reports that a page
was not written. -/
def pageFailed (result : UInt16) : Bool := result &&& (etpFwIapPageErr ||| etpFwIapIntfErr) ≠ 0

/-- The bytes of one page of a firmware file. -/
def pageBytes (fw : List UInt8) (fwPageSize : UInt16) (idx : ℕ) : List UInt8 :=
  (fw.drop (idx * fwPageSize.toNat)).take fwPageSize.toNat

end TransportOps

/-
# The parameters of the pad

`elan_query_device_parameters` of `elan_i2c_core.c`: the size of the pad, the width of its
traces and its resolution come from the properties of the device, and from the controller where
a property is missing.  The divisions are checked: a number of traces or of millimetres may be
zero (`elanQueryDeviceParameters_defined_iff`).  Without its values the query is the one of the
driver's operations (`performsAs_elanQueryDeviceParameters`).

The sizes that a controller reports fit the ranges of the input layer.  So whatever the bus has
answered to the queries, the interrupt handler reports nothing outside of the ranges that the
axes are registered with (`elanIsr_reportsInRange`).
-/
import ElanGuardian.AxisRanges
import ElanGuardian.FirmwareBounds
import ElanGuardian.I2cTransport
import ElanGuardian.SmbusTransport

open ElanCore Transport TransportOps Dialogue Prog ReportShim
open FirmwareUpdate (Stop computed stopping)

namespace DeviceParameters

/-! ## The query -/

/-- The properties of the device; `none` where one cannot be read. -/
structure Properties where
  touchscreenSizeX : Option UInt32
  touchscreenSizeY : Option UInt32
  xTraces : Option UInt32
  yTraces : Option UInt32
  touchscreenXMm : Option UInt32
  touchscreenYMm : Option UInt32
  clickpad : Bool
  middleButton : Bool
  deriving DecidableEq, Repr

/-- The fields of `struct elan_tp_data` that the query stores. -/
structure Parameters where
  maxX : UInt32
  maxY : UInt32
  widthX : UInt32
  widthY : UInt32
  xRes : UInt32
  yRes : UInt32
  clickpad : UInt8
  middleButton : Bool
  deriving DecidableEq, Repr

/-- `a / b` on `unsigned int`. -/
def divide (a b : UInt32) : Except Stop UInt32 :=
  if b = 0 then .error .divideByZero else .ok (a / b)

/-- `elan_convert_resolution`; whether `char` has a sign is up to the compiler. -/
def elanConvertResolution (charSigned : Bool) (val pattern : UInt8) : UInt32 :=
  let value : Int32 := if charSigned then val.toInt8.toInt32 else val.toUInt32.toInt32
  let res := if pattern ≤ 0x01 then value * 10 + 790 else (value + 3) * 100
  (res * 10 / 254).toUInt32

/-- `get_max` into two fields. -/
def askMax (maxX maxY : UInt32) : Dialogue Ops (Except Stop (UInt32 × UInt32)) := do
  let max : MaxAxes ← call (I := Ops) .getMax
  pure (if max.status ≠ 0 then .error (.status max.status)
    else .ok (max.maxX.getD maxX, max.maxY.getD maxY))

/-- `max_x` and `max_y`; a size is the largest coordinate and 1.  A size that is found alone is
stored, but not kept. -/
def queryMax (props : Properties) (data : Parameters) :
    Dialogue Ops (Except Stop (UInt32 × UInt32)) :=
  match props.touchscreenSizeX, props.touchscreenSizeY with
  | some sizeX, some sizeY => pure (.ok (sizeX - 1, sizeY - 1))
  | sizeX, _ => askMax (sizeX.getD data.maxX) data.maxY

def queryTraces (props : Properties) : Dialogue Ops (Except Stop (UInt32 × UInt32)) :=
  match props.xTraces, props.yTraces with
  | some xTraces, some yTraces => pure (.ok (xTraces, yTraces))
  | _, _ => stopping (call (I := Ops) .getNumTraces)

/-- `a.1 / b.1` and then `a.2 / b.2`. -/
def divideBoth (a b : UInt32 × UInt32) : Except Stop (UInt32 × UInt32) := do
  let x ← divide a.1 b.1
  let y ← divide a.2 b.2
  pure (x, y)

def queryResolution (charSigned : Bool) (props : Properties) (pattern : UInt8)
    (max : UInt32 × UInt32) : Dialogue Ops (Except Stop (UInt32 × UInt32)) :=
  match props.touchscreenXMm, props.touchscreenYMm with
  | some xMm, some yMm => computed (divideBoth (max.1 + 1, max.2 + 1) (xMm, yMm))
  | _, _ => (stopping (call (I := Ops) .getResolution)).orReturn fun hwRes =>
    pure (.ok (elanConvertResolution charSigned hwRes.1 pattern,
      elanConvertResolution charSigned hwRes.2 pattern))

/-- `elan_query_device_parameters`. -/
def elanQueryDeviceParameters (charSigned : Bool) (props : Properties) (pattern : UInt8)
    (data : Parameters) : Dialogue Ops (Except Stop Parameters) :=
  (queryMax props data).orReturn fun max => (queryTraces props).orReturn fun traces =>
    (computed (divideBoth max traces)).orReturn fun width =>
      (queryResolution charSigned props pattern max).orReturn fun res => pure (.ok {
        maxX := max.1
        maxY := max.2
        widthX := width.1
        widthY := width.2
        xRes := res.1
        yRes := res.2
        clickpad := if props.clickpad then 1 else data.clickpad
        middleButton := props.middleButton || data.middleButton })

/-- Whatever the bus answers, the program returns a value with `Q` over the transport. -/
def OverBus {α : Type} (bus : Bus) (Q : α → Prop) (p : Dialogue Ops α) : Prop :=
  match bus with
  | .i2c => Yields Q (handle I2cTransport.elanI2cOps p)
  | .smbus => Yields Q (handle SmbusTransport.elanSmbusOps p)

/-! ## The query as the driver performs it -/

section Performed

open FirmwareBounds (serve performed retval answerOf)

variable {α β : Type} {ops : Bus} {site : Driver.Site} {data : Driver.Drv}

/-- Performed by the driver, the checked program does what `x` does, or has divided by zero. -/
def PerformsAs (ops : Bus) (site : Driver.Site) (p : Dialogue Ops (Except Stop α))
    (x : Driver.DrvM ℤ) (data : Driver.Drv) : Prop :=
  (run (inProg (serve ops site) p) data).value ≠ .error .divideByZero →
    run (performed ops site p) data = run x data

/-- A success returns 0. -/
theorem PerformsAs.ok {a : α} : PerformsAs ops site (pure (.ok a)) (pure 0) data := fun _ => rfl

/-- What is computed makes no difference, unless it divides by zero. -/
theorem PerformsAs.computed {r : Except Stop α} {f : α → Dialogue Ops (Except Stop β)}
    {x : Driver.DrvM ℤ} (hr : ∀ e, r = .error e → e = .divideByZero)
    (hf : ∀ a, r = .ok a → PerformsAs ops site (f a) x data) :
    PerformsAs ops site ((computed r).orReturn f) x data := by
  intro hdefined
  cases r with
  | error e =>
    rw [hr e rfl] at hdefined
    exact absurd rfl hdefined
  | ok a => exact hf a rfl hdefined

/-- The program is one query of the controller, which stops it at an error. -/
def Queries (ops : Bus) (site : Driver.Site) (op : Driver.Op) (X : Dialogue Ops (Except Stop α)) :
    Prop :=
  ∃ out : Driver.Reply → α, inProg (serve ops site) X = Driver.call op >>= fun reply =>
    pure (if reply.status ≠ 0 then .error (.status reply.status) else .ok (out reply))

/-- The program is computed from what is known, or else is a query of the controller. -/
def KnownOrQueries (ops : Bus) (site : Driver.Site) (known : Bool) (op : Driver.Op)
    (X : Dialogue Ops (Except Stop α)) : Prop :=
  if known then ∃ r, X = computed r ∧ ∀ e, r = .error e → e = .divideByZero
  else Queries ops site op X

/-- A query that the properties answer, or else the controller. -/
theorem PerformsAs.query {known : Bool} {op : Driver.Op} {X : Dialogue Ops (Except Stop α)}
    {f : α → Dialogue Ops (Except Stop β)} {x : Driver.DrvM ℤ}
    (hX : KnownOrQueries ops site known op X)
    (hf : ∀ a data, PerformsAs ops site (f a) x data) :
    PerformsAs ops site (X.orReturn f)
      ((if known then pure 0 else Driver.callStatus op) >>= fun error =>
        if error ≠ 0 then pure error else x) data := by
  cases known with
  | true =>
    obtain ⟨r, rfl, hr⟩ := hX
    exact PerformsAs.computed hr fun a _ => hf a data
  | false =>
    obtain ⟨out, hX⟩ := hX
    intro hdefined
    have hrun : inProg (serve ops site) (X.orReturn f) = Driver.call op >>= fun reply =>
        if reply.status ≠ 0 then pure (.error (.status reply.status))
        else inProg (serve ops site) (f (out reply)) := by
      rw [Dialogue.orReturn, Dialogue.inProg_bind, hX, Prog.bind_assoc]
      refine bind_congr fun reply => ?_
      rw [Prog.pure_bind]
      split_ifs <;> rfl
    rw [hrun, value_bind] at hdefined
    rw [performed, hrun, if_neg Bool.false_ne_true, Driver.callStatus, Prog.bind_assoc,
      Prog.bind_assoc]
    refine run_bind_congr ?_
    by_cases hstatus : (run (Driver.call op) data).value.status ≠ 0
    · rw [if_pos hstatus, Prog.pure_bind, Prog.pure_bind, if_pos hstatus]
      rfl
    · rw [if_neg hstatus] at hdefined
      rw [if_neg hstatus, Prog.pure_bind, if_neg hstatus]
      exact hf _ _ hdefined

/-- `divideBoth` fails only at a zero. -/
theorem divideBoth_error {a b : UInt32 × UInt32} {e : Stop} (h : divideBoth a b = .error e) :
    e = .divideByZero := by
  unfold divideBoth divide at h
  split_ifs at h <;> cases h <;> rfl

/-- The properties make the query superfluous. -/
def Properties.answers (props : Properties) : Driver.Op → Bool
  | .getMax => props.touchscreenSizeX.isSome && props.touchscreenSizeY.isSome
  | .getNumTraces => props.xTraces.isSome && props.yTraces.isSome
  | .getResolution => props.touchscreenXMm.isSome && props.touchscreenYMm.isSome
  | _ => false

/-- `askMax` is a query of the two sizes. -/
theorem queries_askMax (maxX maxY : UInt32) : Queries ops site .getMax (askMax maxX maxY) :=
  ⟨fun reply => (reply.out 0, reply.out 1), Prog.bind_assoc _ _ _⟩

/-- A call with an out-parameter. -/
theorem queries_stopping {X : Dialogue Ops (Except ℤ α)} {op : Driver.Op}
    {out : Driver.Reply → α} (hX : inProg (serve ops site) X = answerOf (Driver.call op) out) :
    Queries ops site op (stopping X) := by
  refine ⟨out, ?_⟩
  rw [stopping, Dialogue.inProg_bind, hX, answerOf, Prog.bind_assoc]
  refine bind_congr fun reply => ?_
  rw [Prog.pure_bind]
  split_ifs <;> rfl

/-- A query whose values are converted. -/
theorem Queries.map {op : Driver.Op} {X : Dialogue Ops (Except Stop α)} (g : α → β)
    (h : Queries ops site op X) : Queries ops site op (X.orReturn fun a => pure (.ok (g a))) := by
  obtain ⟨out, hX⟩ := h
  refine ⟨fun reply => g (out reply), ?_⟩
  rw [Dialogue.orReturn, Dialogue.inProg_bind, hX, Prog.bind_assoc]
  refine bind_congr fun reply => ?_
  rw [Prog.pure_bind]
  split_ifs <;> rfl

/-- `max_x` and `max_y` are both given, or asked for. -/
theorem queryMax_queries (props : Properties) (before : Parameters) :
    KnownOrQueries ops site (props.answers .getMax) .getMax (queryMax props before) := by
  unfold queryMax Properties.answers
  cases props.touchscreenSizeX with
  | none => exact queries_askMax _ _
  | some sizeX =>
    cases props.touchscreenSizeY with
    | none => exact queries_askMax _ _
    | some sizeY => exact ⟨_, rfl, nofun⟩

/-- The numbers of traces are both given, or asked for. -/
theorem queryTraces_queries (props : Properties) :
    KnownOrQueries ops site (props.answers .getNumTraces) .getNumTraces (queryTraces props) := by
  have hask : Queries ops site .getNumTraces (stopping (call (I := Ops) .getNumTraces)) :=
    queries_stopping (Dialogue.inProg_call (I := Ops) .getNumTraces)
  unfold queryTraces Properties.answers
  cases props.xTraces with
  | none => exact hask
  | some xTraces =>
    cases props.yTraces with
    | none => exact hask
    | some yTraces => exact ⟨_, rfl, nofun⟩

/-- The millimetres are both given, or the resolution is asked for. -/
theorem queryResolution_queries (charSigned : Bool) (props : Properties) (pattern : UInt8)
    (max : UInt32 × UInt32) :
    KnownOrQueries ops site (props.answers .getResolution) .getResolution
      (queryResolution charSigned props pattern max) := by
  have hask : Queries ops site .getResolution (stopping (call (I := Ops) .getResolution)) :=
    queries_stopping (Dialogue.inProg_call (I := Ops) .getResolution)
  unfold queryResolution Properties.answers
  cases props.touchscreenXMm with
  | none => exact hask.map _
  | some xMm =>
    cases props.touchscreenYMm with
    | none => exact hask.map _
    | some yMm => exact ⟨_, rfl, fun _ h => divideBoth_error h⟩

/-- The last status is returned as it is. -/
theorem bind_status (x : Driver.DrvM ℤ) :
    (x >>= fun error => if error ≠ 0 then pure error else pure 0) = x := by
  have hsame (error : ℤ) : (if error ≠ 0 then pure error else pure 0 : Driver.DrvM ℤ)
      = pure error := by
    by_cases herror : error = 0
    · rw [herror, if_neg (not_not_intro rfl)]
    · rw [if_pos herror]
  rw [funext hsame]
  exact Prog.bind_pure x

/-- **The driver performs the checked queries.**  Where the properties answer some of them and
nothing is divided by zero, the checked program asks the controller what the operations' model
asks it, and returns what that returns. -/
theorem performsAs_elanQueryDeviceParameters (charSigned : Bool) (props : Properties)
    (pattern : UInt8) (before : Parameters) :
    PerformsAs ops site (elanQueryDeviceParameters charSigned props pattern before)
      (Driver.parameterQueries fun op =>
        if props.answers op then pure 0 else Driver.callStatus op) data := by
  refine PerformsAs.query (queryMax_queries props before) fun max data => ?_
  refine PerformsAs.query (queryTraces_queries props) fun traces data => ?_
  refine PerformsAs.computed (fun _ h => divideBoth_error h) fun width _ => ?_
  show PerformsAs ops site _
    (if props.answers .getResolution then pure 0 else Driver.callStatus .getResolution) data
  rw [← bind_status (if props.answers .getResolution then pure 0 else _)]
  exact PerformsAs.query (queryResolution_queries charSigned props pattern max) fun _ _ =>
    PerformsAs.ok

end Performed

/-! ## What the transports answer -/

section Answers

/-- A query that succeeds has found two sizes of at most 16 bits. -/
def Sized (max : MaxAxes) : Prop :=
  max.status = 0 → ∃ x y : UInt32, max.maxX = some x ∧ max.maxY = some y
    ∧ x.toNat < 2 ^ 16 ∧ y.toNat < 2 ^ 16

/-- What the core relies on in an answer. -/
def Answers : (op : Op) → op.Answer → Prop
  | .getMax, max => Sized max
  | _, _ => True

/-- A transfer error is an error. -/
theorem transferError_ne_zero (ret : ℤ) : I2cTransport.transferError ret ≠ 0 := by
  unfold I2cTransport.transferError
  split_ifs with h
  · omega
  · decide

/-- A register is read, or there is an error. -/
theorem elanI2cReadCmd_yields {Q : Except ℤ Mem → Prop} (reg : UInt16)
    (herr : ∀ e, e ≠ 0 → Q (.error e)) (hok : ∀ val, Q (.ok val)) :
    Yields Q (I2cTransport.elanI2cReadCmd reg) := by
  intro read
  change I2cTransport.Filled at read
  show Q (if read.ret = 2 then .ok read.val else .error (I2cTransport.transferError read.ret))
  split_ifs
  · exact hok _
  · exact herr _ (transferError_ne_zero _)

/-- A block is read in full, or there is an error. -/
theorem readBlockExactly_yields {Q : Except ℤ Mem → Prop} (command : UInt8) (len : ℕ)
    (herr : ∀ e, e ≠ 0 → Q (.error e)) (hok : ∀ val, Q (.ok val)) :
    Yields Q (SmbusTransport.readBlockExactly command len) := by
  intro xfer
  change SmbusBlock at xfer
  show Q (if xfer.len ≠ len then .error (if xfer.len < 0 then xfer.len else eio)
    else .ok (overlay (fun _ => 0) 0 xfer.written))
  split_ifs with hlen hneg
  · exact herr _ (by omega)
  · exact herr _ (by decide)
  · exact hok _

/-- Over I2C a successful query has found two words. -/
theorem elanI2cGetMax_sized : Yields Sized I2cTransport.elanI2cGetMax := by
  have hword (val : Mem) : (le16ToCpup val).toUInt32.toNat < 2 ^ 16 := by
    rw [UInt16.toNat_toUInt32]
    exact (le16ToCpup val).toNat_lt
  refine yields_bind.mpr (elanI2cReadCmd_yields _ (fun e he h => absurd h he) fun valX => ?_)
  refine yields_bind.mpr (elanI2cReadCmd_yields _ (fun e he h => absurd h he) fun valY => ?_)
  exact fun _ => ⟨_, _, rfl, rfl, hword valX, hword valY⟩

/-- A byte and the shifted bits of another fit 16 bits. -/
theorem shifted_or_lt (high low : UInt8) (shift : UInt32) (hshift : shift.toNat ≤ 8) :
    (high.toUInt32 <<< shift ||| low.toUInt32).toNat < 2 ^ 16 := by
  have hlow : low.toNat < 2 ^ 8 := low.toNat_lt
  have hhigh : high.toNat < 2 ^ 8 := high.toNat_lt
  rw [UInt32.toNat_or]
  refine Nat.or_lt_two_pow ?_ ?_
  · rw [UInt32.toNat_shiftLeft, UInt8.toNat_toUInt32, Nat.shiftLeft_eq]
    have hpow : 2 ^ (shift.toNat % 32) ≤ 2 ^ 8 := Nat.pow_le_pow_right (by decide) (by omega)
    calc high.toNat * 2 ^ (shift.toNat % 32) % 2 ^ 32
        ≤ high.toNat * 2 ^ (shift.toNat % 32) := Nat.mod_le _ _
      _ ≤ high.toNat * 2 ^ 8 := Nat.mul_le_mul_left _ hpow
      _ < 2 ^ 16 := by omega
  · rw [UInt8.toNat_toUInt32]
    omega

/-- Over SMBus it has found two numbers of 12 bits. -/
theorem elanSmbusGetMax_sized : Yields Sized SmbusTransport.elanSmbusGetMax := by
  refine yields_bind.mpr (readBlockExactly_yields _ _ (fun e he h => absurd h he) fun val => ?_)
  have hx := shifted_or_lt (0x0f &&& val 0) (val 1) 8 (by decide)
  have hy := shifted_or_lt (0xf0 &&& val 0) (val 2) 4 (by decide)
  rw [UInt8.toUInt32_and] at hx hy
  exact fun _ => ⟨_, _, rfl, rfl, hx, hy⟩

/-- The I2C transport answers as the core relies on. -/
theorem elanI2cOps_answers (op : Op) : Yields (Answers op) (I2cTransport.elanI2cOps op) := by
  cases op with
  | getMax => exact elanI2cGetMax_sized
  | _ => exact yields_true _

/-- And so does the SMBus transport. -/
theorem elanSmbusOps_answers (op : Op) :
    Yields (Answers op) (SmbusTransport.elanSmbusOps op) := by
  cases op with
  | getMax => exact elanSmbusGetMax_sized
  | _ => exact yields_true _

/-- What holds of a program under these answers holds over each transport. -/
theorem overBus_of_answers {α : Type} {Q : α → Prop} {p : Dialogue Ops α} (bus : Bus)
    (hp : Always (fun (_ : Unit) op answer _ => Answers op answer) (fun _ _ => True)
      (fun a _ => Q a) p ()) : OverBus bus Q p := by
  cases bus with
  | i2c => exact Yields.handle elanI2cOps_answers hp
  | smbus => exact Yields.handle elanSmbusOps_answers hp

end Answers

/-! ## The parameters fit the ranges of the axes -/

section Fits

/-- A pad whose contact areas can be advertised. -/
def Small (max : UInt32 × UInt32) : Prop := 15 * max.1.toNat < 2 ^ 31 ∧ 15 * max.2.toNat < 2 ^ 31

/-- Sizes that the properties give are not empty, and small. -/
def Sensible (props : Properties) : Prop :=
  ∀ sizeX sizeY, props.touchscreenSizeX = some sizeX → props.touchscreenSizeY = some sizeY →
    0 < sizeX ∧ 0 < sizeY ∧ Small (sizeX - 1, sizeY - 1)

/-- The arguments of the decoder: the parameters, and the fields that the driver keeps. -/
def decodeParams (d : Parameters) (data : Driver.Drv) : DecodeParams where
  maxX := d.maxX
  maxY := d.maxY
  widthX := d.widthX
  widthY := d.widthY
  pressureAdjustment := data.pressureAdjustment
  reportFeatures := data.reportFeatures

/-- The context that `elan_isr` fills in. -/
def reportContext (d : Parameters) (data : Driver.Drv) : ElanRsReportContext :=
  ⟨decodeParams d data, data.tpInput⟩

/-- A quotient is at most its dividend. -/
theorem divide_le {a b q : UInt32} (h : divide a b = .ok q) : q.toNat ≤ a.toNat := by
  unfold divide at h
  split_ifs at h
  cases h
  rw [UInt32.toNat_div]
  exact Nat.div_le_self _ _

/-- And so are both quotients. -/
theorem divideBoth_le {a b q : UInt32 × UInt32} (h : divideBoth a b = .ok q) :
    q.1.toNat ≤ a.1.toNat ∧ q.2.toNat ≤ a.2.toNat := by
  cases hx : divide a.1 b.1 with
  | error e =>
    rw [divideBoth, hx] at h
    cases h
  | ok x =>
    cases hy : divide a.2 b.2 with
    | error e =>
      rw [divideBoth, hx, hy] at h
      cases h
    | ok y =>
      rw [divideBoth, hx, hy] at h
      cases h
      exact ⟨divide_le hx, divide_le hy⟩

/-- The parameters of a small pad fit the ranges. -/
theorem fits_of_small {d : Parameters} {data : Driver.Drv} (hmax : Small (d.maxX, d.maxY))
    (hx : d.widthX.toNat ≤ d.maxX.toNat) (hy : d.widthY.toNat ≤ d.maxY.toNat) :
    AxisRanges.Fits (decodeParams d data) := by
  obtain ⟨hmaxX, hmaxY⟩ := hmax
  dsimp only at hmaxX hmaxY
  refine ⟨?_, ?_, ?_⟩
  · show d.maxX.toNat < 2 ^ 31
    omega
  · show d.maxY.toNat < 2 ^ 31
    omega
  · show 15 * max d.widthX.toNat d.widthY.toNat < 2 ^ 31
    omega

/-- The answers that the parameters may get. -/
abbrev controller : World Unit Ops := fun _ op answer _ => Answers op answer

/-- The sizes that the controller reports are small. -/
theorem askMax_small (maxX maxY : UInt32) :
    Always controller (fun _ _ => True) (fun r _ => ∀ max, r = .ok max → Small max)
      (askMax maxX maxY) () := by
  refine ⟨trivial, fun max _ hsized => ?_⟩
  change MaxAxes at max
  intro m hm
  split_ifs at hm with hstatus
  obtain ⟨x, y, hx, hy, hxlt, hylt⟩ := hsized (not_not.mp hstatus)
  rw [hx, hy] at hm
  cases hm
  exact ⟨by show 15 * x.toNat < 2 ^ 31; omega, by show 15 * y.toNat < 2 ^ 31; omega⟩

/-- And so are sensible sizes from the properties. -/
theorem queryMax_small {props : Properties} (hprops : Sensible props) (data : Parameters) :
    Always controller (fun _ _ => True) (fun r _ => ∀ max, r = .ok max → Small max)
      (queryMax props data) () := by
  unfold queryMax
  split
  · rename_i sizeX sizeY hx hy
    rintro max ⟨⟩
    exact (hprops sizeX sizeY hx hy).2.2
  · exact askMax_small _ _

/-- A computation ends the program or goes on. -/
theorem computed_always {α β : Type} {r : Except Stop α} {f : α → Dialogue Ops (Except Stop β)}
    {Q : Except Stop β → Unit → Prop} (herr : ∀ e, Q (.error e) ())
    (hok : ∀ a, r = .ok a → Always controller (fun _ _ => True) Q (f a) ()) :
    Always controller (fun _ _ => True) Q ((computed r).orReturn f) () := by
  cases r with
  | error e => exact herr e
  | ok a => exact hok a rfl

/-- **The parameters that a query finds fit the ranges of the axes.** -/
theorem elanQueryDeviceParameters_fits (charSigned : Bool) {props : Properties}
    (hprops : Sensible props) (pattern : UInt8) (before : Parameters) (data : Driver.Drv) :
    Always controller (fun _ _ => True)
      (fun r _ => ∀ d, r = .ok d → AxisRanges.Fits (decodeParams d data))
      (elanQueryDeviceParameters charSigned props pattern before) () := by
  refine (queryMax_small hprops before).orReturn (fun e _ _ => nofun) fun max _ hmax => ?_
  refine ((yields_true (queryTraces props)).always ()).orReturn (fun e _ _ => nofun)
    fun traces _ _ => ?_
  refine computed_always (fun e => nofun) fun width hwidth => ?_
  obtain ⟨hx, hy⟩ := divideBoth_le hwidth
  refine ((yields_true (queryResolution charSigned props pattern max)).always ()).orReturn
    (fun e _ _ => nofun) fun res _ _ => ?_
  rintro d ⟨⟩
  exact fits_of_small (hmax max rfl) hx hy

end Fits

/-! ## What the interrupt handler reports -/

section Reports

variable {σ : Type}

/-- The trackpoint reports no absolute values. -/
theorem elanRsEmitTrackpoint_reportsInRange (p : DecodeParams) (context : ElanRsReportContext)
    (f : ElanRsFrame) :
    Only (AxisRanges.ReportsInRange p) (elanRsEmitTrackpoint context f : Prog σ Call ℤ) := by
  have hreport (event : InputEvent) (h : ∀ axis value, event ≠ .abs axis value) :
      Only (AxisRanges.ReportsInRange p) (inputReport .trackpoint event : Prog σ Call Unit) :=
    AxisRanges.inputReport_reports fun axis value hevent => absurd hevent (h axis value)
  refine Only.ite (fun _ => Only.pure _) fun _ => ?_
  refine Only.bind (Only.emit fun dev axis value hcall => by cases hcall) fun _ => ?_
  refine Only.bind (hreport _ nofun) fun _ => ?_
  refine Only.bind (hreport _ nofun) fun _ => ?_
  refine Only.bind (hreport _ nofun) fun _ => ?_
  refine Only.bind (Only.ite (fun _ => ?_) fun _ => Only.pure _) fun _ => ?_
  · exact Only.bind (hreport _ nofun) fun _ => hreport _ nofun
  · exact Only.bind (hreport _ nofun) fun _ => Only.pure _

/-- Any report, decoded or refused, is reported in range. -/
theorem elanRsEmitReport_reportsInRange {context : ElanRsReportContext}
    (hfits : AxisRanges.Fits context.toDecodeParams)
    (hfeat : context.reportFeatures = 0 ∨ context.reportFeatures = 1) (report : Mem) (n : ℕ)
    (frame : ElanRsFrame) :
    Only (AxisRanges.ReportsInRange context.toDecodeParams)
      (elanRsEmitReport context report n frame : Prog σ Call ℤ) := by
  refine Only.ite (fun _ => Only.pure _) fun hvalue => ?_
  have hwithin := AxisRanges.decodeReport_within
    ((ReportGrammar.decodeReport_accepts_iff context.toDecodeParams report n frame).mp
      (not_not.mp hvalue)) frame
  refine Only.ite (fun _ => ?_) fun _ => Only.ite (fun _ => ?_) fun _ => Only.pure _
  · refine Only.bind ?_ fun _ => Only.pure _
    exact AxisRanges.elanRsEmitAbsolute_reportsInRange hfits hfeat hwithin
  · exact elanRsEmitTrackpoint_reportsInRange _ _ _

/-- One interrupt. -/
theorem elanIsr_only {context : ElanRsReportContext} (bus : Bus)
    (hfits : AxisRanges.Fits context.toDecodeParams)
    (hfeat : context.reportFeatures = 0 ∨ context.reportFeatures = 1) (reportLen : ℕ)
    (report : Mem) (frame : ElanRsFrame) (xfer : Xfer reportLen bus) :
    Only (AxisRanges.ReportsInRange context.toDecodeParams)
      (Interrupt.elanIsr bus context reportLen report frame xfer) := by
  have hget {α : Type} {f : Interrupt.IsrData → Prog Interrupt.IsrData Call α}
      (hf : ∀ data, Only (AxisRanges.ReportsInRange context.toDecodeParams) (f data)) :
      Only (AxisRanges.ReportsInRange context.toDecodeParams) (get >>= f) :=
    Only.bind (fun s => by simp) hf
  have hqueue : Only (AxisRanges.ReportsInRange context.toDecodeParams)
      Interrupt.elanQueueWatchdog := Only.modify _
  refine hget fun data => Only.ite (fun _ => Only.modify _) fun _ => ?_
  refine Only.ite (fun _ => ?_) fun _ => ?_
  · exact Only.bind (Only.modify _) fun _ => Only.ite (fun _ => hqueue) fun _ => Only.pure _
  · refine Only.bind (Only.modify _) fun _ => ?_
    refine Only.bind (elanRsEmitReport_reportsInRange hfits hfeat _ _ _) fun error => ?_
    exact Only.ite (fun _ => Only.emit nofun) fun _ => Only.pure _

/-- The size of the stack buffer of `elan_isr`. -/
def etpMaxReportLen : ℕ := 39

/-- The features of a known report format, and a report that fits the stack buffer. -/
def KnownFormat (data : Driver.Drv) : Prop :=
  (data.reportFeatures = 0 ∨ data.reportFeatures = 1) ∧ data.reportLen ≤ etpMaxReportLen

/-- There are two formats, and their reports fit the buffer. -/
theorem getReportFeatures_known (bus : Bus) (pattern : UInt8) :
    ((getReportFeatures bus pattern).1 = 0 ∨ (getReportFeatures bus pattern).1 = 1)
      ∧ (getReportFeatures bus pattern).2 ≤ etpMaxReportLen := by
  cases bus with
  | i2c =>
    refine ⟨Or.inr rfl, ?_⟩
    show (if pattern ≤ 1 then 34 else 39) ≤ 39
    split_ifs <;> decide
  | smbus =>
    refine ⟨?_, show 32 ≤ 39 by decide⟩
    unfold getReportFeatures
    by_cases h : pattern ≤ 1
    · exact Or.inr (if_pos h)
    · exact Or.inl (if_neg h)

/-- Only `elan_query_device_info` stores a format. -/
theorem knownFormat_of_writes {data data' : Driver.Drv} (hstep : Driver.Writes data data')
    (h : KnownFormat data) : KnownFormat data' := by
  cases hstep with
  | store hstore => cases hstore <;> exact h
  | deviceInfo => exact getReportFeatures_known data.ops data.pattern

/-- **Nothing is reported outside of the advertised ranges.**  In every run of the driver, for
every answer that the bus has given to the queries of the pad's parameters, and for every report
that it then delivers: the report fits the buffer of the interrupt handler, and every absolute
value that the handler reports lies in the range that is registered for its axis. -/
theorem elanIsr_reportsInRange (bus : Bus) (replies : ℕ → Driver.Reply)
    (ops : List Driver.DriverOp) (s : Driver.Session) (charSigned : Bool) (props : Properties)
    (before : Parameters)
    (hrun : Runs.runFrom Driver.perform (Driver.probed bus replies) ops = some s)
    (hprops : Sensible props) :
    s.data.reportLen ≤ etpMaxReportLen
      ∧ OverBus bus (fun r => ∀ d, r = .ok d →
          ∀ (report : Mem) (frame : ElanRsFrame) (xfer : Xfer s.data.reportLen bus),
            Only (fun c => ∀ dev axis value, c = .input dev (.abs axis value) →
                AxisRanges.InAdvertised (decodeParams d s.data) axis value)
              (Interrupt.elanIsr bus (reportContext d s.data) s.data.reportLen report frame xfer))
        (elanQueryDeviceParameters charSigned props s.data.pattern before) := by
  obtain ⟨hfeat, hlen⟩ : KnownFormat s.data :=
    Driver.Session.invariant ⟨Or.inl rfl, Nat.zero_le _⟩ (fun _ _ => knownFormat_of_writes) hrun
  refine ⟨hlen, overBus_of_answers bus ?_⟩
  refine (elanQueryDeviceParameters_fits charSigned hprops s.data.pattern before s.data).mono
    (fun _ _ hc => hc) fun r _ hr d hd report frame xfer => ?_
  exact elanIsr_only bus (hr d hd) hfeat _ report frame xfer

end Reports

/-- A device without properties. -/
def plain : Properties := ⟨none, none, none, none, none, none, false, false⟩

/-- Its parameters come from the controller. -/
theorem elanIsr_reportsInRange_plain :
    OverBus .smbus (fun r => ∀ d, r = .ok d →
      ∀ (report : Mem) (frame : ElanRsFrame) (xfer : Xfer 32 .smbus),
        Only (fun c => ∀ dev axis value, c = .input dev (.abs axis value) →
            AxisRanges.InAdvertised (decodeParams d (Driver.probed .smbus Driver.allSucceed).data)
              axis value)
          (Interrupt.elanIsr .smbus
            (reportContext d (Driver.probed .smbus Driver.allSucceed).data) 32 report frame xfer))
      (elanQueryDeviceParameters false plain
        (Driver.probed .smbus Driver.allSucceed).data.pattern ⟨0, 0, 0, 0, 0, 0, 0, false⟩) :=
  (elanIsr_reportsInRange .smbus Driver.allSucceed [] _ false plain _ rfl fun _ _ h => by cases h).2

/-! ## Divisions by zero -/

section Divisions

/-- The numbers of traces are given, and no property that is divided by is zero. -/
def Divisible (props : Properties) : Prop :=
  (∃ xTraces yTraces, props.xTraces = some xTraces ∧ props.yTraces = some yTraces
      ∧ xTraces ≠ 0 ∧ yTraces ≠ 0)
    ∧ ∀ xMm yMm, props.touchscreenXMm = some xMm → props.touchscreenYMm = some yMm →
      xMm ≠ 0 ∧ yMm ≠ 0

/-- What C defines. -/
def Defined {α : Type} (r : Except Stop α) : Prop := r ≠ .error .divideByZero

/-- Both quotients are defined just if no divisor is zero. -/
theorem divideBoth_defined_iff {a b : UInt32 × UInt32} :
    Defined (divideBoth a b) ↔ b.1 ≠ 0 ∧ b.2 ≠ 0 := by
  by_cases hx : b.1 = 0
  · have h : divideBoth a b = .error .divideByZero := by rw [divideBoth, divide, if_pos hx]; rfl
    exact iff_of_false (fun hd => hd h) fun hb => hb.1 hx
  by_cases hy : b.2 = 0
  · have h : divideBoth a b = .error .divideByZero := by
      rw [divideBoth, divide, if_neg hx, divide, if_pos hy]
      rfl
    exact iff_of_false (fun hd => hd h) fun hb => hb.2 hy
  · refine iff_of_true ?_ ⟨hx, hy⟩
    rw [divideBoth, divide, if_neg hx, divide, if_neg hy]
    exact nofun

/-- A call divides by nothing. -/
theorem stopping_defined {α : Type} (p : Dialogue Ops (Except ℤ α)) :
    Yields Defined (stopping p) := by
  refine (yields_true p).bind fun r _ => ?_
  cases r <;> exact nofun

/-- The query of the sizes divides by nothing. -/
theorem queryMax_defined (props : Properties) (before : Parameters) :
    Yields Defined (queryMax props before) := by
  unfold queryMax
  split
  · exact nofun
  · intro max h
    change MaxAxes at max
    split_ifs at h
    cases h

/-- The query of the resolution divides by the millimetres only. -/
theorem queryResolution_defined (charSigned : Bool) {props : Properties}
    (hprops : Divisible props) (pattern : UInt8) (max : UInt32 × UInt32) :
    Yields Defined (queryResolution charSigned props pattern max) := by
  unfold queryResolution
  split
  · rename_i xMm yMm hx hy
    exact divideBoth_defined_iff.mpr (hprops.2 xMm yMm hx hy)
  · exact (stopping_defined _).orReturn (fun e he h => he (congrArg _ (Except.error.inj h)))
      fun _ _ => nofun

section Handled

variable {J : Interface} {h : Handler Ops J}

/-- A transport whose controller may have a size, but no traces. -/
structure Untraced (h : Handler Ops J) : Prop where
  max : ∃ max : MaxAxes, max.status = 0 ∧ MayReturn (h .getMax) max
  traces : MayReturn (h .getNumTraces) (.ok ((0, 0) : UInt32 × UInt32) : Except ℤ _)

/-- The query of the sizes may succeed. -/
theorem mayReturn_queryMax (hh : Untraced h) (props : Properties) (before : Parameters) :
    ∃ max, MayReturn (handle h (queryMax props before)) (.ok max) := by
  obtain ⟨answer, hstatus, hanswer⟩ := hh.max
  have hask (maxX maxY : UInt32) :
      ∃ max, MayReturn (handle h (askMax maxX maxY)) (.ok max) := by
    refine ⟨(answer.maxX.getD maxX, answer.maxY.getD maxY), ?_⟩
    have hok : (if answer.status ≠ 0 then Except.error (Stop.status answer.status)
        else .ok (answer.maxX.getD maxX, answer.maxY.getD maxY))
        = .ok (answer.maxX.getD maxX, answer.maxY.getD maxY) := if_neg (not_not.mpr hstatus)
    refine MayReturn.bind hanswer ?_
    rw [← hok]
    exact .done _
  unfold queryMax
  split
  · exact ⟨_, .done _⟩
  · exact hask _ _

/-- Where a number of traces is missing, the controller may answer with none. -/
theorem mayReturn_queryTraces (hh : Untraced h) {props : Properties}
    (hmissing : ∀ xTraces yTraces, props.xTraces = some xTraces → props.yTraces ≠ some yTraces) :
    MayReturn (handle h (queryTraces props)) (.ok (0, 0)) := by
  unfold queryTraces
  split
  · rename_i xTraces yTraces hx hy
    exact absurd hy (hmissing xTraces yTraces hx)
  · exact MayReturn.bind hh.traces (.done _)

/-- Given numbers of traces are taken. -/
theorem queryTraces_of_given {props : Properties} {xTraces yTraces : UInt32}
    (hx : props.xTraces = some xTraces) (hy : props.yTraces = some yTraces) :
    queryTraces props = pure (.ok (xTraces, yTraces)) := by
  rw [queryTraces, hx, hy]

/-- A program that is always defined starts with a defined computation. -/
theorem defined_of_computed {α β : Type} {r : Except Stop α}
    {f : α → Dialogue Ops (Except Stop β)}
    (hr : Yields Defined (handle h ((computed r).orReturn f))) : Defined r := by
  cases r with
  | error e => exact fun he => hr (congrArg _ (Except.error.inj he))
  | ok a => exact nofun

/-- **The query divides by zero unless the properties exclude it.** -/
theorem elanQueryDeviceParameters_handled_iff (hh : Untraced h) (charSigned : Bool)
    (props : Properties) (pattern : UInt8) (before : Parameters) :
    Yields Defined (handle h (elanQueryDeviceParameters charSigned props pattern before))
      ↔ Divisible props := by
  constructor
  · intro hdefined
    obtain ⟨max, hmax⟩ := mayReturn_queryMax hh props before
    rw [elanQueryDeviceParameters, handle_orReturn] at hdefined
    have hafter := hdefined.of_orReturn hmax
    rw [handle_orReturn] at hafter
    have htraces : ∀ traces, MayReturn (handle h (queryTraces props)) (.ok traces) →
        traces.1 ≠ 0 ∧ traces.2 ≠ 0 := fun traces ht =>
      divideBoth_defined_iff.mp (defined_of_computed (hafter.of_orReturn ht))
    obtain ⟨xTraces, yTraces, hx, hy⟩ :
        ∃ xTraces yTraces, props.xTraces = some xTraces ∧ props.yTraces = some yTraces := by
      by_contra hmissing
      have hnone : ∀ xTraces yTraces, props.xTraces = some xTraces →
          props.yTraces ≠ some yTraces := fun x y hx hy => hmissing ⟨x, y, hx, hy⟩
      exact (htraces _ (mayReturn_queryTraces hh hnone)).1 rfl
    have hgiven : MayReturn (handle h (queryTraces props)) (.ok (xTraces, yTraces)) := by
      rw [queryTraces_of_given hx hy]
      exact .done _
    refine ⟨⟨xTraces, yTraces, hx, hy, htraces _ hgiven⟩, fun xMm yMm hxMm hyMm => ?_⟩
    have hwidth : divideBoth max (xTraces, yTraces)
        = .ok (max.1 / xTraces, max.2 / yTraces) := by
      rw [divideBoth, divide, if_neg (htraces _ hgiven).1, divide, if_neg (htraces _ hgiven).2]
      rfl
    have hres := hafter.of_orReturn hgiven
    rw [hwidth, queryResolution, hxMm, hyMm] at hres
    exact divideBoth_defined_iff.mp (defined_of_computed hres)
  · intro hprops
    obtain ⟨⟨xTraces, yTraces, hx, hy, hne⟩, -⟩ := id hprops
    have hupper : Yields Defined
        (elanQueryDeviceParameters charSigned props pattern before) := by
      have herr {α β : Type} (e : Stop) (he : Defined (.error e : Except Stop α)) :
          Defined (.error e : Except Stop β) := fun h => he (congrArg _ (Except.error.inj h))
      refine (queryMax_defined props before).orReturn herr fun max _ => ?_
      rw [queryTraces_of_given hx hy]
      have hwidth : Defined (divideBoth max (xTraces, yTraces)) := divideBoth_defined_iff.mpr hne
      show Yields Defined ((computed (divideBoth max (xTraces, yTraces))).orReturn _)
      refine Yields.orReturn (Q := Defined) hwidth herr fun width _ => ?_
      exact (queryResolution_defined charSigned hprops pattern max).orReturn herr
        fun res _ => nofun
    exact Yields.handle (A := fun _ _ => True) (fun _ => yields_true _) (hupper.always ())

end Handled

/-- The buses may deliver nothing but zeros. -/
theorem elanI2cOps_untraced : Untraced I2cTransport.elanI2cOps where
  max := ⟨⟨0, some 0, some 0⟩, rfl, .ask (I2cTransport.Filled.mk 2 fun _ => 0)
    (.ask (I2cTransport.Filled.mk 2 fun _ => 0) (.done _))⟩
  traces := .ask (I2cTransport.Filled.mk 2 fun _ => 0) (.done _)

def zeros : SmbusBlock := .block [0, 0, 0] (by decide)

/-- The bus may answer three zeros. -/
theorem mayReturn_readBlockExactly (command : UInt8) :
    MayReturn (SmbusTransport.readBlockExactly command 3)
      (.ok (overlay (fun _ => 0) 0 zeros.written)) := .ask zeros (.done _)

/-- The controller on SMBus may report no traces. -/
theorem elanSmbusOps_untraced : Untraced SmbusTransport.elanSmbusOps where
  max := ⟨⟨0, some _, some _⟩, rfl,
    MayReturn.bind (mayReturn_readBlockExactly SmbusTransport.etpSmbusRangeCmd) (.done _)⟩
  traces :=
    MayReturn.bind (mayReturn_readBlockExactly SmbusTransport.etpSmbusXyTracenumCmd) (.done _)

/-- **When probing is safe from a division by zero.**  On either bus the query divides by zero
for no answers of the controller just if the numbers of traces are given by properties, and
neither these nor the millimetres are zero: a controller that reports no traces stops the
kernel. -/
theorem elanQueryDeviceParameters_defined_iff (bus : Bus) (charSigned : Bool)
    (props : Properties) (pattern : UInt8) (before : Parameters) :
    OverBus bus Defined (elanQueryDeviceParameters charSigned props pattern before)
      ↔ Divisible props := by
  cases bus with
  | i2c => exact elanQueryDeviceParameters_handled_iff elanI2cOps_untraced _ _ _ _
  | smbus => exact elanQueryDeviceParameters_handled_iff elanSmbusOps_untraced _ _ _ _

end Divisions

end DeviceParameters

/-
# What each decoder function does

One lemma per function of the decoder, in terms of the layout of
`ReportFormat.lean`: the value it returns, the frame it leaves, and that every
access it makes stays inside the report.  The slot loop is treated from an
arbitrary slot `i` on; its invariant is that the running offset is the record
offset `recordAt tpInfo i` of that slot.
-/
import ElanGuardian.ReportFormat

open Prog ReportFormat

namespace ElanCore

/-! ## Accesses -/

/-- An access the decoder may make on a report of `n` bytes: a read below `n`. -/
def Access.Within (n : ℕ) : Access → Prop
  | .read offset => offset < n
  | .defaulted => False

variable {r : Mem} {n o : ℕ} {hp : Bool} {p : DecodeParams} {tpInfo : UInt8}
variable {slot : Fin maxContacts} {f : ElanRsFrame}

/-- A byte inside of the report is read. -/
theorem run_readByte (h : o < n) : (readByte r n o).run f = ⟨some (r o), f, [.read o]⟩ := by
  rw [readByte, if_neg (by omega)]
  rfl

/-- A byte behind the report is not read. -/
theorem run_readByte_of_le (h : n ≤ o) : (readByte r n o).run f = ⟨none, f, []⟩ := by
  rw [readByte, if_pos h]
  rfl

/-- A byte inside of the report is its value. -/
theorem run_readByteOrZero (h : o < n) :
    (readByteOrZero r n o).run f = ⟨r o, f, [.read o]⟩ := by
  show Outcome.mk _ _ _ = _
  rw [run_readByte h]
  rfl

/-- A byte is read inside of the report. -/
theorem readByte_within : Only (Access.Within n) (readByte r n o) := by
  refine Only.ite (fun _ => Only.pure _) fun h => ?_
  exact Only.bind (Only.emit (by simpa [Access.Within] using h)) fun _ => Only.pure _

/-- Below the length, the default of `unwrap_or(0)` is never taken. -/
theorem readByteOrZero_within (h : o < n) : Only (Access.Within n) (readByteOrZero r n o) := by
  intro f
  rw [run_readByteOrZero h]
  simpa [Access.Within] using h

/-! ## One finger record -/

/-- The byte that carries the contact's area: in the record itself, or, in a
high-precision report, in a table at offset 33. -/
def mkByte (hp : Bool) (r : Mem) (o : ℕ) (slot : ℕ) : UInt8 :=
  if hp then r (33 + slot) else r (o + 3)

/-- The area byte lies outside the record, and is asked for. -/
def NeedsMk (hp : Bool) (p : DecodeParams) : Prop :=
  hp = true ∧ p.reportFeatures &&& featureReportMk ≠ 0

instance (hp : Bool) (p : DecodeParams) : Decidable (NeedsMk hp p) :=
  inferInstanceAs (Decidable (_ ∧ _))

/-- The record at `o` holds coordinates on the pad. -/
def FitsPad (hp : Bool) (p : DecodeParams) (r : Mem) (o : ℕ) : Prop :=
  coordX hp r o ≤ p.maxX.toNat ∧ coordY hp r o ≤ p.maxY.toNat

instance (hp : Bool) (p : DecodeParams) (r : Mem) (o : ℕ) : Decidable (FitsPad hp p r o) :=
  inferInstanceAs (Decidable (_ ∧ _))

/-- A slot is in range just if the record at its place fits the pad. -/
theorem inRange_iff_fitsPad {s : ℕ} :
    InRange hp p r s ↔ FitsPad hp p r (recordAt (r 3) s) := Iff.rfl

/-- The assignments made to a contact, area included. -/
def fillContact (hp : Bool) (p : DecodeParams) (r : Mem) (o slot : ℕ)
    (c : ElanRsContact) : ElanRsContact :=
  let xy := recordCoords hp (r o) (r (o + 1)) (r (o + 2)) (r (o + 3))
  let mk := mkByte hp r o slot
  let areaX := saturatingMul (mk &&& 0x0f).toUInt32 (saturatingSub p.widthX fingerWidthReduce)
  let areaY := saturatingMul (mk >>> 4).toUInt32 (saturatingSub p.widthY fingerWidthReduce)
  let placed : ElanRsContact :=
    { c with
      active := 1
      x := xy.1
      y := p.maxY - xy.2
      pressure := scaledPressure (r (o + 4)) p.pressureAdjustment }
  if p.reportFeatures &&& featureReportMk ≠ 0 then
    { placed with
      toolWidth := (mk &&& 0x0f).toUInt32
      touchMajor := max areaX areaY
      touchMinor := min areaX areaY }
  else placed

/-- The frame with the contact of `slot` filled from the record at `o`. -/
def putContact (hp : Bool) (p : DecodeParams) (r : Mem) (o : ℕ) (slot : Fin maxContacts)
    (f : ElanRsFrame) : ElanRsFrame :=
  { f with
    contacts := f.contacts.set slot (fillContact hp p r o slot (f.contact slot)) slot.isLt
    contactMask := f.contactMask ||| (1 <<< UInt32.ofNat slot) }

/-- The decoder's range check is the one on natural numbers. -/
theorem coords_le_iff :
    ((recordCoords hp (r o) (r (o + 1)) (r (o + 2)) (r (o + 3))).1 ≤ p.maxX
      ∧ (recordCoords hp (r o) (r (o + 1)) (r (o + 2)) (r (o + 3))).2 ≤ p.maxY)
      ↔ FitsPad hp p r o := by
  rw [UInt32.le_iff_toNat_le, UInt32.le_iff_toNat_le, recordCoords_fst_toNat,
    recordCoords_snd_toNat, FitsPad]

section Contact

variable (slot) in
/-- `decodeContact` on the bytes of the record at `o`. -/
def contactAt (r : Mem) (n : ℕ) (hp : Bool) (p : DecodeParams) (o : ℕ) : Decode (Option ℤ) :=
  decodeContact r n hp p slot (r o) (r (o + 1)) (r (o + 2)) (r (o + 3)) (r (o + 4))

/-- A record off the pad gives no contact. -/
theorem run_contactAt_outside (h : ¬ FitsPad hp p r o) :
    (contactAt slot r n hp p o).run f = ⟨none, f, []⟩ := by
  rw [contactAt, decodeContact, if_neg (by rw [coords_le_iff]; exact h)]
  rfl

/-- A record on the pad whose area byte lies beyond the report is rejected. -/
theorem value_contactAt_missing (h : FitsPad hp p r o) (hmk : NeedsMk hp p)
    (hlen : n ≤ 33 + slot) : ((contactAt slot r n hp p o).run f).value = some einval := by
  rw [contactAt, decodeContact, if_pos (coords_le_iff.mpr h)]
  simp only [modifyContact, readMk, value_bind, run_modify, if_pos hmk.2, if_pos hmk.1,
    mkDataOffset, run_readByte_of_le hlen]
  rfl

variable (slot f) in
/-- Any other record on the pad fills its contact. -/
theorem run_contactAt_filled (h : FitsPad hp p r o) (hmk : NeedsMk hp p → 33 + (slot : ℕ) < n) :
    ((contactAt slot r n hp p o).run f).value = none
      ∧ ((contactAt slot r n hp p o).run f).state = putContact hp p r o slot f := by
  rw [contactAt, decodeContact, if_pos (coords_le_iff.mpr h)]
  by_cases hfeat : p.reportFeatures &&& featureReportMk ≠ 0
  · cases hp with
    | false =>
      simp only [modifyContact, readMk, value_bind, state_bind, run_modify, if_pos hfeat,
        Bool.false_eq_true, if_false, run_pure, putContact, fillContact, mkByte]
      simp
    | true =>
      simp only [modifyContact, readMk, value_bind, state_bind, run_modify, if_pos hfeat,
        if_true, mkDataOffset, run_readByte (hmk ⟨rfl, hfeat⟩), run_pure, putContact,
        fillContact, mkByte]
      simp
  · simp only [modifyContact, value_bind, state_bind, run_modify, if_neg hfeat, run_pure,
      putContact, fillContact]
    simp

/-- A contact is decoded without leaving the report. -/
theorem decodeContact_within (b0 b1 b2 b3 b4 : UInt8) :
    Only (Access.Within n) (decodeContact r n hp p slot b0 b1 b2 b3 b4) := by
  refine Only.ite (fun _ => ?_) fun _ => Only.pure _
  refine Only.bind (Only.modify _) fun _ => Only.bind (Only.modify _) fun _ => ?_
  refine Only.ite (fun _ => ?_) fun _ => Only.pure _
  have hmk : Only (Access.Within n) (readMk r n hp slot b3) :=
    Only.ite (fun _ => readByte_within) fun _ => Only.pure _
  refine Only.bind hmk fun mk => ?_
  cases mk with
  | none => exact Only.pure _
  | some mk => exact Only.bind (Only.modify _) fun _ => Only.pure _

end Contact

/-! ## The slot loop -/

/-- The report may be accepted as far as the record of `slot` is concerned: the
record is complete, and so is the area table up to this slot if it is needed. -/
def AcceptsRecord (hp : Bool) (p : DecodeParams) (r : Mem) (n slot : ℕ) : Prop :=
  recordAt (r 3) slot + 5 ≤ n ∧ (NeedsMk hp p → InRange hp p r slot → 33 + slot < n)

/-- The slots from number `i` on. -/
def slotsFrom (i : ℕ) : List (Fin maxContacts) := (List.finRange maxContacts).drop i

/-- From slot 0 on there are all slots. -/
theorem slotsFrom_zero : slotsFrom 0 = List.finRange maxContacts := rfl

/-- The slots from `i` on begin with `i`. -/
theorem slotsFrom_of_lt {i : ℕ} (hi : i < maxContacts) :
    slotsFrom i = ⟨i, hi⟩ :: slotsFrom (i + 1) := by
  rw [slotsFrom, List.drop_eq_getElem_cons (by simpa using hi), List.getElem_finRange]
  rfl

/-- Behind the last slot there are none. -/
theorem slotsFrom_of_le {i : ℕ} (hi : maxContacts ≤ i) : slotsFrom i = [] := by
  rw [slotsFrom, List.drop_eq_nil_of_le (by simpa using hi)]

/-- The places of the records do not overflow. -/
theorem recordAt_lt (tpInfo : UInt8) {i : ℕ} (hi : i ≤ maxContacts) :
    recordAt tpInfo i + 5 < 2 ^ 64 := by
  have h := rank_le tpInfo i
  have : i ≤ 5 := hi
  rw [recordAt]
  omega

section Loop

variable {slots : List (Fin maxContacts)}

/-- A slot that is not declared is passed over. -/
theorem decodeSlots_undeclared (h : declared tpInfo slot = false) :
    decodeSlots r n hp p tpInfo (slot :: slots) o = decodeSlots r n hp p tpInfo slots o := by
  rw [decodeSlots, if_pos h]

/-- A declared slot behind the end of the report is an error. -/
theorem decodeSlots_short (h : declared tpInfo slot = true) (ho : o + 5 < 2 ^ 64)
    (hlen : n < o + 5) : decodeSlots r n hp p tpInfo (slot :: slots) o = pure einval := by
  rw [decodeSlots, if_neg (by simp [h]), checkedAdd, fingerDataLen, if_pos ho]
  simp only [if_pos hlen]

/-- One iteration on a declared slot whose record is complete: the five bytes of
the record are read, the contact is decoded, and the loop goes on behind it. -/
theorem run_decodeSlots_declared (h : declared tpInfo slot = true) (ho : o + 5 < 2 ^ 64)
    (hlen : o + 5 ≤ n) :
    (decodeSlots r n hp p tpInfo (slot :: slots) o).run f
      = (do
          emit (.read o)
          emit (.read (o + 1))
          emit (.read (o + 2))
          emit (.read (o + 3))
          emit (.read (o + 4))
          let early ← contactAt slot r n hp p o
          match early with
          | some status => pure status
          | none => decodeSlots r n hp p tpInfo slots (o + 5) : Decode ℤ).run f := by
  rw [decodeSlots, if_neg (by simp [h]), checkedAdd, fingerDataLen, if_pos ho]
  simp only [if_neg (show ¬ o + 5 > n by omega)]
  show Outcome.mk _ _ _ = Outcome.mk _ _ _
  simp only [value_bind, state_bind, trace_bind, run_readByteOrZero (show o < n by omega),
    run_readByteOrZero (show o + 1 < n by omega), run_readByteOrZero (show o + 2 < n by omega),
    run_readByteOrZero (show o + 3 < n by omega), run_readByteOrZero (show o + 4 < n by omega),
    run_emit]
  rfl

variable (r n hp p) in
/-- **Acceptance of the loop.**  From slot `i` on, the loop returns 0 exactly when
every declared slot still to come has an acceptable record, and `-EINVAL` otherwise. -/
theorem value_decodeSlots (k i : ℕ) (hk : i + k = maxContacts) (f : ElanRsFrame) :
    ((decodeSlots r n hp p (r 3) (slotsFrom i) (recordAt (r 3) i)).run f).value = 0
        ∧ (∀ s, i ≤ s → s < maxContacts → declares (r 3) s = true → AcceptsRecord hp p r n s)
      ∨ ((decodeSlots r n hp p (r 3) (slotsFrom i) (recordAt (r 3) i)).run f).value = einval
        ∧ ∃ s, i ≤ s ∧ s < maxContacts ∧ declares (r 3) s = true
          ∧ ¬ AcceptsRecord hp p r n s := by
  induction k generalizing i f with
  | zero =>
    rw [slotsFrom_of_le (by omega)]
    exact Or.inl ⟨rfl, fun s h1 h2 => absurd h2 (by omega)⟩
  | succ k ih =>
    have hi : i < maxContacts := by omega
    rw [slotsFrom_of_lt hi]
    have hdecl : declared (r 3) ⟨i, hi⟩ = declares (r 3) i := declared_eq_testBit _ _
    cases hd : declares (r 3) i with
    | false =>
      rw [decodeSlots_undeclared (by rw [hdecl, hd])]
      have hrec : recordAt (r 3) i = recordAt (r 3) (i + 1) := by
        rw [recordAt, recordAt, rank_succ_of_not_declares hd]
      rw [hrec]
      rcases ih (i + 1) (by omega) f with ⟨hv, hall⟩ | ⟨hv, s, h1, hs⟩
      · refine Or.inl ⟨hv, fun s h1 h2 h3 => ?_⟩
        have hne : s ≠ i := by rintro rfl; rw [hd] at h3; exact absurd h3 (by simp)
        exact hall s (by omega) h2 h3
      · exact Or.inr ⟨hv, s, by omega, hs⟩
    | true =>
      have ho := recordAt_lt (r 3) hi.le
      by_cases hlen : recordAt (r 3) i + 5 ≤ n
      · rw [run_decodeSlots_declared (by rw [hdecl, hd]) ho hlen]
        have hrec : recordAt (r 3) i + 5 = recordAt (r 3) (i + 1) := by
          rw [recordAt, recordAt, rank_succ_of_declares hd]
          omega
        simp only [value_bind, run_emit, hrec]
        by_cases hmiss : NeedsMk hp p ∧ InRange hp p r i ∧ n ≤ 33 + i
        · -- the area byte of this slot is missing: the loop stops here
          rw [value_contactAt_missing hmiss.2.1 hmiss.1 hmiss.2.2]
          refine Or.inr ⟨rfl, i, le_rfl, hi, hd, fun hacc => ?_⟩
          have := hacc.2 hmiss.1 hmiss.2.1
          omega
        · have hnone : ((contactAt ⟨i, hi⟩ r n hp p (recordAt (r 3) i)).run f).value = none := by
            by_cases hfit : FitsPad hp p r (recordAt (r 3) i)
            · refine (run_contactAt_filled ⟨i, hi⟩ f hfit fun hmk => ?_).1
              by_contra hlt
              exact hmiss ⟨hmk, hfit, by simpa using hlt⟩
            · rw [run_contactAt_outside hfit]
          rw [hnone]
          rcases ih (i + 1) (by omega) _ with ⟨hv, hall⟩ | ⟨hv, s, h1, hs⟩
          · refine Or.inl ⟨hv, fun s h1 h2 h3 => ?_⟩
            rcases Nat.eq_or_lt_of_le h1 with rfl | hlt
            · refine ⟨hlen, fun hmk hin => ?_⟩
              by_contra hge
              exact hmiss ⟨hmk, hin, by omega⟩
            · exact hall s hlt h2 h3
          · exact Or.inr ⟨hv, s, by omega, hs⟩
      · rw [decodeSlots_short (by rw [hdecl, hd]) ho (by omega)]
        exact Or.inr ⟨rfl, i, le_rfl, hi, hd, fun hacc => hlen hacc.1⟩

/-- **Frame of the loop.**  When every record is acceptable, the contacts of the
touching slots are filled, each from its own record. -/
theorem state_decodeSlots (k i : ℕ) (hk : i + k = maxContacts) (f : ElanRsFrame)
    (hall : ∀ s, i ≤ s → s < maxContacts → declares (r 3) s = true → AcceptsRecord hp p r n s) :
    ((decodeSlots r n hp p (r 3) (slotsFrom i) (recordAt (r 3) i)).run f).state
      = (slotsFrom i).foldl (fun f (s : Fin maxContacts) => if Touching hp p r s then
          putContact hp p r (recordAt (r 3) s) s f else f) f := by
  induction k generalizing i f with
  | zero =>
    rw [slotsFrom_of_le (by omega)]
    rfl
  | succ k ih =>
    have hi : i < maxContacts := by omega
    have hrest : ∀ s, i + 1 ≤ s → s < maxContacts → declares (r 3) s = true →
        AcceptsRecord hp p r n s := fun s h1 h2 h3 => hall s (by omega) h2 h3
    rw [slotsFrom_of_lt hi, List.foldl_cons]
    have hdecl : declared (r 3) ⟨i, hi⟩ = declares (r 3) i := declared_eq_testBit _ _
    cases hd : declares (r 3) i with
    | false =>
      have hrec : recordAt (r 3) i = recordAt (r 3) (i + 1) := by
        rw [recordAt, recordAt, rank_succ_of_not_declares hd]
      rw [decodeSlots_undeclared (by rw [hdecl, hd]), hrec, ih (i + 1) (by omega) f hrest,
        if_neg (fun ht => by rw [ht.1] at hd; exact absurd hd (by simp))]
    | true =>
      have hacc := hall i le_rfl hi hd
      rw [run_decodeSlots_declared (by rw [hdecl, hd]) (recordAt_lt _ hi.le) hacc.1]
      have hrec : recordAt (r 3) i + 5 = recordAt (r 3) (i + 1) := by
        rw [recordAt, recordAt, rank_succ_of_declares hd]
        omega
      simp only [state_bind, run_emit, hrec]
      by_cases hfit : FitsPad hp p r (recordAt (r 3) i)
      · obtain ⟨hv, hst⟩ := run_contactAt_filled ⟨i, hi⟩ f hfit fun hmk => hacc.2 hmk hfit
        rw [hv, hst, if_pos ⟨hd, hfit⟩]
        exact ih (i + 1) (by omega) _ hrest
      · rw [run_contactAt_outside hfit, if_neg (fun ht => hfit ht.2)]
        exact ih (i + 1) (by omega) _ hrest

/-- The loop stays inside the report, from any slot and any offset. -/
theorem decodeSlots_within (slots : List (Fin maxContacts)) (o : ℕ) :
    Only (Access.Within n) (decodeSlots r n hp p tpInfo slots o) := by
  induction slots generalizing o with
  | nil => exact Only.pure _
  | cons slot slots ih =>
    rw [decodeSlots]
    refine Only.ite (fun _ => ih o) fun _ => ?_
    rw [checkedAdd, fingerDataLen]
    by_cases ho : o + 5 < 2 ^ 64
    · rw [if_pos ho]
      refine Only.ite (fun _ => Only.pure _) fun hlen => ?_
      -- the record ends inside the report, and so does each of its five bytes
      refine Only.bind (readByteOrZero_within (by omega)) fun b0 => ?_
      refine Only.bind (readByteOrZero_within (by omega)) fun b1 => ?_
      refine Only.bind (readByteOrZero_within (by omega)) fun b2 => ?_
      refine Only.bind (readByteOrZero_within (by omega)) fun b3 => ?_
      refine Only.bind (readByteOrZero_within (by omega)) fun b4 => ?_
      refine Only.bind (decodeContact_within b0 b1 b2 b3 b4) fun early => ?_
      cases early with
      | some status => exact Only.pure _
      | none => exact ih (o + 5)
    · rw [if_neg ho]
      exact Only.pure _

end Loop

/-! ## Whole reports -/

/-- An absolute report without its byte 3 is rejected. -/
theorem run_decodeAbsolute_short (h : n ≤ 3) :
    (decodeAbsolute r n hp p).run f = ⟨einval, f, []⟩ := by
  show Outcome.mk _ _ _ = _
  rw [touchInfoOffset, run_readByte_of_le h]
  rfl

/-- What `decodeAbsolute` has written before the slot loop: kind, buttons, hover. -/
def absoluteHeader (r : Mem) (n : ℕ) (f : ElanRsFrame) : ElanRsFrame :=
  { f with
    kind := frameAbsolute
    buttons := (r 3 &&& 0x07).toUInt32
    hover := if 30 < n ∧ r 30 &&& 0x40 ≠ 0 then 1 else 0 }

/-- With byte 3 present, `decodeAbsolute` is its header followed by the slot loop. -/
theorem run_decodeAbsolute (h : 3 < n) :
    ((decodeAbsolute r n hp p).run f).value
        = ((decodeSlots r n hp p (r 3) (slotsFrom 0) (recordAt (r 3) 0)).run
            (absoluteHeader r n f)).value
      ∧ ((decodeAbsolute r n hp p).run f).state
        = ((decodeSlots r n hp p (r 3) (slotsFrom 0) (recordAt (r 3) 0)).run
            (absoluteHeader r n f)).state := by
  have hrec : recordAt (r 3) 0 = fingerDataOffset := by rw [recordAt, rank_zero]; rfl
  rw [decodeAbsolute, slotsFrom_zero, hrec]
  simp only [value_bind, state_bind, touchInfoOffset, hoverInfoOffset, run_readByte h, run_modify]
  by_cases h30 : 30 < n
  · simp only [run_readByte h30, absoluteHeader, h30, true_and, Option.elim_some, and_self]
  · simp only [run_readByte_of_le (Nat.le_of_not_lt h30), absoluteHeader, h30, false_and, if_false,
      Option.elim_none, and_self]

/-- An absolute report is read inside of its length. -/
theorem decodeAbsolute_within : Only (Access.Within n) (decodeAbsolute r n hp p) := by
  refine Only.bind readByte_within fun tpInfo => ?_
  cases tpInfo with
  | none => exact Only.pure _
  | some tpInfo =>
    refine Only.bind (Only.modify _) fun _ => Only.bind readByte_within fun _ => ?_
    exact Only.bind (Only.modify _) fun _ => decodeSlots_within _ _

/-- The relative motion of a trackpoint report, as the decoder writes it. -/
def trackpointMotion (r : Mem) (f : ElanRsFrame) : ElanRsFrame :=
  if r 6 &&& 0x0f = 0x06 then
    { f with
      relX := i32From (r 7) - (i32From (r 4 ^^^ 0x80) <<< 1)
      relY := (i32From (r 5 ^^^ 0x80) <<< 1) - i32From (r 8)
      relValid := 1 }
  else f

/-- A trackpoint report needs 9 bytes. -/
theorem run_decodeTrackpoint_short (h : n < 9) :
    (decodeTrackpoint r n).run f = ⟨einval, f, []⟩ := by
  rw [decodeTrackpoint, if_pos (by simp only [reportIdOffset]; omega)]
  rfl

/-- A trackpoint report gives its motion and its buttons. -/
theorem run_decodeTrackpoint (h : 9 ≤ n) :
    ((decodeTrackpoint r n).run f).value = 0
      ∧ ((decodeTrackpoint r n).run f).state
        = trackpointMotion r
            { f with kind := frameTrackpoint, buttons := (r 3 &&& 0x07).toUInt32 } := by
  rw [decodeTrackpoint, if_neg (by simp only [reportIdOffset]; omega)]
  simp only [value_bind, state_bind, reportIdOffset, run_modify, Nat.reduceAdd,
    run_readByteOrZero (show 3 < n by omega), run_readByteOrZero (show 4 < n by omega),
    run_readByteOrZero (show 5 < n by omega), run_readByteOrZero (show 6 < n by omega),
    run_readByteOrZero (show 7 < n by omega), run_readByteOrZero (show 8 < n by omega)]
  by_cases hrel : r 6 &&& 0x0f = 0x06
  · simp only [hrel, if_true, trackpointMotion, value_bind, state_bind, run_modify, run_pure]
    exact ⟨trivial, trivial⟩
  · simp only [hrel, if_false, trackpointMotion, run_pure]
    exact ⟨trivial, trivial⟩

/-- A trackpoint report is read inside of its length. -/
theorem decodeTrackpoint_within : Only (Access.Within n) (decodeTrackpoint r n) := by
  refine Only.ite (fun _ => Only.pure _) fun hlen => ?_
  simp only [reportIdOffset] at hlen ⊢
  refine Only.bind (readByteOrZero_within (by omega)) fun _ => ?_
  refine Only.bind (readByteOrZero_within (by omega)) fun _ => ?_
  refine Only.bind (readByteOrZero_within (by omega)) fun _ => ?_
  refine Only.bind (readByteOrZero_within (by omega)) fun _ => ?_
  refine Only.bind (readByteOrZero_within (by omega)) fun _ => ?_
  refine Only.bind (readByteOrZero_within (by omega)) fun _ => ?_
  refine Only.bind (Only.modify _) fun _ => ?_
  refine Only.ite (fun _ => Only.bind (Only.modify _) fun _ => Only.pure _) fun _ => Only.pure _

/-! ## The entry point -/

/-- A report needs 3 bytes. -/
theorem run_decodeReport_short (h : n ≤ 2) : (decodeReport r n p).run f = ⟨einval, f, []⟩ := by
  show Outcome.mk _ _ _ = _
  rw [reportIdOffset, run_readByte_of_le h]
  rfl

/-- The decoder of a report whose id byte is present, by id. -/
def decodeById (r : Mem) (n : ℕ) (p : DecodeParams) : Decode ℤ :=
  if r 2 = reportId then decodeAbsolute r n false p
  else if r 2 = reportId2 then decodeAbsolute r n true p
  else if r 2 = trackpointReportId ∨ r 2 = trackpointReportId2 then decodeTrackpoint r n
  else pure eproto

/-- Report `0x5d` is an absolute one. -/
theorem decodeById_of_5d (h : r 2 = 0x5d) : decodeById r n p = decodeAbsolute r n false p :=
  if_pos h

/-- Report `0x60` is an absolute one with high precision. -/
theorem decodeById_of_60 (h : r 2 = 0x60) : decodeById r n p = decodeAbsolute r n true p := by
  have h5d : r 2 ≠ reportId := by rw [h]; decide
  rw [decodeById, if_neg h5d]
  exact if_pos h

/-- Reports `0x5e` and `0x5f` are of the trackpoint. -/
theorem decodeById_of_trackpoint (h : r 2 = 0x5e ∨ r 2 = 0x5f) :
    decodeById r n p = decodeTrackpoint r n := by
  have h5d : r 2 ≠ reportId := by rcases h with h | h <;> (rw [h]; decide)
  have h60 : r 2 ≠ reportId2 := by rcases h with h | h <;> (rw [h]; decide)
  rw [decodeById, if_neg h5d, if_neg h60]
  exact if_pos h

/-- No other report is known. -/
theorem decodeById_of_unknown (h5d : r 2 ≠ 0x5d) (h60 : r 2 ≠ 0x60)
    (htp : ¬ (r 2 = 0x5e ∨ r 2 = 0x5f)) : decodeById r n p = pure eproto := by
  rw [decodeById, if_neg (show r 2 ≠ reportId from h5d), if_neg (show r 2 ≠ reportId2 from h60)]
  exact if_neg htp

/-- Once the id is read the frame is zeroed: what it held before is forgotten. -/
theorem run_decodeReport (h : 2 < n) (f : ElanRsFrame) :
    ((decodeReport r n p).run f).value = ((decodeById r n p).run ElanRsFrame.empty).value
      ∧ ((decodeReport r n p).run f).state
        = ((decodeById r n p).run ElanRsFrame.empty).state := by
  rw [decodeReport]
  simp only [value_bind, state_bind, reportIdOffset, run_readByte h, run_modify]
  exact ⟨rfl, rfl⟩

/-- Every report is read inside of its length. -/
theorem decodeReport_within : Only (Access.Within n) (decodeReport r n p) := by
  refine Only.bind readByte_within fun id => ?_
  cases id with
  | none => exact Only.pure _
  | some id =>
    refine Only.bind (Only.modify _) fun _ => ?_
    refine Only.ite (fun _ => decodeAbsolute_within) fun _ => ?_
    refine Only.ite (fun _ => decodeAbsolute_within) fun _ => ?_
    exact Only.ite (fun _ => decodeTrackpoint_within) fun _ => Only.pure _

end ElanCore
